/-!
# Uri — resource paths and their segments

A path is cut at its slashes; a piece in braces is a parameter, any other a literal.  Empty pieces
are dropped, so a doubled or trailing slash leaves no segment.
-/

namespace RamlExpress

/-- The pieces of a text between slashes; there is always at least one. -/
def slashPieces : List Char → List (List Char)
  | [] => [[]]
  | c :: rest =>
    if c = '/' then [] :: slashPieces rest
    else
      match slashPieces rest with
      | [] => [[c]]
      | piece :: pieces => (c :: piece) :: pieces

/-- The text between the braces of a piece that starts with an opening brace and, after it, ends
with a closing one. -/
def unbraced? : List Char → Option (List Char)
  | '\x7b' :: rest => if rest.getLast? = some '\x7d' then some rest.dropLast else none
  | _ => none

/-- A segment of a resource path. -/
inductive Segment where
  | literal (name : String)
  | parameter (name : String)
deriving Repr, DecidableEq

namespace Segment

/-- Reads one piece of a path. -/
def ofPiece (piece : String) : Segment :=
  match unbraced? piece.toList with
  | some name => .parameter (String.ofList name)
  | none => .literal piece

/-- A segment as it stands in a path. -/
def text : Segment → String
  | .literal name => name
  | .parameter name => "\x7b" ++ name ++ "\x7d"

/-- The name of a literal segment. -/
def literal? : Segment → Option String
  | .literal name => some name
  | .parameter _ => none

/-- The name of a parameter. -/
def parameter? : Segment → Option String
  | .literal _ => none
  | .parameter name => some name

end Segment

/-- The pieces of a path that are not empty. -/
def pathPieces (uri : String) : List String :=
  ((slashPieces uri.toList).filter (· ≠ [])).map String.ofList

/-- **The segments of a path.** -/
def segmentsOf (uri : String) : List Segment := (pathPieces uri).map Segment.ofPiece

/-- Segments written as a path, each behind a slash. -/
def pathText (segments : List Segment) : String :=
  String.join (segments.map fun segment => "/" ++ segment.text)

end RamlExpress
