import RamlExpress.Uri

/-!
# FileSystem/Path — paths as text

A path is kept as it was written; joining and taking the parent never tidy the part that stays.
-/

namespace RamlExpress.Path

/-- The path starts at the root. -/
def isAbsolute (path : String) : Bool := path.toList.head? == some '/'

/-- A target seen from a directory: an absolute target stands for itself, and so does any target
seen from the empty path. -/
def join (base target : String) : String :=
  if isAbsolute target || base = "" then target
  else if base.toList.getLast? == some '/' then base ++ target
  else base ++ "/" ++ target

/-- The pieces of a path between its slashes. -/
def pieces (path : String) : List String := (slashPieces path.toList).map String.ofList

/-- A piece that leads nowhere else. -/
def isIdle (piece : String) : Bool := piece = "" || piece = "."

/-- A path of which nothing but its leading slash or leading dot is left out, and that part. -/
def splitFront (path : String) : String × String :=
  match path.toList with
  | '/' :: rest => ("/", String.ofList rest)
  | ['.'] => (".", "")
  | '.' :: '/' :: rest => (".", String.ofList ('/' :: rest))
  | _ => ("", path)

/-- The path without its last piece that leads somewhere.  Idle pieces behind it go with it; the
root and the empty path have no parent. -/
def parent? (path : String) : Option String :=
  let (front, body) := splitFront path
  match (pieces body).reverse.dropWhile isIdle with
  | [] => if front = "." then some "" else none
  | _ :: rest => some (front ++ "/".intercalate (rest.dropWhile isIdle).reverse)

/-- The path and its parents, as long as they have a parent and are not empty. -/
def ancestorsFrom : Nat → String → List String
  | 0, _ => []
  | fuel + 1, path =>
    match parent? path with
    | none => []
    | some parent => if path = "" then [] else path :: ancestorsFrom fuel parent

/-- The path and its parents up to, but without, the root and the empty path. -/
def ancestors (path : String) : List String := ancestorsFrom (path.length + 1) path

end RamlExpress.Path
