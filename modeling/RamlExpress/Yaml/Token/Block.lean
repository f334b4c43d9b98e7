import RamlExpress.Yaml.Cursor
import RamlExpress.Yaml.Fault

/-!
# Yaml/Token/Block — literal and folded scalars

A header gives the style, how the line breaks at the end are kept, and the indentation, which is
otherwise that of the first line with text.  In the folded style a single line feed between two
lines that do not start with a blank becomes a space.
-/

namespace RamlExpress.Yaml

/-- How the line breaks at the end of a block scalar are kept. -/
inductive Chomp where
  | strip
  | clip
  | keep
deriving Repr, DecidableEq

/-- The header of a block scalar. -/
structure BlockHeader where
  literal : Bool
  chomp : Chomp := .clip
  /-- The indentation relative to the parent, if the header gives it. -/
  indent : Option Nat := none
deriving Repr

/-- A chomping indicator. -/
def chomp? : Char → Option Chomp
  | '+' => some .keep
  | '-' => some .strip
  | _ => none

/-- The indicators of a header behind its style, in either order. -/
def takeIndicators (header : BlockHeader) (cursor : Cursor) :
    Except Fault (BlockHeader × Cursor) :=
  let digit (header : BlockHeader) (cursor : Cursor) : Except Fault (BlockHeader × Cursor) :=
    match cursor.rest with
    | c :: _ =>
      if c == '0' then .error .malformedBlockHeader
      else if c.isDigit then
        .ok ({ header with indent := some (c.toNat - '0'.toNat) }, cursor.skip 1)
      else .ok (header, cursor)
    | [] => .ok (header, cursor)
  let chomping (header : BlockHeader) (cursor : Cursor) : BlockHeader × Cursor :=
    match cursor.rest.head?.bind chomp? with
    | some chomp => ({ header with chomp }, cursor.skip 1)
    | none => (header, cursor)
  if (cursor.rest.head?.bind chomp?).isSome then
    let (header, cursor) := chomping header cursor
    digit header cursor
  else do
    let (header', cursor') ← digit header cursor
    if header'.indent.isSome then return chomping header' cursor' else return (header, cursor)

/-- Passes the indentation and empty lines before a line with text.  Gives the line breaks passed,
and the deepest column that indentation reached; `indent` bounds the indentation once it is
known. -/
def takeIndentation (indent : Option Nat) :
    Nat → List Char → Nat → Cursor → Except Fault (List Char × Nat × Cursor)
  | 0, breaks, deepest, cursor => .ok (breaks, deepest, cursor)
  | fuel + 1, breaks, deepest, cursor =>
    let spaces := (cursor.rest.takeWhile (· == ' ')).length
    let cursor := cursor.skip (match indent with
      | some indent => min spaces (indent - cursor.column)
      | none => spaces)
    let deepest := max deepest cursor.column
    let shallow := indent.all (cursor.column < ·)
    if shallow && cursor.sees '\t' then .error .tabInIndentation
    else if cursor.seesIn isBreak then
      let (kept, cursor) := cursor.takeBreak
      takeIndentation indent fuel (breaks ++ kept) deepest cursor
    else .ok (breaks, deepest, cursor)

/-- Reads on in a block scalar, line by line: `text` holds its characters so far, last first,
`first` the line break that ended the last line, `further` those of the empty lines since, and
`blank` whether the last line started with a blank. -/
def blockFrom (literal : Bool) (indent : Nat) :
    Nat → List Char → List Char → List Char → Bool → Cursor →
      Except Fault (List Char × List Char × List Char × Cursor)
  | 0, text, first, further, _, cursor => .ok (text, first, further, cursor)
  | fuel + 1, text, first, further, blank, cursor =>
    if cursor.column ≠ indent || cursor.rest.isEmpty then .ok (text, first, further, cursor)
    else do
      let blankNow := cursor.seesIn isBlank
      let joint :=
        if !literal && first == ['\n'] && !blank && !blankNow then
          if further.isEmpty then [' '] else []
        else first
      let line := cursor.rest.takeWhile (!isBreak ·)
      let text := List.reverseAux (joint ++ further ++ line) text
      let (first, cursor) := (cursor.skip line.length).takeBreak
      let (further, _, cursor) ←
        takeIndentation (some indent) (cursor.rest.length + 1) [] 0 cursor
      blockFrom literal indent fuel text first further blankNow cursor

/-- **A block scalar**, the cursor standing on its style indicator; `parent` is the indentation of
the collection it stands in, which is -1 outside of all. -/
def takeBlock (literal : Bool) (parent : Int) (cursor : Cursor) :
    Except Fault (String × Cursor) := do
  let (header, cursor) ← takeIndicators { literal } (cursor.skip 1)
  let cursor := cursor.skipWhile isBlank
  let cursor := if cursor.sees '#' then cursor.skipToLineEnd else cursor
  if !lineEndNext cursor.rest then throw .malformedBlockHeader
  let cursor := cursor.skipBreak
  let given := header.indent.map fun n => (max parent 0).toNat + n
  let (further, deepest, cursor) ←
    takeIndentation given (cursor.rest.length + 1) [] 0 cursor
  let indent := given.getD (max (max deepest (parent + 1).toNat) 1)
  let (text, first, further, cursor) ←
    blockFrom literal indent (cursor.rest.length + 1) [] [] further false cursor
  let tail := match header.chomp with
    | .strip => []
    | .clip => first
    | .keep => first ++ further
  return (String.ofList (text.reverse ++ tail), cursor)

end RamlExpress.Yaml
