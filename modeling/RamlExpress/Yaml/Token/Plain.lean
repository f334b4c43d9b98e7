import RamlExpress.Yaml.Gap

/-!
# Yaml/Token/Plain — scalars without quotes

A plain scalar runs over words and the gaps between them.  It ends before a comment, a document
marker, a colon with a gap behind it, and in a flow collection before that collection's indicators;
in a block collection it also ends before a line that is not indented deeper than the collection.
-/

namespace RamlExpress.Yaml

/-- The indicators of flow collections. -/
def isFlowIndicator (c : Char) : Bool :=
  c == ',' || c == '[' || c == ']' || c == '\x7b' || c == '\x7d'

/-- The characters of a plain scalar up to the next gap or the scalar's end. -/
def plainWord (flow : Bool) : List Char → Except Fault (List Char)
  | [] => .ok []
  | c :: rest =>
    if isGap c then .ok []
    else if flow && c == ':' && rest.head?.any (fun d => isFlowIndicator d || d == '?') then
      .error .colonInFlow
    else if (c == ':' && gapNext rest) || (flow && isFlowIndicator c) then .ok []
    else (plainWord flow rest).map (c :: ·)

/-- Reads on in a plain scalar: `text` holds its characters so far, last first, and `gap` what has
been passed since. -/
def plainFrom (flow : Bool) (indent : Nat) :
    Nat → List Char → Gap → Cursor → Except Fault (List Char × Gap × Cursor)
  | 0, text, gap, cursor => .ok (text, gap, cursor)
  | fuel + 1, text, gap, cursor =>
    if cursor.atMarker || cursor.sees '#' then .ok (text, gap, cursor)
    else do
      let word ← plainWord flow cursor.rest
      let (text, gap) :=
        if word.isEmpty then (text, gap)
        else (List.reverseAux (gap.text ++ word) text, ({} : Gap))
      let cursor := cursor.skip word.length
      if !cursor.seesIn isGap then return (text, gap, cursor)
      let (gap, cursor) ← takeGap (some indent) cursor.rest.length gap cursor
      if !flow && cursor.column < indent then return (text, gap, cursor)
      plainFrom flow indent fuel text gap cursor

/-- **A plain scalar**: its text, whether a line break follows it, and the cursor behind it. -/
def takePlain (flow : Bool) (indent : Nat) (cursor : Cursor) :
    Except Fault (String × Bool × Cursor) := do
  let (text, gap, cursor) ← plainFrom flow indent (cursor.rest.length + 1) [] {} cursor
  return (String.ofList text.reverse, gap.broken, cursor)

end RamlExpress.Yaml
