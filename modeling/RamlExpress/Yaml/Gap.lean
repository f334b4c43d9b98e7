import RamlExpress.Yaml.Cursor
import RamlExpress.Yaml.Fault

/-!
# Yaml/Gap — blanks and line breaks inside a scalar

Between two words of a flow scalar stands a gap.  Blanks alone are kept.  A gap with a line break is
folded: one line feed becomes a space, and of several all but the first are kept; blanks around the
breaks are dropped.
-/

namespace RamlExpress.Yaml

/-- What stands between two words of a scalar. -/
structure Gap where
  /-- The blanks before the first line break, last first. -/
  blanks : List Char := []
  /-- A line break was met. -/
  broken : Bool := false
  /-- The first line break. -/
  first : List Char := []
  /-- The further line breaks. -/
  further : List Char := []
deriving Repr

/-- What a gap contributes to the text of its scalar. -/
def Gap.text (gap : Gap) : List Char :=
  if gap.broken then
    if gap.first = ['\n'] then if gap.further.isEmpty then [' '] else gap.further
    else gap.first ++ gap.further
  else gap.blanks.reverse

/-- Reads a gap to its end.  Where `indent` is given, a tab that stands before this column on a line
of its own is refused. -/
def takeGap (indent : Option Nat) : Nat → Gap → Cursor → Except Fault (Gap × Cursor)
  | 0, gap, cursor => .ok (gap, cursor)
  | fuel + 1, gap, cursor =>
    match cursor.rest with
    | [] => .ok (gap, cursor)
    | c :: _ =>
      if isBlank c then
        if gap.broken then
          if c = '\t' && indent.any (cursor.column < ·) then .error .tabInIndentation
          else takeGap indent fuel gap (cursor.skip 1)
        else takeGap indent fuel { gap with blanks := c :: gap.blanks } (cursor.skip 1)
      else if isBreak c then
        let (kept, behind) := cursor.takeBreak
        if gap.broken then
          takeGap indent fuel { gap with further := gap.further ++ kept } behind
        else takeGap indent fuel { gap with broken := true, blanks := [], first := kept } behind
      else .ok (gap, cursor)

end RamlExpress.Yaml
