/-!
# Yaml/Character — classes of characters in YAML 1.1

Line breaks are carriage return, line feed, next line, and the line and paragraph separators.
Blanks are the space and the tab.
-/

namespace RamlExpress.Yaml

/-- The next-line control. -/
def nextLine : Char := '\x85'

/-- The line separator. -/
def lineSeparator : Char := '\u2028'

/-- The paragraph separator. -/
def paragraphSeparator : Char := '\u2029'

/-- The byte order mark. -/
def byteOrderMark : Char := '\ufeff'

/-- A character that a document may hold. -/
def isAllowed (c : Char) : Bool :=
  let n := c.toNat
  n == 0x09 || n == 0x0A || n == 0x0D || (0x20 ≤ n && n ≤ 0x7E) || n == 0x85
    || (0xA0 ≤ n && n ≤ 0xFFFD) || 0x10000 ≤ n

/-- A space or a tab. -/
def isBlank (c : Char) : Bool := c == ' ' || c == '\t'

/-- A line break, or the first half of one. -/
def isBreak (c : Char) : Bool :=
  c == '\r' || c == '\n' || c == nextLine || c == lineSeparator || c == paragraphSeparator

/-- A blank or a line break. -/
def isGap (c : Char) : Bool := isBlank c || isBreak c

/-- Characters of names: letters, digits, underscore and hyphen. -/
def isNameChar (c : Char) : Bool := c.isAlphanum || c == '_' || c == '-'

/-- A blank, a line break or the end of the text comes next. -/
def gapNext : List Char → Bool
  | [] => true
  | c :: _ => isGap c

/-- A line break or the end of the text comes next. -/
def lineEndNext : List Char → Bool
  | [] => true
  | c :: _ => isBreak c

/-- The line starts with a document marker: three hyphens or three dots, then a gap. -/
def markerNext : List Char → Bool
  | '-' :: '-' :: '-' :: rest => gapNext rest
  | '.' :: '.' :: '.' :: rest => gapNext rest
  | _ => false

/-- The value of a hexadecimal digit. -/
def hexDigit? (c : Char) : Option Nat :=
  if '0' ≤ c ∧ c ≤ '9' then some (c.toNat - '0'.toNat)
  else if 'a' ≤ c ∧ c ≤ 'f' then some (c.toNat - 'a'.toNat + 10)
  else if 'A' ≤ c ∧ c ≤ 'F' then some (c.toNat - 'A'.toNat + 10)
  else none

end RamlExpress.Yaml
