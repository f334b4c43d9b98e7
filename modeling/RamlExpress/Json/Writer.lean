import RamlExpress.Json

/-!
# Json/Writer — JSON as text

The compact form has no blanks.  The laid-out form puts every item and member on a line of its own
and indents it by a fixed width per level; a collection without entries stays on its line.
-/

namespace RamlExpress.Json

/-- Doubles in JSON carry a plus sign on a positive exponent. -/
def realStyle : RealStyle := ⟨true⟩

/-- A number as JSON text; what is not finite has no number and is written as null. -/
def numberText : Number → List Char
  | .integer value => (toString value).toList
  | .real (.finite negative mantissa exponent) =>
    (Number.realText realStyle negative mantissa exponent).toList
  | .real _ => ['n', 'u', 'l', 'l']

/-- A hexadecimal digit. -/
def hexDigit (n : Nat) : Char :=
  if n < 10 then Char.ofNat ('0'.toNat + n) else Char.ofNat ('a'.toNat + (n - 10))

/-- One character inside a string. -/
def escapeChar (c : Char) : List Char :=
  match c with
  | '"' => ['\\', '"']
  | '\\' => ['\\', '\\']
  | '\x08' => ['\\', 'b']
  | '\x0c' => ['\\', 'f']
  | '\n' => ['\\', 'n']
  | '\r' => ['\\', 'r']
  | '\t' => ['\\', 't']
  | c =>
    if c.toNat < 0x20 then
      ['\\', 'u', '0', '0', hexDigit (c.toNat / 16), hexDigit (c.toNat % 16)]
    else [c]

/-- A string in its quotes. -/
def quote (s : String) : List Char := '"' :: s.toList.flatMap escapeChar ++ ['"']

mutual

/-- A value without blanks. -/
def compactChars : Json → List Char
  | null => ['n', 'u', 'l', 'l']
  | bool true => ['t', 'r', 'u', 'e']
  | bool false => ['f', 'a', 'l', 's', 'e']
  | number value => numberText value
  | string value => quote value
  | array items => '[' :: compactItems items ++ [']']
  | object members => '\x7b' :: compactMembers members ++ ['\x7d']

/-- Items with commas between them. -/
def compactItems : List Json → List Char
  | [] => []
  | [item] => compactChars item
  | item :: rest => compactChars item ++ ',' :: compactItems rest

/-- Members with commas between them. -/
def compactMembers : List (String × Json) → List Char
  | [] => []
  | [(name, value)] => quote name ++ ':' :: compactChars value
  | (name, value) :: rest =>
    quote name ++ ':' :: compactChars value ++ ',' :: compactMembers rest

end

/-- A line break and the indentation of a level. -/
def lineAt (width level : Nat) : List Char := '\n' :: List.replicate (width * level) ' '

mutual

/-- A value laid out, its last line being at `level`. -/
def prettyChars (width level : Nat) : Json → List Char
  | null => ['n', 'u', 'l', 'l']
  | bool true => ['t', 'r', 'u', 'e']
  | bool false => ['f', 'a', 'l', 's', 'e']
  | number value => numberText value
  | string value => quote value
  | array [] => ['[', ']']
  | object [] => ['\x7b', '\x7d']
  | array (item :: rest) =>
    '[' :: prettyItems width (level + 1) (item :: rest) ++ lineAt width level ++ [']']
  | object (member :: rest) =>
    '\x7b' :: prettyMembers width (level + 1) (member :: rest) ++ lineAt width level ++ ['\x7d']

/-- Items on lines of their own, with commas between them. -/
def prettyItems (width level : Nat) : List Json → List Char
  | [] => []
  | [item] => lineAt width level ++ prettyChars width level item
  | item :: rest =>
    lineAt width level ++ prettyChars width level item ++ ',' :: prettyItems width level rest

/-- Members on lines of their own, with commas between them. -/
def prettyMembers (width level : Nat) : List (String × Json) → List Char
  | [] => []
  | [(name, value)] =>
    lineAt width level ++ quote name ++ ':' :: ' ' :: prettyChars width level value
  | (name, value) :: rest =>
    lineAt width level ++ quote name ++ ':' :: ' ' :: prettyChars width level value
      ++ ',' :: prettyMembers width level rest

end

/-- A value as text without blanks. -/
def compact (value : Json) : String := String.ofList (compactChars value)

/-- A value as text laid out with an indentation of `width` per level. -/
def pretty (width : Nat) (value : Json) : String := String.ofList (prettyChars width 0 value)

end RamlExpress.Json
