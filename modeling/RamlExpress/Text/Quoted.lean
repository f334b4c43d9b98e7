import RamlExpress.Text.Printable

/-!
# Text/Quoted — text in double quotes, for log lines

A quote and a backslash are escaped, the common controls have short escapes, and every other
character that is not printable is written by its code point in braces.
-/

namespace RamlExpress.Text

/-- The lower-case hexadecimal digits of a number, without leading zeros. -/
def hexDigits (n : Nat) : List Char := Nat.toDigits 16 n

/-- One character of a quoted text. -/
def quoteChar (c : Char) : List Char :=
  match c with
  | '\x00' => ['\\', '0']
  | '\t' => ['\\', 't']
  | '\r' => ['\\', 'r']
  | '\n' => ['\\', 'n']
  | '"' => ['\\', '"']
  | '\\' => ['\\', '\\']
  | c => if isPrintable c then [c] else ['\\', 'u', '\x7b'] ++ hexDigits c.toNat ++ ['\x7d']

/-- A text in double quotes. -/
def quoted (s : String) : String :=
  String.ofList ('"' :: s.toList.flatMap quoteChar ++ ['"'])

/-- A path in double quotes; single quotes are escaped in it as well. -/
def quotedPath (path : String) : String :=
  let quotePathChar (c : Char) : List Char := if c = '\'' then ['\\', '\''] else quoteChar c
  String.ofList ('"' :: path.toList.flatMap quotePathChar ++ ['"'])

/-- A bracketed list of quoted texts. -/
def quotedList (items : List String) : String :=
  "[" ++ ", ".intercalate (items.map quoted) ++ "]"

end RamlExpress.Text
