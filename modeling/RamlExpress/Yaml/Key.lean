import RamlExpress.Yaml.Character
import RamlExpress.Yaml.Scalar

/-!
# Yaml/Key — how the keys of a mapping are written

A key is written without quotes if it reads back as itself that way, else in single quotes, and in
double quotes if it holds something that needs an escape.  A key with line breaks, or a long one,
has to be announced by a question mark; with line feeds it is written as a literal block.
-/

namespace RamlExpress.Yaml.Key

/-- Characters that can be written as they are. -/
def isPrintable (c : Char) : Bool :=
  let n := c.toNat
  n == 0x0A || (0x20 ≤ n && n ≤ 0x7E) || (0xA0 ≤ n && n ≠ 0xFEFF && n ≠ 0xFFFE && n ≠ 0xFFFF)

/-- Characters that a plain key does not start with. -/
def startsNoPlain (c : Char) : Bool := "#,[]\x7b\x7d&*!|>'\"%@`".toList.contains c

/-- The first character makes a plain key impossible. -/
def badStart : List Char → Bool
  | [] => false
  | c :: rest =>
    startsNoPlain c || ((c == '?' || c == ':' || c == '-') && gapNext rest)

/-- A further character makes a plain key impossible: a colon before a gap or a hash behind one. -/
def badInside : Char → List Char → Bool
  | _, [] => false
  | previous, c :: rest =>
    (c == ':' && gapNext rest) || (c == '#' && isGap previous) || badInside c rest

/-- Two neighbours of the given classes, in this order. -/
def hasNeighbours (first second : Char → Bool) : List Char → Bool
  | a :: b :: rest => (first a && second b) || hasNeighbours first second (b :: rest)
  | _ => false

/-- A key starts like a document marker. -/
def startsLikeMarker (text : List Char) : Bool :=
  "---".toList.isPrefixOf text || "...".toList.isPrefixOf text

/-- A space. -/
def isSpace (c : Char) : Bool := c == ' '

/-- A key needs escapes: it has characters that cannot be written as they are, or a space before a
line break. -/
def needsEscapes (text : List Char) : Bool :=
  !text.all isPrintable || hasNeighbours isSpace isBreak text

/-- A key has line breaks. -/
def isMultiline (text : List Char) : Bool := text.any isBreak

/-- A key can be written without quotes. -/
def plainAllowed (text : List Char) : Bool :=
  !(startsLikeMarker text || badStart text
    || (match text with | [] => false | c :: rest => badInside c rest)
    || text.head?.any isSpace || text.getLast?.any isSpace || isMultiline text
    || needsEscapes text)

/-- A key can be written in single quotes. -/
def singleAllowed (text : List Char) : Bool :=
  !(needsEscapes text || hasNeighbours isBreak isSpace text)

/-- A key can be written as a literal block. -/
def literalAllowed (text : List Char) : Bool :=
  !(needsEscapes text || text.getLast?.any isSpace)

/-- The forms of a key. -/
inductive Form where
  | plain
  | single
  | double
  | literal
deriving Repr, DecidableEq

/-- The form in which a key is written. -/
def formOf (key : String) : Form :=
  let text := key.toList
  if text.contains '\n' then if literalAllowed text then .literal else .double
  else if !Scalar.isSpecial key && plainAllowed text then .plain
  else if singleAllowed text then .single
  else .double

/-- The longest key, in bytes, that is not announced. -/
def maxSimpleBytes : Nat := 128

/-- A key has to be announced by a question mark. -/
def isAnnounced (key : String) : Bool :=
  isMultiline key.toList || maxSimpleBytes < key.utf8ByteSize

/-- Spaces. -/
def spaces (n : Nat) : List Char := List.replicate n ' '

/-- The rest of a text in which every line but an empty one is indented; the flag says that a line
has just begun. -/
def indented (indent : Nat) : Bool → List Char → List Char
  | _, [] => []
  | fresh, c :: rest =>
    if isBreak c then c :: indented indent true rest
    else (if fresh then spaces indent else []) ++ c :: indented indent false rest

/-- A key in single quotes: quotes are doubled, and lines behind a break are indented. -/
def single (indent : Nat) (text : List Char) : List Char :=
  let body := indented indent false (text.flatMap fun c => if c == '\'' then [c, c] else [c])
  let close := if text.getLast?.any isBreak then spaces indent else []
  '\'' :: body ++ close ++ ['\'']

/-- A hexadecimal digit. -/
def upperHexDigit (n : Nat) : Char :=
  if n < 10 then Char.ofNat ('0'.toNat + n) else Char.ofNat ('A'.toNat + (n - 10))

/-- The last `width` hexadecimal digits of a number. -/
def upperHex : Nat → Nat → List Char
  | 0, _ => []
  | width + 1, n => upperHex width (n / 16) ++ [upperHexDigit (n % 16)]

/-- The letter of a character that has an escape of its own. -/
def escapeLetter? (c : Char) : Option Char :=
  [('\x00', '0'), ('\x07', 'a'), ('\x08', 'b'), ('\t', 't'), ('\n', 'n'), ('\x0b', 'v'),
    ('\x0c', 'f'), ('\r', 'r'), ('\x1b', 'e'), ('"', '"'), ('\\', '\\'), (nextLine, 'N'),
    (lineSeparator, 'L'), (paragraphSeparator, 'P')].lookup c

/-- One character in double quotes. -/
def escape (c : Char) : List Char :=
  match escapeLetter? c with
  | some letter => ['\\', letter]
  | none =>
    if isPrintable c then [c]
    else if c.toNat ≤ 0xFF then '\\' :: 'x' :: upperHex 2 c.toNat
    else '\\' :: 'u' :: upperHex 4 c.toNat

/-- A key in double quotes. -/
def double (text : List Char) : List Char := '"' :: text.flatMap escape ++ ['"']

/-- What the header of a literal block says about its ends: whether the indentation cannot be seen
from the first line, and how many line breaks to keep. -/
def hints (text : List Char) : List Char :=
  let first := if text.head?.any fun c => isSpace c || isBreak c then ['2'] else []
  let last := match text.reverse with
    | [] => ['-']
    | [c] => if isBreak c then ['+'] else ['-']
    | c :: before :: _ => if !isBreak c then ['-'] else if isBreak before then ['+'] else []
  first ++ last

/-- A key as a literal block. -/
def literal (indent : Nat) (text : List Char) : List Char :=
  '|' :: hints text ++ '\n' :: indented indent true text

/-- A key in its form, with continuation lines indented. -/
def written (indent : Nat) (key : String) : List Char :=
  let text := key.toList
  match formOf key with
  | .plain => text
  | .single => single indent text
  | .double => double text
  | .literal => literal indent text

/-- **A key with what announces it and with the colon**, for a mapping at an indentation. -/
def lead (indent : Nat) (key : String) : List Char :=
  let text := written (indent + 2) key
  if isAnnounced key then
    let close := if formOf key = .literal && text.getLast?.any isBreak then [] else ['\n']
    '?' :: ' ' :: text ++ close ++ spaces indent ++ [':']
  else text ++ [':']

end RamlExpress.Yaml.Key
