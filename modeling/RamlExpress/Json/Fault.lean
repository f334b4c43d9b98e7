/-!
# Json/Fault — what is wrong with a text that is not JSON

A fault is a cause and the place up to which the text had been read: its line, and the number of
bytes after the last line break.
-/

namespace RamlExpress.Json

/-- Why a text is not JSON. -/
inductive Cause where
  | endInValue
  | endInString
  | endInObject
  | endInList
  | valueExpected
  | wordExpected
  | invalidNumber
  | numberOutOfRange
  | controlCharacter
  | invalidEscape
  | loneSurrogate
  | unfinishedSurrogate
  | keyExpected
  | colonExpected
  | commaOrBraceExpected
  | commaOrBracketExpected
  | trailingComma
  | trailingCharacters
  | tooDeep
deriving Repr, DecidableEq

/-- The wording of a cause. -/
def Cause.message : Cause → String
  | endInValue => "EOF while parsing a value"
  | endInString => "EOF while parsing a string"
  | endInObject => "EOF while parsing an object"
  | endInList => "EOF while parsing a list"
  | valueExpected => "expected value"
  | wordExpected => "expected ident"
  | invalidNumber => "invalid number"
  | numberOutOfRange => "number out of range"
  | controlCharacter => "control character (\\u0000-\\u001F) found while parsing a string"
  | invalidEscape => "invalid escape"
  | loneSurrogate => "lone leading surrogate in hex escape"
  | unfinishedSurrogate => "unexpected end of hex escape"
  | keyExpected => "key must be a string"
  | colonExpected => "expected `:`"
  | commaOrBraceExpected => "expected `,` or `\x7d`"
  | commaOrBracketExpected => "expected `,` or `]`"
  | trailingComma => "trailing comma"
  | trailingCharacters => "trailing characters"
  | tooDeep => "recursion limit exceeded"

/-- A cause with the place up to which the text had been read. -/
structure Fault where
  cause : Cause
  line : Nat
  column : Nat
deriving Repr, DecidableEq

/-- The wording of a fault. -/
def Fault.message (fault : Fault) : String :=
  fault.cause.message ++ " at line " ++ toString fault.line ++ " column " ++ toString fault.column

/-- The line and column reached after `bytes` bytes, from the given ones on. -/
def placeFrom (line column : Nat) : List Char → Nat → Nat × Nat
  | [], _ => (line, column)
  | c :: rest, bytes =>
    if bytes = 0 then (line, column)
    else if c = '\n' then placeFrom (line + 1) 0 rest (bytes - 1)
    else if bytes < c.utf8Size then (line, column + bytes)
    else placeFrom line (column + c.utf8Size) rest (bytes - c.utf8Size)

/-- The fault of a text at a byte offset. -/
def Fault.at (cause : Cause) (text : List Char) (bytes : Nat) : Fault :=
  let (line, column) := placeFrom 1 0 text bytes
  ⟨cause, line, column⟩

end RamlExpress.Json
