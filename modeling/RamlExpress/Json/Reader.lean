import RamlExpress.Json
import RamlExpress.Json.Fault
import RamlExpress.Json.Numeral

/-!
# Json/Reader — reading JSON, one character at a time

The reader is a machine with a stack of open collections; `Machine.step` takes one character, so
that reading is a fold over the text and ends where the text ends.  A machine that refuses a
character gives the cause and the number of bytes up to and including the refused one.

* `Json.parse` — the value a text stands for, or its first fault.
-/

namespace RamlExpress.Json

/-- A collection that has been opened: the items so far, last first, or the members so far and the
name that comes next. -/
inductive Frame where
  | array (items : List Json)
  | object (members : List (String × Json)) (name : String)
deriving Repr

/-- What an escape in a string still needs. -/
inductive Escape where
  /-- The letter behind the backslash. -/
  | letter
  /-- Hexadecimal digits: how many bytes of four have come, and their value unless one of them is
  no digit; `high` is a surrogate that this escape completes. -/
  | hex (high : Option Nat) (bytes : Nat) (value : Option Nat)
  /-- The backslash of the second half of a surrogate pair. -/
  | lowSlash (high : Nat)
  /-- The letter of the second half of a surrogate pair. -/
  | lowLetter (high : Nat)
deriving Repr

/-- What the machine expects next. -/
inductive Mode where
  /-- A value. -/
  | value
  /-- The first item of an array, or its end. -/
  | firstItem
  /-- A further item of an array. -/
  | nextItem
  /-- The first name of an object, or its end. -/
  | firstName
  /-- A further name of an object. -/
  | nextName
  /-- The colon behind a name. -/
  | colon
  /-- What may follow an item or member. -/
  | after
  /-- Nothing but blanks: the text's value is complete. -/
  | done (value : Json)
  /-- The remaining letters of a word. -/
  | word (rest : List Char) (value : Json)
  /-- A number. -/
  | numeral (numeral : Numeral)
  /-- The rest of a string or name; its characters so far stand last first. -/
  | text (isName : Bool) (chars : List Char) (escape : Option Escape)
deriving Repr

/-- The state of the reader. -/
structure Machine where
  stack : List Frame
  mode : Mode
deriving Repr

/-- How many collections may be open at once. -/
def maxDepth : Nat := 127

/-- White space between the parts of a text. -/
def isSpace (c : Char) : Bool := c == ' ' || c == '\t' || c == '\n' || c == '\r'

/-- The value of a decimal digit. -/
def digit? (c : Char) : Option Nat :=
  if '0' ≤ c ∧ c ≤ '9' then some (c.toNat - '0'.toNat) else none

/-- The value of a hexadecimal digit. -/
def hexDigit? (c : Char) : Option Nat :=
  if '0' ≤ c ∧ c ≤ '9' then some (c.toNat - '0'.toNat)
  else if 'a' ≤ c ∧ c ≤ 'f' then some (c.toNat - 'a'.toNat + 10)
  else if 'A' ≤ c ∧ c ≤ 'F' then some (c.toNat - 'A'.toNat + 10)
  else none

namespace Machine

/-- The machine before the first character. -/
def start : Machine := ⟨[], .value⟩

/-- Hands a finished value to the innermost open collection. -/
def complete (stack : List Frame) (value : Json) : Machine :=
  match stack with
  | [] => ⟨[], .done value⟩
  | .array items :: rest => ⟨.array (value :: items) :: rest, .after⟩
  | .object members name :: rest => ⟨.object (putEntry name value members) name :: rest, .after⟩

/-- Opens a collection, unless too many are open. -/
def openFrame (stack : List Frame) (frame : Frame) (mode : Mode) (offset : Nat) :
    Except (Cause × Nat) Machine :=
  if stack.length < maxDepth then .ok ⟨frame :: stack, mode⟩ else .error (.tooDeep, offset + 1)

/-- The first character of a value. -/
def beginValue (stack : List Frame) (offset : Nat) (c : Char) : Except (Cause × Nat) Machine :=
  match c with
  | '\x7b' => openFrame stack (.object [] "") .firstName offset
  | '[' => openFrame stack (.array []) .firstItem offset
  | '"' => .ok ⟨stack, .text false [] none⟩
  | '-' => .ok ⟨stack, .numeral { part := .sign, negative := true }⟩
  | 't' => .ok ⟨stack, .word ['r', 'u', 'e'] (.bool true)⟩
  | 'f' => .ok ⟨stack, .word ['a', 'l', 's', 'e'] (.bool false)⟩
  | 'n' => .ok ⟨stack, .word ['u', 'l', 'l'] .null⟩
  | c =>
    match digit? c with
    | some 0 => .ok ⟨stack, .numeral { part := .zero }⟩
    | some d => .ok ⟨stack, .numeral { part := .whole, significand := d }⟩
    | none => .error (.valueExpected, offset + 1)

/-- A character behind a finished value. -/
def afterValue (machine : Machine) (offset : Nat) (c : Char) : Except (Cause × Nat) Machine :=
  if isSpace c then .ok machine
  else
    match machine.stack with
    | [] => .error (.trailingCharacters, offset + 1)
    | .array items :: rest =>
      if c = ',' then .ok ⟨.array items :: rest, .nextItem⟩
      else if c = ']' then .ok (complete rest (.array items.reverse))
      else .error (.commaOrBracketExpected, offset + 1)
    | .object members name :: rest =>
      if c = ',' then .ok ⟨.object members name :: rest, .nextName⟩
      else if c = '\x7d' then .ok (complete rest (.object members))
      else .error (.commaOrBraceExpected, offset + 1)

/-- Closes the array that has just been opened. -/
def closeEmptyArray : List Frame → Machine
  | _ :: rest => complete rest (.array [])
  | [] => start

/-- Closes the object that has just been opened. -/
def closeEmptyObject : List Frame → Machine
  | _ :: rest => complete rest (.object [])
  | [] => start

/-- Ends a string: a name waits for its colon, any other string is a value. -/
def endText (stack : List Frame) (isName : Bool) (chars : List Char) : Machine :=
  let text := String.ofList chars.reverse
  match isName, stack with
  | true, .object members _ :: rest => ⟨.object members text :: rest, .colon⟩
  | _, _ => complete stack (.string text)

/-- The letter behind a backslash. -/
def escapeLetter (stack : List Frame) (isName : Bool) (chars : List Char) (offset : Nat)
    (c : Char) : Except (Cause × Nat) Machine :=
  let put (x : Char) : Except (Cause × Nat) Machine := .ok ⟨stack, .text isName (x :: chars) none⟩
  match c with
  | '"' => put '"'
  | '\\' => put '\\'
  | '/' => put '/'
  | 'b' => put '\x08'
  | 'f' => put '\x0c'
  | 'n' => put '\n'
  | 'r' => put '\r'
  | 't' => put '\t'
  | 'u' => .ok ⟨stack, .text isName chars (some (.hex none 0 (some 0)))⟩
  | _ => .error (.invalidEscape, offset + 1)

/-- The four digits of an escape are complete. -/
def endHex (stack : List Frame) (isName : Bool) (chars : List Char) (high : Option Nat)
    (offset : Nat) (code : Nat) : Except (Cause × Nat) Machine :=
  let isLow := 0xDC00 ≤ code && code ≤ 0xDFFF
  match high with
  | some first =>
    if isLow then
      let code := (first - 0xD800) * 0x400 + (code - 0xDC00) + 0x10000
      .ok ⟨stack, .text isName (Char.ofNat code :: chars) none⟩
    else .error (.loneSurrogate, offset)
  | none =>
    if isLow then .error (.loneSurrogate, offset)
    else if 0xD800 ≤ code && code ≤ 0xDBFF then
      .ok ⟨stack, .text isName chars (some (.lowSlash code))⟩
    else .ok ⟨stack, .text isName (Char.ofNat code :: chars) none⟩

/-- A character inside an escape. -/
def stepEscape (stack : List Frame) (isName : Bool) (chars : List Char) (escape : Escape)
    (offset : Nat) (c : Char) : Except (Cause × Nat) Machine :=
  match escape with
  | .letter => escapeLetter stack isName chars offset c
  | .hex high bytes value =>
    let value := do pure ((← value) * 16 + (← hexDigit? c))
    if bytes + c.utf8Size < 4 then
      .ok ⟨stack, .text isName chars (some (.hex high (bytes + c.utf8Size) value))⟩
    else
      match value with
      | some code => endHex stack isName chars high (offset + (4 - bytes)) code
      | none => .error (.invalidEscape, offset + (4 - bytes))
  | .lowSlash high =>
    if c = '\\' then .ok ⟨stack, .text isName chars (some (.lowLetter high))⟩
    else .error (.unfinishedSurrogate, offset + 1)
  | .lowLetter high =>
    if c = 'u' then .ok ⟨stack, .text isName chars (some (.hex (some high) 0 (some 0)))⟩
    else .error (.unfinishedSurrogate, offset + 1)

/-- A character inside a string. -/
def stepText (stack : List Frame) (isName : Bool) (chars : List Char) (offset : Nat) (c : Char) :
    Except (Cause × Nat) Machine :=
  if c = '"' then .ok (endText stack isName chars)
  else if c = '\\' then .ok ⟨stack, .text isName chars (some .letter)⟩
  else if c.toNat < 0x20 then .error (.controlCharacter, offset + 1)
  else .ok ⟨stack, .text isName (c :: chars) none⟩

/-- What a character does to a numeral. -/
inductive NumeralStep where
  | more (numeral : Numeral)
  | ended
  | refused (cause : Cause)

/-- A character behind part of a numeral. -/
def stepNumeral (n : Numeral) (c : Char) : NumeralStep :=
  let isMark := c = 'e' || c = 'E'
  match n.part, digit? c with
  | .sign, some 0 => .more { n with part := .zero }
  | .sign, some d => .more { n with part := .whole, significand := d }
  | .zero, some _ => .refused .invalidNumber
  | .whole, some d => .more (n.addWhole d)
  | .point, some d | .fraction, some d => .more { n.addFraction d with part := .fraction }
  | .mark, some d | .markSign, some d | .exponent, some d =>
    match n.addExponent? d with
    | some n => .more { n with part := .exponent }
    | none => .refused .numberOutOfRange
  | .zero, none | .whole, none =>
    if c = '.' then .more { n with part := .point, real := true, full := false }
    else if isMark then .more { n with part := .mark, real := true }
    else .ended
  | .fraction, none => if isMark then .more { n with part := .mark } else .ended
  | .exponent, none => .ended
  | .mark, none =>
    if c = '+' then .more { n with part := .markSign }
    else if c = '-' then .more { n with part := .markSign, exponentNegative := true }
    else .refused .invalidNumber
  | .sign, none | .point, none | .markSign, none => .refused .invalidNumber

/-- **One character.** -/
def step (machine : Machine) (offset : Nat) (c : Char) : Except (Cause × Nat) Machine :=
  let stack := machine.stack
  match machine.mode with
  | .value => if isSpace c then .ok machine else beginValue stack offset c
  | .firstItem =>
    if isSpace c then .ok machine
    else if c = ']' then .ok (closeEmptyArray stack)
    else beginValue stack offset c
  | .nextItem =>
    if isSpace c then .ok machine
    else if c = ']' then .error (.trailingComma, offset + 1)
    else beginValue stack offset c
  | .firstName =>
    if isSpace c then .ok machine
    else if c = '\x7d' then .ok (closeEmptyObject stack)
    else if c = '"' then .ok ⟨stack, .text true [] none⟩
    else .error (.keyExpected, offset + 1)
  | .nextName =>
    if isSpace c then .ok machine
    else if c = '\x7d' then .error (.trailingComma, offset + 1)
    else if c = '"' then .ok ⟨stack, .text true [] none⟩
    else .error (.keyExpected, offset + 1)
  | .colon =>
    if isSpace c then .ok machine
    else if c = ':' then .ok ⟨stack, .value⟩
    else .error (.colonExpected, offset + 1)
  | .after | .done _ => afterValue machine offset c
  | .word [] value => afterValue (complete stack value) offset c
  | .word [x] value =>
    if c = x then .ok (complete stack value) else .error (.wordExpected, offset + 1)
  | .word (x :: rest) value =>
    if c = x then .ok ⟨stack, .word rest value⟩ else .error (.wordExpected, offset + 1)
  | .numeral n =>
    match stepNumeral n c with
    | .more n => .ok ⟨stack, .numeral n⟩
    | .refused cause => .error (cause, offset + 1)
    | .ended =>
      match n.value? with
      | some value => afterValue (complete stack (.number value)) offset c
      | none => .error (.numberOutOfRange, offset)
  | .text isName chars (some escape) => stepEscape stack isName chars escape offset c
  | .text isName chars none => stepText stack isName chars offset c

/-- The end of the text behind a finished value. -/
def finishAfter (machine : Machine) : Except Cause Json :=
  match machine.stack, machine.mode with
  | [], .done value => .ok value
  | .array _ :: _, _ => .error .endInList
  | .object .. :: _, _ => .error .endInObject
  | [], _ => .error .endInValue

/-- The end of the text. -/
def finish (machine : Machine) : Except Cause Json :=
  match machine.mode with
  | .value | .nextItem | .nextName | .word .. => .error .endInValue
  | .firstItem => .error .endInList
  | .firstName | .colon => .error .endInObject
  | .after | .done _ => finishAfter machine
  | .text .. => .error .endInString
  | .numeral n =>
    if n.isComplete then
      match n.value? with
      | some value => finishAfter (complete machine.stack (.number value))
      | none => .error .numberOutOfRange
    else .error .endInValue

/-- Reads the rest of a text, of which `offset` bytes have been read. -/
def run (machine : Machine) (offset : Nat) : List Char → Except (Cause × Nat) Json
  | [] => machine.finish.mapError (·, offset)
  | c :: rest =>
    match machine.step offset c with
    | .ok next => next.run (offset + c.utf8Size) rest
    | .error fault => .error fault

end Machine

/-- **The value a JSON text stands for**, or its first fault. -/
def parse (text : String) : Except Fault Json :=
  (Machine.start.run 0 text.toList).mapError fun (cause, offset) =>
    Fault.at cause text.toList offset

end RamlExpress.Json
