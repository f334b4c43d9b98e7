import RamlExpress.Yaml.Fault
import RamlExpress.Yaml.Tag
import RamlExpress.Yaml.Value

/-!
# Yaml/Scalar — what the text of a scalar stands for

A plain scalar stands for nothing, a truth value, an integer or a double if it is spelled like one,
and for its own text otherwise.  Integers may be written in base sixteen, eight and two; several
digits of which the first is a zero are text.
-/

namespace RamlExpress.Yaml.Scalar

/-- The words for nothing. -/
def isNull (text : String) : Bool := ["null", "Null", "NULL", "~"].contains text

/-- The words for truth values. -/
def bool? (text : String) : Option Bool :=
  if ["true", "True", "TRUE"].contains text then some true
  else if ["false", "False", "FALSE"].contains text then some false
  else none

/-! ## Integers -/

/-- The value of a digit in bases up to sixteen. -/
def digit? (c : Char) : Option Nat :=
  if '0' ≤ c && c ≤ '9' then some (c.toNat - '0'.toNat)
  else if 'a' ≤ c && c ≤ 'f' then some (c.toNat - 'a'.toNat + 10)
  else if 'A' ≤ c && c ≤ 'F' then some (c.toNat - 'A'.toNat + 10)
  else none

/-- The number that a run of digits goes on with. -/
def digitsFrom (base : Nat) (value : Nat) : List Char → Option Nat
  | [] => some value
  | c :: rest => do
    let d ← digit? c
    if d < base then digitsFrom base (value * base + d) rest else none

/-- The number that one or more digits stand for. -/
def digits? (base : Nat) (text : List Char) : Option Nat :=
  if text.isEmpty then none else digitsFrom base 0 text

/-- Several digits of which the first is a zero, behind at most one sign. -/
def hasLeadingZero (text : List Char) : Bool :=
  let digits := match text with
    | '-' :: rest | '+' :: rest => rest
    | text => text
  match digits with
  | '0' :: c :: rest => (c :: rest).all Char.isDigit
  | _ => false

/-- The number that an integer without sign stands for. -/
def magnitude? (text : List Char) : Option Nat :=
  match text with
  | '0' :: 'x' :: rest => digits? 16 rest
  | '0' :: 'o' :: rest => digits? 8 rest
  | '0' :: 'b' :: rest => digits? 2 rest
  | text => if hasLeadingZero text then none else digits? 10 text

/-- The integer that a text stands for, however large. -/
def integer? (text : List Char) : Option Int :=
  match text with
  | '-' :: rest => (magnitude? rest).map fun n => -(n : Int)
  | '+' :: rest => (magnitude? rest).map Int.ofNat
  | text => (magnitude? text).map Int.ofNat

/-- Integers from `-2 ^ 63` to `2 ^ 64 - 1` are held. -/
def isHeld (n : Int) : Bool :=
  -(Nat.pow 2 63 : Int) ≤ n && n < (Nat.pow 2 64 : Int)

/-- Integers from `-2 ^ 127` to `2 ^ 128 - 1` are recognised as such, even where they are not
held. -/
def isRecognised (n : Int) : Bool :=
  -(Nat.pow 2 127 : Int) ≤ n && n < (Nat.pow 2 128 : Int)

/-- The integer that a text stands for, of those that are recognised. -/
def recognised? (text : String) : Option Int := (integer? text.toList).filter isRecognised

/-! ## Doubles -/

/-- The exponent behind the digits of a decimal. -/
def exponent? : List Char → Option Int
  | [] => some 0
  | c :: rest =>
    if c = 'e' || c = 'E' then
      match rest with
      | '-' :: rest => (digits? 10 rest).map fun n => -(n : Int)
      | '+' :: rest => (digits? 10 rest).map Int.ofNat
      | rest => (digits? 10 rest).map Int.ofNat
    else none

/-- A decimal without sign: digits with at most one point among, before or behind them, and an
optional exponent. -/
def decimal? (negative : Bool) (text : List Char) : Option Binary64 := do
  let whole := text.takeWhile Char.isDigit
  let rest := text.drop whole.length
  let (part, rest) := match rest with
    | '.' :: rest => (rest.takeWhile Char.isDigit, rest.dropWhile Char.isDigit)
    | rest => ([], rest)
  let digits ← digits? 10 (whole ++ part)
  let exponent ← exponent? rest
  return Binary64.ofDecimal negative digits (exponent - part.length)

/-- A decimal with at most one sign. -/
def signed? : List Char → Option Binary64
  | '-' :: rest => decimal? true rest
  | '+' :: rest => decimal? false rest
  | text => decimal? false text

/-- The double that a text stands for.  Decimals beyond the range are none. -/
def real? (text : String) : Option Binary64 :=
  if [".inf", ".Inf", ".INF", "+.inf", "+.Inf", "+.INF"].contains text then some (.infinite false)
  else if ["-.inf", "-.Inf", "-.INF"].contains text then some (.infinite true)
  else if [".nan", ".NaN", ".NAN"].contains text then some .nan
  else (signed? text.toList).filter (·.isFinite)

/-! ## Resolution -/

/-- A recognised integer as a value. -/
def heldInteger (n : Int) : Except Fault Value :=
  if isHeld n then .ok (.number (.integer n)) else .error .integerTooLarge

/-- A plain scalar is spelled like something other than a string. -/
def isSpecial (text : String) : Bool :=
  text.isEmpty || isNull text || (bool? text).isSome || (recognised? text).isSome
    || hasLeadingZero text.toList || (real? text).isSome

/-- **What a plain scalar stands for.** -/
def plain (text : String) : Except Fault Value :=
  if text.isEmpty || isNull text then .ok .null
  else
    match bool? text, recognised? text with
    | some b, _ => .ok (.bool b)
    | none, some n => heldInteger n
    | none, none =>
      if hasLeadingZero text.toList then .ok (.string text)
      else
        match real? text with
        | some x => .ok (.number (.real x))
        | none => .ok (.string text)

/-- A scalar that its tag gives a type. -/
def typed (value : Option Value) : Except Fault Value :=
  match value with
  | some value => .ok value
  | none => .error .valueOfOtherType

/-- What a scalar stands for, given its tag and whether it is plain. -/
def resolve (tag : Option Tag) (isPlain : Bool) (text : String) : Except Fault Value :=
  let untyped : Except Fault Value := if isPlain then plain text else .ok (.string text)
  match tag with
  | none => untyped
  | some (.named name) => untyped.map (.tagged name)
  | some .bool => typed ((bool? text).map .bool)
  | some .int =>
    match recognised? text with
    | some n => heldInteger n
    | none => .error .valueOfOtherType
  | some .float => typed ((real? text).map fun x => .number (.real x))
  | some .null => typed (if isNull text then some .null else none)
  | some .other => .ok (.string text)

end RamlExpress.Yaml.Scalar
