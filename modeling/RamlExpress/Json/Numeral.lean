import RamlExpress.Number

/-!
# Json/Numeral — a JSON number while it is being read

The digits are gathered into a significand that stays below `2 ^ 64` and a decimal scale; digits
that no longer fit only move the scale, or are dropped behind the point.  A numeral without point
and exponent whose significand holds all its digits is an integer.
-/

namespace RamlExpress.Json

/-- Which part of a numeral was read last. -/
inductive NumeralPart where
  | sign
  | zero
  | whole
  | point
  | fraction
  | mark
  | markSign
  | exponent
deriving Repr, DecidableEq

/-- A number while it is being read. -/
structure Numeral where
  part : NumeralPart
  negative : Bool := false
  significand : Nat := 0
  scale : Int := 0
  /-- A digit no longer fitted into the significand. -/
  full : Bool := false
  /-- A point or an exponent was read. -/
  real : Bool := false
  exponentNegative : Bool := false
  exponent : Nat := 0
  /-- The exponent no longer fits, and the significand is zero or the exponent negative. -/
  vanished : Bool := false
deriving Repr, DecidableEq

namespace Numeral

/-- The largest significand that is gathered. -/
def maxSignificand : Nat := Nat.pow 2 64 - 1

/-- The largest exponent that is gathered. -/
def maxExponent : Nat := Nat.pow 2 31 - 1

/-- A further digit before the point. -/
def addWhole (n : Numeral) (digit : Nat) : Numeral :=
  if n.full || maxSignificand < n.significand * 10 + digit then
    { n with full := true, scale := n.scale + 1 }
  else { n with significand := n.significand * 10 + digit }

/-- A further digit behind the point. -/
def addFraction (n : Numeral) (digit : Nat) : Numeral :=
  if n.full || maxSignificand < n.significand * 10 + digit then { n with full := true }
  else { n with significand := n.significand * 10 + digit, scale := n.scale - 1 }

/-- A further digit of the exponent; none when the number has become too large. -/
def addExponent? (n : Numeral) (digit : Nat) : Option Numeral :=
  if n.vanished then some n
  else if maxExponent < n.exponent * 10 + digit then
    if n.significand ≠ 0 && !n.exponentNegative then none else some { n with vanished := true }
  else some { n with exponent := n.exponent * 10 + digit }

/-- A numeral may end after this part. -/
def isComplete (n : Numeral) : Bool :=
  match n.part with
  | .zero | .whole | .fraction | .exponent => true
  | _ => false

/-- The double that significand and scale stand for; none when it is too large.  For a scale that
is not negative both factors are rounded before they are multiplied. -/
def real? (negative : Bool) (significand : Nat) (scale : Int) : Option Number :=
  if significand = 0 then some (.real (Binary64.zero negative))
  else if scale < 0 then some (.real (Binary64.ofDecimal negative significand scale))
  else if 308 < scale then none
  else
    match (Binary64.ofRatio negative significand 1).mul (Binary64.ofDecimal false 1 scale) with
    | .infinite _ => none
    | x => some (.real x)

/-- The number that a complete numeral stands for; none when it is too large. -/
def value? (n : Numeral) : Option Number :=
  if n.vanished then some (.real (Binary64.zero n.negative))
  else if n.real || n.full then
    let shift : Int := if n.exponentNegative then -n.exponent else n.exponent
    real? n.negative n.significand (n.scale + shift)
  else if n.negative then
    if n.significand ≠ 0 && n.significand ≤ Nat.pow 2 63 then some (.integer (-n.significand))
    else real? true n.significand 0
  else some (.integer n.significand)

end Numeral

end RamlExpress.Json
