/-!
# Number/Binary64 — double precision numbers by exact arithmetic

A finite number is a signed mantissa times a power of two, in the one form in which the mantissa
has 53 bits, or fewer at the least exponent.  Reading a decimal goes through `Binary64.ofRatio`,
which takes the nearest number to a quotient of natural numbers, a tie going to the even mantissa.
-/

namespace RamlExpress

/-- A double precision number: `mantissa · 2 ^ exponent` with a sign, an infinity, or no number. -/
inductive Binary64 where
  | finite (negative : Bool) (mantissa : Nat) (exponent : Int)
  | infinite (negative : Bool)
  | nan
deriving Repr, DecidableEq, Inhabited

namespace Binary64

/-- The exponent of the smallest numbers. -/
def minExponent : Int := -1074

/-- The exponent of the largest numbers. -/
def maxExponent : Int := 971

/-- Zero with a sign. -/
def zero (negative : Bool) : Binary64 := .finite negative 0 minExponent

/-- Not an infinity and a number. -/
def isFinite : Binary64 → Bool
  | .finite .. => true
  | _ => false

/-- A quotient of natural numbers to the nearest natural number, ties to even. -/
def roundDiv (num den : Nat) : Nat :=
  let q := num / den
  let r := num % den
  if den < 2 * r || (den == 2 * r && q % 2 == 1) then q + 1 else q

/-- `num / (den · 2 ^ e)` as a quotient of natural numbers. -/
def scaled (num den : Nat) (e : Int) : Nat × Nat :=
  if 0 ≤ e then (num, den * Nat.pow 2 e.toNat) else (num * Nat.pow 2 (-e).toNat, den)

/-- The exponent at which `num / den` has a mantissa of 53 bits, or else the least one. -/
def exponentOf (num den : Nat) : Int :=
  let e : Int := (num.log2 : Int) - den.log2 - 53
  let (n, d) := scaled num den e
  max minExponent (if n / d < Nat.pow 2 53 then e else e + 1)

/-- **The nearest number to `num / den`**, a tie going to the even mantissa. -/
def ofRatio (negative : Bool) (num den : Nat) : Binary64 :=
  if num = 0 then zero negative
  else
    let e := exponentOf num den
    let (n, d) := scaled num den e
    let q := roundDiv n d
    let (m, e) := if q = Nat.pow 2 53 then (Nat.pow 2 52, e + 1) else (q, e)
    if maxExponent < e then .infinite negative else .finite negative m e

/-- How many decimal digits a number has. -/
def digitCount (n : Nat) : Nat := (Nat.toDigits 10 n).length

/-- The nearest number to `digits · 10 ^ scale`.  Scales far outside the range are answered without
building the power of ten. -/
def ofDecimal (negative : Bool) (digits : Nat) (scale : Int) : Binary64 :=
  let size := digitCount digits + scale
  if digits = 0 || size < -330 then zero negative
  else if 330 < size then .infinite negative
  else if 0 ≤ scale then ofRatio negative (digits * Nat.pow 10 scale.toNat) 1
  else ofRatio negative digits (Nat.pow 10 (-scale).toNat)

/-- The product of two numbers, rounded once. -/
def mul : Binary64 → Binary64 → Binary64
  | .finite s m e, .finite s' m' e' =>
    let (n, d) := scaled (m * m') 1 (-(e + e'))
    ofRatio (s != s') n d
  | .infinite s, .finite s' m _ | .finite s' m _, .infinite s =>
    if m = 0 then .nan else .infinite (s != s')
  | .infinite s, .infinite s' => .infinite (s != s')
  | _, _ => .nan

/-- Equality of keys: zeros are one key whatever their sign, and so are all that are no number. -/
def sameKey : Binary64 → Binary64 → Bool
  | .finite s m e, .finite s' m' e' => m == m' && e == e' && (s == s' || m == 0)
  | .infinite s, .infinite s' => s == s'
  | .nan, .nan => true
  | _, _ => false

end Binary64

end RamlExpress
