import RamlExpress.Number.Binary64

/-!
# Number/Shortest — the fewest digits that read back

The decimals that round to a number fill an interval around it, its ends included when the mantissa
is even.  For one digit, two digits and so on, the two neighbours of the number on that decimal grid
are tried; the first grid with one of them in the interval gives the digits, the nearer neighbour
first and at the same distance the even one.
-/

namespace RamlExpress.Binary64

/-- A decimal `digits · 10 ^ scale`. -/
structure Decimal where
  digits : Nat
  scale : Int
deriving Repr, DecidableEq

/-- The power of ten just below `mantissa · 2 ^ exponent`: how far its first digit stands from the
unit. -/
def magnitude (mantissa : Nat) (exponent : Int) : Int :=
  let (n, d) := scaled (mantissa * Nat.pow 10 330) 1 (-exponent)
  digitCount (n / d) - 1 - 330

/-- The interval of a number in quarters of its last place: below it, itself, above it.  Just over
a power of two the numbers below lie twice as close. -/
def quarters (mantissa : Nat) (exponent : Int) : Nat × Nat × Nat :=
  let m := 4 * mantissa
  (if mantissa = Nat.pow 2 52 && minExponent < exponent then m - 1 else m - 2, m, m + 2)

/-- The neighbour of a number on the grid of `10 ^ scale` that rounds to the number, if any. -/
def onGrid? (mantissa : Nat) (exponent scale : Int) : Option Nat :=
  let (low, mid, high) := quarters mantissa exponent
  -- All four quantities over one common denominator.
  let e := exponent - 2
  let two := if 0 ≤ e then Nat.pow 2 e.toNat else 1
  let ten := if 0 ≤ scale then Nat.pow 10 scale.toNat else 1
  let up := if e < 0 then Nat.pow 2 (-e).toNat else 1
  let across := if scale < 0 then Nat.pow 10 (-scale).toNat else 1
  let low := low * two * across
  let mid := mid * two * across
  let high := high * two * across
  let unit := ten * up
  let closed := mantissa % 2 == 0
  let inside (n : Nat) : Bool :=
    if closed then low ≤ n * unit && n * unit ≤ high else low < n * unit && n * unit < high
  let below := mid / unit
  let above := below + 1
  match inside below, inside above with
  | true, true =>
    let down := mid - below * unit
    let rise := above * unit - mid
    if down < rise || (down == rise && below % 2 == 0) then some below else some above
  | true, false => some below
  | false, true => some above
  | false, false => none

/-- Moves trailing zeros of the digits into the scale; at most `fuel` of them. -/
def dropZeros : Nat → Decimal → Decimal
  | 0, d => d
  | fuel + 1, d =>
    if d.digits ≠ 0 && d.digits % 10 = 0 then dropZeros fuel ⟨d.digits / 10, d.scale + 1⟩ else d

/-- **The shortest decimal that reads back as `mantissa · 2 ^ exponent`**; seventeen digits always
suffice. -/
def shortest (mantissa : Nat) (exponent : Int) : Decimal :=
  let top := magnitude mantissa exponent
  let found := (List.range 17).findSome? fun (more : Nat) =>
    (onGrid? mantissa exponent (top - more)).map fun n => dropZeros 20 ⟨n, top - more⟩
  found.getD ⟨0, 0⟩

end RamlExpress.Binary64
