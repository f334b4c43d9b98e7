import RamlExpress.Number.Shortest

/-!
# Number — the numbers of JSON and YAML documents

A number is an integer or a double.  Both formats write a double with the fewest digits that read
back, positionally while the first digit stands at most fifteen places before or five places behind
the unit, and with an exponent otherwise; they differ in the sign of a positive exponent.
-/

namespace RamlExpress

/-- A number of a document. -/
inductive Number where
  | integer (value : Int)
  | real (value : Binary64)
deriving Repr, DecidableEq, Inhabited

/-- How doubles are written: the part of the notation that depends on the document format. -/
structure RealStyle where
  /-- A positive exponent carries a plus sign. -/
  plusExponent : Bool

namespace Number

/-- The least place of the first digit that is written positionally. -/
def positionalFrom : Int := -5

/-- The greatest place of the first digit that is written positionally. -/
def positionalTo : Int := 15

/-- A decimal written with a point and at least one digit on each side of it. -/
def positional (digits : List Char) (place : Int) : List Char :=
  if place < 0 then '0' :: '.' :: List.replicate (-place - 1).toNat '0' ++ digits
  else
    let whole := place.toNat + 1
    let front := digits.take whole ++ List.replicate (whole - digits.length) '0'
    let back := digits.drop whole
    front ++ '.' :: (if back.isEmpty then ['0'] else back)

/-- A decimal written with one digit before the point, and an exponent. -/
def exponential (style : RealStyle) (digits : List Char) (place : Int) : List Char :=
  let sign := if place < 0 then ['-'] else if style.plusExponent then ['+'] else []
  digits.take 1 ++ (if digits.length ≤ 1 then [] else '.' :: digits.drop 1)
    ++ 'e' :: sign ++ Nat.toDigits 10 place.natAbs

/-- A finite double as text. -/
def realText (style : RealStyle) (negative : Bool) (mantissa : Nat) (exponent : Int) : String :=
  let sign := if negative then ['-'] else []
  let body :=
    if mantissa = 0 then ['0', '.', '0']
    else
      let d := Binary64.shortest mantissa exponent
      let digits := Nat.toDigits 10 d.digits
      let place := digits.length - 1 + d.scale
      if positionalFrom ≤ place && place ≤ positionalTo then positional digits place
      else exponential style digits place
  String.ofList (sign ++ body)

/-- Equality of keys: an integer is never a double, and doubles compare as `Binary64.sameKey`. -/
def sameKey : Number → Number → Bool
  | .integer a, .integer b => a == b
  | .real a, .real b => a.sameKey b
  | _, _ => false

end Number

end RamlExpress
