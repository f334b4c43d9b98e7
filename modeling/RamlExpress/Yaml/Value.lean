import RamlExpress.Number

/-!
# Yaml/Value — YAML values

The value of a document once its aliases are followed and its scalars are resolved.  A tag of the
application stays around its value; several questions look through such tags.
-/

namespace RamlExpress.Yaml

/-- A YAML value. -/
inductive Value where
  | null
  | bool (value : Bool)
  | number (value : Number)
  | string (value : String)
  | sequence (items : List Value)
  | mapping (entries : List (Value × Value))
  | tagged (name : String) (value : Value)
deriving Repr, Inhabited

namespace Value

/-- The value inside all tags. -/
def untagged : Value → Value
  | tagged _ value => value.untagged
  | value => value

/-- The text of a string. -/
def string? : Value → Option String
  | string value => some value
  | _ => none

/-- The entries of a mapping. -/
def entries? : Value → Option (List (Value × Value))
  | mapping entries => some entries
  | _ => none

/-- The value of the first entry whose key is a string, the given one. -/
def lookup (name : String) (entries : List (Value × Value)) : Option Value :=
  (entries.find? fun (key, _) => key.string? == some name).map Prod.snd

/-- Doubles in YAML carry no plus sign on a positive exponent. -/
def realStyle : RealStyle := ⟨false⟩

/-- The text of a scalar other than null. -/
def scalarText? : Value → Option String
  | string value => some value
  | bool value => some (if value then "true" else "false")
  | number (.integer value) => some (toString value)
  | number (.real (.finite negative mantissa exponent)) =>
    some (Number.realText realStyle negative mantissa exponent)
  | number (.real (.infinite negative)) => some (if negative then "-.inf" else ".inf")
  | number (.real .nan) => some ".nan"
  | _ => none

mutual

/-- Equality of keys: the order of the entries of a mapping does not count. -/
def sameKey : Value → Value → Bool
  | null, null => true
  | bool a, bool b => a == b
  | number a, number b => a.sameKey b
  | string a, string b => a == b
  | sequence a, sequence b => sameItems a b
  | mapping a, mapping b => a.length == b.length && entriesIn a b
  | tagged n a, tagged m b => n == m && sameKey a b
  | _, _ => false

/-- Equality of items, one by one. -/
def sameItems : List Value → List Value → Bool
  | [], [] => true
  | a :: as, b :: bs => sameKey a b && sameItems as bs
  | _, _ => false

/-- Every entry has an equal one among the others. -/
def entriesIn : List (Value × Value) → List (Value × Value) → Bool
  | [], _ => true
  | (key, value) :: rest, others =>
    others.any (fun (key', value') => sameKey key key' && sameKey value value')
      && entriesIn rest others

end

end Value

end RamlExpress.Yaml
