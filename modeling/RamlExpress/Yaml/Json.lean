import RamlExpress.Json.Writer
import RamlExpress.Yaml.Value

/-!
# Yaml/Json — YAML values as JSON

A tagged value becomes an object with the tag as its one name.  Names of objects are texts, so a key
must be a string, a number or a truth value; different keys may give the same name.
-/

namespace RamlExpress.Yaml

/-- Why a key has no text. -/
inductive KeyFault where
  | notText
  | notFinite
deriving Repr, DecidableEq

/-- The wording of a key fault. -/
def KeyFault.message : KeyFault → String
  | notText => "key must be a string"
  | notFinite => "float key must be finite (got NaN or +/-inf)"

namespace Value

/-- The name that a key gives a member. -/
def nameOf : Value → Except KeyFault String
  | string value => .ok value
  | bool value => .ok (if value then "true" else "false")
  | number (.integer value) => .ok (toString value)
  | number (.real (.finite negative mantissa exponent)) =>
    .ok (Number.realText Json.realStyle negative mantissa exponent)
  | number (.real _) => .error .notFinite
  | null | sequence _ | mapping _ | tagged .. => .error .notText

mutual

/-- A value as JSON.  Different keys that give one name stand side by side. -/
def toJson : Value → Except KeyFault Json
  | null => .ok .null
  | bool value => .ok (.bool value)
  | number value => .ok (.number value)
  | string value => .ok (.string value)
  | sequence items => do return .array (← jsonItems items)
  | mapping entries => do return .object (← jsonMembers entries)
  | tagged name value => do return .object [("!" ++ name, ← toJson value)]

/-- The items of a sequence as JSON. -/
def jsonItems : List Value → Except KeyFault (List Json)
  | [] => .ok []
  | item :: rest => do
    let item ← toJson item
    return item :: (← jsonItems rest)

/-- The entries of a mapping as members. -/
def jsonMembers : List (Value × Value) → Except KeyFault (List (String × Json))
  | [] => .ok []
  | (key, value) :: rest => do
    let name ← nameOf key
    let value ← toJson value
    return (name, value) :: (← jsonMembers rest)

end

end Value

end RamlExpress.Yaml
