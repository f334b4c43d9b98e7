import RamlExpress.Field
import RamlExpress.Json.Reader
import RamlExpress.Log

/-!
# Field/Inference — the fields that a JSON schema declares

The properties of an object schema become fields, in their order.  A property is required if it says
so itself or if the schema lists it; a listed name that is no property is a failure.
-/

namespace RamlExpress.Field

/-- The type that a property declares: its own text, its `type`, or the first of its types other
than null. -/
def typeOf? (property : Json) : Option String :=
  match property with
  | .string name => some name
  | property =>
    match property.get? "type" with
    | some (.string name) => some name
    | some (.array names) => (names.filterMap Json.string?).find? (· ≠ "null")
    | _ => none

/-- A property says that it is required. -/
def saysRequired (property : Json) : Bool :=
  (property.get? "required").bind Json.bool? == some true

/-- The field for a property.  The property `id` is a unique index. -/
def ofProperty (name : String) (property : Json) : Field where
  kind := .ofType (typeOf? property)
  required := saysRequired property
  indexed := name = "id"

/-- The properties that a schema declares. -/
def propertiesOf (schema : Json) : List (String × Json) :=
  ((schema.get? "properties").bind Json.members?).getD []

/-- The names that a schema lists as required. -/
def requiredOf (schema : Json) : List String :=
  (((schema.get? "required").bind Json.items?).getD []).filterMap Json.string?

/-- The fields for some properties. -/
def ofProperties (properties : List (String × Json)) : FieldSchema :=
  properties.foldl
    (fun fields (name, property) => fields.insert name (ofProperty name property)) .empty

/-- Marks the listed names as required, in their order. -/
def markRequired : List String → FieldSchema → Except Failure FieldSchema
  | [], fields => .ok fields
  | name :: rest, fields =>
    match fields.get? name with
    | none => .error (.undeclared name)
    | some field => markRequired rest (fields.insert name { field with required := true })

/-- A schema describes an object. -/
def describesObject (schema : Json) : Bool :=
  (schema.get? "type").bind Json.string? == some "object"

/-- **The fields that a schema declares**, if it describes an object. -/
def infer (schema : Json) : Except Failure (Option FieldSchema) :=
  if describesObject schema then
    (markRequired (requiredOf schema) (ofProperties (propertiesOf schema))).map some
  else .ok none

/-- The fields that a schema declares, with a line about them. -/
def inferLogged (schema : Json) : Logged (Option FieldSchema) := do
  let fields ← Logged.of (infer schema)
  match fields with
  | none => Logged.debug "Schema root is not an object, skipping"
  | some fields => Logged.debug ("Inferred " ++ toString fields.size ++ " fields")
  return fields

/-- The fields that a schema text declares; `context` says in a failure where the text stands. -/
def inferText (text context : String) : Logged (Option FieldSchema) := do
  match Json.parse text with
  | .error fault => Logged.fail (.invalidSchema context fault)
  | .ok schema => inferLogged schema

end RamlExpress.Field
