import RamlExpress.Json
import RamlExpress.OrderedMap

/-!
# Field — the stored fields of a model

A field is stored as a string or a number, may be required, and may be a unique index.  A model's
fields are kept in the order in which they were declared.
-/

namespace RamlExpress

/-- How a field is stored. -/
inductive FieldKind where
  | string
  | number
deriving Repr, DecidableEq

namespace FieldKind

/-- The kind for a JSON schema type: numbers are numbers, all else is kept as a string. -/
def ofType (name : Option String) : FieldKind :=
  if name = some "integer" ∨ name = some "number" then number else string

/-- The name of a kind in a definition. -/
def text : FieldKind → String
  | string => "String"
  | number => "Number"

end FieldKind

/-- A field of a model. -/
structure Field where
  kind : FieldKind
  required : Bool := false
  indexed : Bool := false
deriving Repr, DecidableEq

/-- The fields of a model. -/
abbrev FieldSchema := OrderedMap Field

/-- A field as a definition: its type, then its index and whether it is required, where it has
them. -/
def Field.toJson (field : Field) : Json :=
  .object ([("type", .string field.kind.text)]
    ++ (if field.indexed then [("index", .object [("unique", .bool true)])] else [])
    ++ (if field.required then [("required", .bool true)] else []))

/-- The fields of a model as an object of definitions. -/
def FieldSchema.toJson (schema : FieldSchema) : Json :=
  .object (schema.entries.map fun (name, field) => (name, field.toJson))

/-- The models found so far, by name. -/
abbrev Registry := OrderedMap FieldSchema

/-- Puts a model under its name, and says whether it takes the place of another. -/
def Registry.register (models : Registry) (name : String) (schema : FieldSchema) :
    Registry × Bool :=
  (models.insert name schema, models.contains name)

@[simp] theorem Registry.register_fst (models : Registry) (name : String) (schema : FieldSchema) :
    (models.register name schema).1 = models.insert name schema := rfl

/-- All models as one object. -/
def Registry.toJson (registry : Registry) : Json :=
  .object (registry.entries.map fun (name, schema) => (name, FieldSchema.toJson schema))

end RamlExpress
