import RamlExpress.Field
import RamlExpress.Json.Writer
import RamlExpress.Yaml.Layout

/-!
# Scaffold/Dump — all models as one JSON or YAML document
-/

namespace RamlExpress

/-- The indentation of a dump. -/
def dumpIndent : Nat := 2

/-- The models as JSON text. -/
def Registry.jsonText (models : Registry) : String := (Registry.toJson models).pretty dumpIndent

/-- A field as a mapping. -/
def Field.layout (field : Field) : Yaml.Layout :=
  .mapping ([("type", .word field.kind.text)]
    ++ (if field.indexed then [("index", .mapping [("unique", .word "true")])] else [])
    ++ (if field.required then [("required", .word "true")] else []))

/-- The fields of a model as a mapping. -/
def FieldSchema.layout (schema : FieldSchema) : Yaml.Layout :=
  .mapping (schema.entries.map fun (name, field) => (name, field.layout))

/-- The models as YAML text. -/
def Registry.yamlText (models : Registry) : String :=
  (Yaml.Layout.mapping
    (models.entries.map fun (name, schema) => (name, FieldSchema.layout schema))).render

end RamlExpress
