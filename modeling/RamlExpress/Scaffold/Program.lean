import RamlExpress.Json.Writer
import RamlExpress.Scaffold

/-!
# Scaffold/Program — the generated program

The program is one function: the declarations of the models, then the routes.  Every line of the
result may itself hold several lines of code.
-/

namespace RamlExpress

/-- In which order the models are declared. -/
inductive ModelOrder where
  /-- The model found first comes first. -/
  | discovery
  /-- The model found last comes first. -/
  | legacy
deriving Repr, DecidableEq

/-- Models in the order of their declaration. -/
def ModelOrder.arrange {α : Type} (order : ModelOrder) (items : List α) : List α :=
  match order with
  | .discovery => items
  | .legacy => items.reverse

namespace Program

/-- The first line of a program. -/
def header : String := "function setupScaffold(app) \x7b\n"

/-- The last line of a program. -/
def footer : String := "\x7d\n"

/-- The indentation of a definition. -/
def definitionIndent : Nat := 4

/-- The declaration of a model. -/
def declaration (name : String) (fields : FieldSchema) : String :=
  Template.schema.render { model := name, definition := fields.toJson.pretty definitionIndent }

/-- The declarations of all models. -/
def declarations (order : ModelOrder) (models : Registry) : List String :=
  order.arrange (models.entries.map fun (name, fields) => declaration name fields)

/-- **The lines of a program.** -/
def assemble (order : ModelOrder) (scaffold : Scaffold) : List String :=
  header :: declarations order scaffold.models ++ scaffold.fragments ++ [footer]

/-- Lines as text, each with a line break behind it. -/
def render (lines : List String) : String := String.join (lines.map (· ++ "\n"))

end Program

/-- **The program for an API**, as lines. -/
def Api.program (api : Api) (order : ModelOrder) : Logged (List String) := do
  let scaffold ← api.collect
  Logged.debug ("Assembling " ++ toString scaffold.models.size ++ " schemas and "
    ++ toString scaffold.fragments.length ++ " fragments")
  return Program.assemble order scaffold

end RamlExpress
