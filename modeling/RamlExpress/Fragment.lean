import RamlExpress.Field.Source
import RamlExpress.Fragment.Template
import RamlExpress.Naming
import RamlExpress.Route

/-!
# Fragment — the route that a method becomes

Every method but PATCH becomes one route.  A route that stores or changes an item reads its fields
from the request: those of the success response, or else those of the request body.
-/

namespace RamlExpress

namespace Fragment

/-- The field names of a schema, none where there is no schema. -/
def fieldNames (fields : Option FieldSchema) : List String := (fields.map (·.keys)).getD []

/-- The template of a verb. -/
def templateOf? : Verb → Option Template
  | .get => some .get
  | .post => some .post
  | .put => some .put
  | .patch => none
  | .delete => some .delete

/-- **The route for a verb**; none for PATCH. -/
def compose (verb : Verb) (pattern model : String) (fields : Option FieldSchema) : Option String :=
  (templateOf? verb).map fun template =>
    template.render
      { uri := pattern, model, filter := Route.filterArgument pattern, fields := fieldNames fields }

end Fragment

/-- What a method becomes. -/
structure Handler where
  verb : Verb
  pattern : String
  /-- The model name of the resource. -/
  model : String
  /-- The code of the route. -/
  fragment : Option String
  /-- The fields that the success response declares. -/
  schema : Option FieldSchema

/-- How messages name a method at a path. -/
def Method.contextAt (method : Method) (uri : String) : String := method.verb.display ++ " " ++ uri

/-- The model name for some segments. -/
def modelFor (segments : List Segment) : Except Failure String :=
  match Naming.resourceName? segments with
  | some name => .ok name
  | none => .error (.unnamed (Naming.shownPath segments))

/-- **What a method at a path becomes.**  The schema of the request body serves the route only where
the response has none, and is never part of the result. -/
def Method.handlerAt (method : Method) (uri : String) (segments : List Segment) :
    Logged Handler := do
  let model ← Logged.of (modelFor segments)
  let context := method.contextAt uri
  Logged.debug ("Composing " ++ context ++ " as " ++ model)
  let schema ← method.responseFields context
  let fields ← match schema with
    | some fields => pure (some fields)
    | none => method.requestFields context
  let pattern := Route.patternOf uri
  return {
    verb := method.verb, pattern, model
    fragment := Fragment.compose method.verb pattern model fields, schema }

end RamlExpress
