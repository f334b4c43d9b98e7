import RamlExpress.Api.Selection
import RamlExpress.Field.Inference

/-!
# Field/Source — the fields that a method declares

A method declares fields by the schema of its success response, and those with a request body also
by the schema of that.
-/

namespace RamlExpress.Method

/-- The fields that the success response declares. -/
def responseFields (method : Method) (context : String) : Logged (Option FieldSchema) :=
  match successResponse? method.responses with
  | none => do
    Logged.debug (context ++ ": no 2xx response")
    return none
  | some response =>
    match schemaText? response.body with
    | some text => Field.inferText text (context ++ " response " ++ response.status)
    | none => do
      Logged.debug (context ++ ": response " ++ response.status ++ " has no JSON schema")
      return none

/-- The fields that the request body declares. -/
def requestFields (method : Method) (context : String) : Logged (Option FieldSchema) :=
  if method.verb.hasRequestBody then
    match schemaText? method.body with
    | some text => Field.inferText text (context ++ " request body")
    | none => return none
  else return none

end RamlExpress.Method
