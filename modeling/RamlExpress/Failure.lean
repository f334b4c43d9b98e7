import RamlExpress.FileSystem.Fault
import RamlExpress.Json.Fault
import RamlExpress.Yaml.Fault
import RamlExpress.Yaml.Json

/-!
# Failure — why an API description gives no program
-/

namespace RamlExpress

/-- What is wrong with a YAML document that is to describe an API. -/
inductive DocumentFault where
  | empty
  | notMapping
  /-- An include whose content is no path. -/
  | includeWithoutPath
  /-- Includes that lead back to themselves.  To follow them would never end, so there is no result
  to give; this stands in its place. -/
  | includeCycle
deriving Repr, DecidableEq

/-- The wording of a document fault. -/
def DocumentFault.message : DocumentFault → String
  | empty => "document is empty"
  | notMapping => "document root must be a mapping"
  | includeWithoutPath => "!include expects a file path"
  | includeCycle => "!include leads back to itself"

/-- Why an API description gives no program. -/
inductive Failure where
  | unreadable (path : String) (fault : FileFault)
  | malformed (fault : Yaml.Fault)
  | invalid (fault : DocumentFault)
  | invalidSchema (context : String) (fault : Json.Fault)
  /-- No literal segment in the path of a resource. -/
  | unnamed (path : String)
  /-- A required property that is not declared. -/
  | undeclared (property : String)
  /-- A key that JSON has no name for. -/
  | unwritable (fault : Yaml.KeyFault)
deriving Repr, DecidableEq

namespace Failure

/-- The wording of a failure. -/
def message : Failure → String
  | unreadable path fault => "failed to read " ++ path ++ ": " ++ fault.message
  | malformed fault => "invalid RAML document: " ++ fault.message
  | invalid fault => "invalid RAML document: " ++ fault.message
  | invalidSchema context fault =>
    "invalid JSON schema for " ++ context ++ ": " ++ fault.message
  | unnamed path => "cannot infer a resource name from path " ++ path
  | undeclared property =>
    "required property `" ++ property ++ "` is not declared in the schema properties"
  | unwritable fault => "serialization error: " ++ fault.message

/-- What lies behind a failure, in its own words. -/
def cause? : Failure → Option String
  | unreadable _ fault => some fault.message
  | malformed fault => some fault.message
  | unwritable fault => some fault.message
  | _ => none

end Failure

end RamlExpress
