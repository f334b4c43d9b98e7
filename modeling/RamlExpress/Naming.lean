import RamlExpress.Naming.Singular
import RamlExpress.Text.Case
import RamlExpress.Uri

/-!
# Naming — the model name of a resource

A resource is named for the last literal segment of its path: lowered, put into the singular, and
capitalised.
-/

namespace RamlExpress.Naming

/-- The path shown for a resource that has no name. -/
def shownPath (segments : List Segment) : String :=
  if segments.isEmpty then "/" else pathText segments

/-- The model name for a literal segment. -/
def modelName (literal : String) : String := Text.capitalize (singular (Text.toLower literal))

/-- The last literal segment of a path. -/
def lastLiteral? (segments : List Segment) : Option String :=
  segments.reverse.findSome? Segment.literal?

/-- **The model name of a resource**, if its path has a literal segment. -/
def resourceName? (segments : List Segment) : Option String :=
  (lastLiteral? segments).map modelName

end RamlExpress.Naming
