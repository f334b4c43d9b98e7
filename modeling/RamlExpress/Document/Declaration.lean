import RamlExpress.Json

/-!
# Document/Declaration — type declarations as JSON schemas

A property of a declaration is required unless its name ends in a question mark, which is not part
of the name, or the property itself says otherwise.  In a JSON schema the required properties are
listed; a declaration that has such a list means it as it stands.
-/

namespace RamlExpress.Declaration

/-- A property of a declaration. -/
structure Property where
  name : String
  required : Bool
  schema : Json

/-- The name in a key, and whether the key marks it as optional. -/
def nameIn (key : String) : String × Bool :=
  match key.toList.reverse with
  | '?' :: rest => (String.ofList rest.reverse, true)
  | _ => (key, false)

/-- What a property says itself about being required. -/
def ownFlag? (value : Json) : Option Bool := (value.get? "required").bind Json.bool?

/-- A property without what it says about being required. -/
def withoutFlag : Json → Json
  | .object members => .object (swapRemove "required" members)
  | value => value

/-- The property that a key and its value declare. -/
def propertyOf (key : String) (value : Json) : Property :=
  let (name, optional) := nameIn key
  { name, required := (ownFlag? value).getD !optional, schema := withoutFlag value }

/-- A declaration without a type declares an object. -/
def withType (members : List (String × Json)) : List (String × Json) :=
  if (members.lookup "type").isSome then members else members ++ [("type", .string "object")]

/-- A declaration lists its required properties itself. -/
def listsRequired (members : List (String × Json)) : Bool :=
  ((members.lookup "required").bind Json.items?).isSome

/-- The properties under their names; a name that comes twice has the schema that came last. -/
def schemasOf (properties : List Property) : List (String × Json) :=
  properties.foldl (fun done property => putEntry property.name property.schema done) []

/-- The names of the required properties. -/
def requiredOf (properties : List Property) : List Json :=
  (properties.filter (·.required)).map fun property => .string property.name

/-- A declaration with its properties settled and the required ones listed. -/
def withProperties (properties : List Property) (members : List (String × Json)) :
    List (String × Json) :=
  let members := putEntry "properties" (.object (schemasOf properties)) members
  let required := requiredOf properties
  if required.isEmpty then members else putEntry "required" (.array required) members

/-- **The JSON schema that a declaration stands for.** -/
def toSchema : Json → Json
  | .object members =>
    let members := withType members
    if listsRequired members then .object members
    else
      match members.lookup "properties" with
      | some (.object properties) =>
        .object (withProperties (properties.map fun (key, value) => propertyOf key value) members)
      | _ => .object members
  | value => value

end RamlExpress.Declaration
