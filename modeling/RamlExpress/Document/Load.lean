import RamlExpress.Api
import RamlExpress.Document.Schema

/-!
# Document/Load — the API that a document describes

The keys of a document that start with a slash are its resources, and so are those of a resource;
other keys of a resource are its methods.  A body lists media types, or is itself of the media type
that the document has for such bodies.

* `Api.ofText` — the API that a text describes.
* `Api.ofFile` — the API that a file describes.
-/

namespace RamlExpress

open Yaml (Value)

/-- What a document says about all its bodies. -/
structure Conventions where
  origin : Origin
  named : NamedSchemas
  /-- The media type of a body that lists none. -/
  mediaType : String

namespace Document

/-- The media type of a body in a document that says nothing about it. -/
def defaultMediaType : String := "application/json"

/-- Methods that a resource may have and that give no code. -/
def unsupportedMethods : List String := ["head", "options", "trace", "connect"]

/-- A key names a resource. -/
def namesResource (key : String) : Bool := key.toList.head? == some '/'

/-- The text of a key, inside its tags. -/
def keyText? (key : Value) : Option String := key.untagged.string?

/-! ## Named schemas -/

/-- Adds the schemas that the entries of a mapping declare. -/
def addNamed (origin : Origin) : NamedSchemas → List (Value × Value) → Logged NamedSchemas
  | named, [] => return named
  | named, (key, value) :: rest =>
    match keyText? key with
    | none => addNamed origin named rest
    | some name => do
      match ← origin.schemaOf named value with
      | none => addNamed origin named rest
      | some schema =>
        Logged.debug ("Named schema: " ++ name)
        addNamed origin (named.insert name schema) rest

/-- The mappings that declare named schemas: one, or those in a sequence. -/
def declarationsIn : Option Value → List (List (Value × Value))
  | some (.mapping entries) => [entries]
  | some (.sequence items) => items.filterMap Value.entries?
  | _ => []

/-- The named schemas of a document. -/
def namedSchemas (origin : Origin) (root : List (Value × Value)) : Logged NamedSchemas :=
  let declarations :=
    declarationsIn (Value.lookup "schemas" root) ++ declarationsIn (Value.lookup "types" root)
  declarations.foldlM (addNamed origin) .empty

/-! ## Methods and resources -/

/-- The media types that the entries of a mapping list. -/
def mediaTypes (c : Conventions) : List (Value × Value) → Logged (List MediaType)
  | [] => return []
  | (key, value) :: rest =>
    match keyText? key with
    | none => mediaTypes c rest
    | some contentType => do
      let schema ← c.origin.schemaOf c.named value
      return { contentType, schema } :: (← mediaTypes c rest)

/-- A mapping lists media types if one of its keys has a slash in it. -/
def listsMediaTypes (entries : List (Value × Value)) : Bool :=
  entries.any fun (key, _) => (keyText? key).any (·.toList.contains '/')

/-- The media types of a body. -/
def bodyOf (c : Conventions) (body : Value) : Logged (List MediaType) :=
  match body.untagged.entries? with
  | none => return []
  | some entries =>
    if listsMediaTypes entries then mediaTypes c entries
    else do
      let schema ← c.origin.schemaOf c.named body
      return [{ contentType := c.mediaType, schema }]

/-- The body under the key `body`, if there is one. -/
def bodyIn (c : Conventions) (entries : List (Value × Value)) : Logged (List MediaType) :=
  match Value.lookup "body" entries with
  | some body => bodyOf c body
  | none => return []

/-- The responses under their statuses. -/
def responsesOf (c : Conventions) : List (Value × Value) → Logged (List Response)
  | [] => return []
  | (key, value) :: rest =>
    match key.scalarText? with
    | none => responsesOf c rest
    | some status => do
      let body ← bodyIn c (value.untagged.entries?.getD [])
      return { status, body } :: (← responsesOf c rest)

/-- The method that a value describes. -/
def methodOf (c : Conventions) (verb : Verb) (value : Value) : Logged Method :=
  match value.untagged.entries? with
  | none => return { verb }
  | some entries => do
    let body ← bodyIn c entries
    let responses ← match Value.lookup "responses" entries with
      | some (.mapping responses) => responsesOf c responses
      | _ => pure []
    return { verb, body, responses }

mutual

/-- The resource at a relative path that a value describes. -/
def resourceOf (c : Conventions) (uri : String) : Value → Logged Resource
  | .mapping entries => do
    let (methods, children) ← membersOf c uri entries
    return .atUri uri methods children
  | .tagged _ value => resourceOf c uri value
  | _ => return .atUri uri [] []

/-- The methods and children of the resource at a relative path. -/
def membersOf (c : Conventions) (uri : String) :
    List (Value × Value) → Logged (List Method × List Resource)
  | [] => return ([], [])
  | (key, value) :: rest =>
    match keyText? key with
    | none => membersOf c uri rest
    | some key =>
      if namesResource key then do
        let child ← resourceOf c key value
        let (methods, children) ← membersOf c uri rest
        return (methods, child :: children)
      else
        match Verb.ofKey? key with
        | some verb => do
          let method ← methodOf c verb value
          let (methods, children) ← membersOf c uri rest
          return (method :: methods, children)
        | none => do
          if key ∈ unsupportedMethods then
            Logged.warn ("Skipping unsupported method `" ++ key ++ "` on resource " ++ uri)
          membersOf c uri rest

end

/-- The resources of a document. -/
def resourcesOf (c : Conventions) : List (Value × Value) → Logged (List Resource)
  | [] => return []
  | (key, value) :: rest =>
    match keyText? key with
    | none => resourcesOf c rest
    | some key =>
      if namesResource key then do
        let resource ← resourceOf c key value
        return resource :: (← resourcesOf c rest)
      else resourcesOf c rest

/-- The media type of bodies that list none. -/
def mediaTypeOf (root : List (Value × Value)) : String :=
  ((Value.lookup "mediaType" root).bind keyText?).getD defaultMediaType

/-- The entries of the root of a document. -/
def rootEntries : Value → Except Failure (List (Value × Value))
  | .mapping entries => .ok entries
  | .null => .error (.invalid .empty)
  | _ => .error (.invalid .notMapping)

end Document

namespace Api

/-- The API that a document with the given root describes. -/
def ofRoot (origin : Origin) (root : List (Value × Value)) : Logged Api := do
  let named ← Document.namedSchemas origin root
  Logged.debug ("Registered " ++ toString named.size ++ " named schemas")
  let resources ←
    Document.resourcesOf { origin, named, mediaType := Document.mediaTypeOf root } root
  Logged.debug ("Loaded " ++ toString resources.length ++ " top-level resources")
  return {
    title := (Value.lookup "title" root).bind Value.scalarText?
    version := (Value.lookup "version" root).bind Value.scalarText?
    resources }

/-- **The API that a text describes.** -/
def ofText (origin : Origin) (text : String) : Logged Api := do
  let value ← Logged.of (Origin.parse text)
  let root ← Logged.of (Document.rootEntries value)
  ofRoot origin root

/-- **The API that a file describes.**  Its includes start from the directory of the file. -/
def ofFile (files : FileSystem) (path : String) : Logged Api := do
  Logged.debug ("Loading RAML file: " ++ path)
  let text ← Logged.of (Origin.read files path)
  ofText { files, base := (Path.parent? path).getD "." } text

end Api

end RamlExpress
