import RamlExpress.Uri

/-!
# Api — a loaded API description

An API is a forest of resources.  A resource has a path relative to its parent, the segments of that
path, methods and child resources, all in document order; a method has the schemas attached to its
request body and to its responses.
-/

namespace RamlExpress

/-- The methods that get a route or a schema. -/
inductive Verb where
  | get
  | post
  | put
  | patch
  | delete
deriving Repr, DecidableEq

namespace Verb

/-- The key of a method in a document. -/
def key : Verb → String
  | get => "get"
  | post => "post"
  | put => "put"
  | patch => "patch"
  | delete => "delete"

/-- The name of a method in messages. -/
def display : Verb → String
  | get => "GET"
  | post => "POST"
  | put => "PUT"
  | patch => "PATCH"
  | delete => "DELETE"

/-- All verbs. -/
def all : List Verb := [get, post, put, patch, delete]

/-- The verb that a key of a document stands for. -/
def ofKey? (key : String) : Option Verb := all.find? (·.key = key)

/-- Requests of this method carry a body. -/
def hasRequestBody : Verb → Bool
  | post | put | patch => true
  | get | delete => false

end Verb

/-- A content type with the JSON schema text attached to it. -/
structure MediaType where
  contentType : String
  schema : Option String := none
deriving Repr, DecidableEq

/-- A response: its status and the media types of its body. -/
structure Response where
  status : String
  body : List MediaType := []
deriving Repr, DecidableEq

/-- A method of a resource. -/
structure Method where
  verb : Verb
  body : List MediaType := []
  responses : List Response := []
deriving Repr, DecidableEq

/-- A resource with its methods and child resources. -/
inductive Resource where
  | mk (uri : String) (segments : List Segment) (methods : List Method) (children : List Resource)
deriving Repr

namespace Resource

/-- The path relative to the parent. -/
def uri : Resource → String
  | mk uri _ _ _ => uri

/-- The segments of the relative path. -/
def segments : Resource → List Segment
  | mk _ segments _ _ => segments

/-- The methods, in document order. -/
def methods : Resource → List Method
  | mk _ _ methods _ => methods

/-- The child resources, in document order. -/
def children : Resource → List Resource
  | mk _ _ _ children => children

/-- The resource at a path, with the segments that the path has. -/
def atUri (uri : String) (methods : List Method) (children : List Resource) : Resource :=
  mk uri (segmentsOf uri) methods children

end Resource

/-- An API description. -/
structure Api where
  title : Option String := none
  version : Option String := none
  resources : List Resource := []
deriving Repr

end RamlExpress
