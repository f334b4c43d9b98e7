/-!
# Yaml/Tag — node tags

A tag is spelled in octets, since its escapes may name any of them.  A tag that starts with an
exclamation mark is local to the application and names a tagged value; four tags of the core schema
fix the type of a scalar; any other tag only says that a scalar is to be kept as text.
-/

namespace RamlExpress.Yaml

/-- The octets of an ASCII text. -/
def octetsOf (text : String) : List UInt8 := text.toUTF8.toList

/-- What a tag says about its node. -/
inductive Tag where
  /-- A tag of the application. -/
  | named (name : String)
  | bool
  | int
  | float
  | null
  /-- Any other tag. -/
  | other
deriving Repr, DecidableEq

/-- What the tags of the core schema start with. -/
def corePart : String := "tag:yaml.org,2002:"

/-- A tag by its octets.  A tag of the application that is no text counts as none; its name stands
behind one exclamation mark or two, unless there is nothing but one. -/
def Tag.ofOctets? (octets : List UInt8) : Option Tag :=
  match octets with
  | 33 :: rest =>
    let name := match rest with
      | [] => [33]
      | [x] => [x]
      | 33 :: rest => rest
      | rest => rest
    (String.fromUTF8? name.toByteArray).map .named
  | octets =>
    if octets = octetsOf (corePart ++ "bool") then some .bool
    else if octets = octetsOf (corePart ++ "int") then some .int
    else if octets = octetsOf (corePart ++ "float") then some .float
    else if octets = octetsOf (corePart ++ "null") then some .null
    else some .other

end RamlExpress.Yaml
