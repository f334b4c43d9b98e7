import RamlExpress.Document.Declaration
import RamlExpress.FileSystem
import RamlExpress.Log
import RamlExpress.Text.Blank
import RamlExpress.Yaml.Document
import RamlExpress.Yaml.Json

/-!
# Document/Schema — the JSON schema texts attached to a document

A schema is attached as JSON text, as a type declaration, as the name of one declared elsewhere, or
as an include of a file that holds one of these.

Includes may lead in a circle, and to follow them would then never end: there is no schema, and no
failure either.  `Origin.resolve` is a total function all the same.  It follows one include more
than there are files, which only a circle uses up, and the fault `includeCycle` stands for the
result that is missing.
-/

namespace RamlExpress

open Yaml (Value)

/-- The schemas that a document names. -/
abbrev NamedSchemas := OrderedMap String

/-- Where a document stands: the files, and the directory that its includes start from. -/
structure Origin where
  files : FileSystem
  base : String

namespace Origin

/-- A text that starts like a JSON object. -/
def looksLikeObject (text : List Char) : Bool := (Text.trimStart text).head? == some '\x7b'

/-- A value as JSON text. -/
def jsonText (value : Value) : Except Failure String :=
  match value.toJson with
  | .ok json => .ok json.compact
  | .error fault => .error (.unwritable fault)

/-- A type declaration as JSON schema text. -/
def declarationText (value : Value) : Except Failure String :=
  match value.toJson with
  | .ok json => .ok (Declaration.toSchema json.merged).compact
  | .error fault => .error (.unwritable fault)

/-- The schema that a text is or names. -/
def ofText (named : NamedSchemas) (text : String) : Logged (Option String) :=
  let name := Text.trim text
  if looksLikeObject text.toList then return some text
  else
    match named.get? name with
    | some schema => return some schema
    | none => do
      Logged.debug ("`" ++ name ++ "` does not name a JSON schema")
      return none

/-- The text of a file, as part of a document. -/
def read (files : FileSystem) (path : String) : Except Failure String :=
  match files.readText path with
  | .ok text => .ok text
  | .error fault => .error (.unreadable path fault)

/-- The value of a YAML text, as part of a document. -/
def parse (text : String) : Except Failure Value :=
  match Value.parse text with
  | .ok value => .ok value
  | .error fault => .error (.malformed fault)

/-- The path that the content of an include names. -/
def includeTarget (content : Value) : Except Failure String :=
  match content.untagged.string? with
  | some target => .ok target
  | none => .error (.invalid .includeWithoutPath)

/-- The schema that a value stands for, following at most `fuel` includes.  Where one more is left
to follow, `includeCycle` stands for the result that is not known. -/
def resolveWithin (origin : Origin) (named : NamedSchemas) : Nat → Value → Logged (Option String)
  | fuel, value =>
    match value, fuel with
    | .string text, _ => ofText named text
    | .mapping entries, _ => some <$> Logged.of (jsonText (.mapping entries))
    | .tagged name content, fuel =>
      if name = "include" then do
        let target ← Logged.of (includeTarget content)
        match fuel with
        | 0 => Logged.fail (.invalid .includeCycle)
        | fuel + 1 =>
          let path := Path.join origin.base target
          Logged.debug ("Resolving include: " ++ path)
          let text ← Logged.of (read origin.files path)
          if looksLikeObject text.toList then return some text
          else
            let value ← Logged.of (parse text)
            resolveWithin origin named fuel value
      else return none
    | _, _ => return none

/-- How many includes are followed: enough for any that come to an end. -/
def maxIncludes (origin : Origin) : Nat := origin.files.entries.length + 1

/-- **The schema that a value stands for.** -/
def resolve (origin : Origin) (named : NamedSchemas) (value : Value) : Logged (Option String) :=
  resolveWithin origin named origin.maxIncludes value

/-- **The schema attached to a body or a named declaration.** -/
def schemaOf (origin : Origin) (named : NamedSchemas) (value : Value) : Logged (Option String) :=
  match value.untagged.entries? with
  | none => origin.resolve named value
  | some entries =>
    match Value.lookup "schema" entries with
    | some schema => origin.resolve named schema
    | none =>
      if (Value.lookup "properties" entries).isSome then
        some <$> Logged.of (declarationText value)
      else
        match Value.lookup "type" entries with
        | some declared => origin.resolve named declared
        | none => return none

end Origin

end RamlExpress
