import RamlExpress.Yaml.Key

/-!
# Yaml/Layout — mappings of mappings as YAML text

Entries stand on lines of their own, two spaces deeper than the mapping they are in.  A mapping
behind a key that is announced starts on the line of its colon.
-/

namespace RamlExpress.Yaml

/-- What is laid out: words that need no quotes, and mappings. -/
inductive Layout where
  | word (text : String)
  | mapping (entries : List (String × Layout))
deriving Repr

namespace Layout

mutual

/-- What stands behind the colon of an entry at an indentation. -/
def behindColon (indent : Nat) (announced : Bool) : Layout → List Char
  | word text => ' ' :: text.toList ++ ['\n']
  | mapping [] => [' ', '\x7b', '\x7d', '\n']
  | mapping ((key, value) :: rest) =>
    (if announced then [' '] else '\n' :: Key.spaces (indent + 2))
      ++ Key.lead (indent + 2) key ++ behindColon (indent + 2) (Key.isAnnounced key) value
      ++ entryLines (indent + 2) rest

/-- Entries on lines of their own. -/
def entryLines (indent : Nat) : List (String × Layout) → List Char
  | [] => []
  | (key, value) :: rest =>
    Key.spaces indent ++ Key.lead indent key ++ behindColon indent (Key.isAnnounced key) value
      ++ entryLines indent rest

end

/-- **The text of a document.** -/
def render : Layout → String
  | word text => text ++ "\n"
  | mapping [] => "\x7b\x7d\n"
  | mapping entries => String.ofList (entryLines 0 entries)

end Layout

end RamlExpress.Yaml
