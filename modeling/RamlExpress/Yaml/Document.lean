import RamlExpress.OrderedMap
import RamlExpress.Yaml.Node
import RamlExpress.Yaml.Scalar
import RamlExpress.Yaml.Token.Lexer

/-!
# Yaml/Document — from text to value

An anchor gets a slot, and an alias stands for the last node that has its slot.  The number of a
slot is the number of names in use when the anchor is met, so an anchor whose name is given anew may
come to share the slot of another.  Collections nest at most 128 deep, which also stops an alias
inside its own anchor, since it would never end.  How often aliases are followed is not limited: a
reader may refuse a text that unfolds to far more than its own size, but here such a text has its
value, however large.

* `Value.parse` — the value of the one document in a text.
-/

namespace RamlExpress.Yaml

/-- A node whose references are slots. -/
abbrev LinkedNode := Node Nat

/-- The slots of the names in use. -/
abbrev Slots := List (String × Nat)

namespace Node

/-- Gives an anchor its slot. -/
def linkMarks (marks : Marks String) (slots : Slots) : Marks Nat × Slots :=
  match marks.anchor with
  | none => ({ tag := marks.tag }, slots)
  | some name =>
    let slot := slots.length
    ({ anchor := some slot, tag := marks.tag }, putEntry name slot slots)

mutual

/-- Replaces the names of anchors and aliases by slots, in document order. -/
def link : NamedNode → Slots → Except Fault (LinkedNode × Slots)
  | reference name, slots =>
    match slots.lookup name with
    | some slot => .ok (reference slot, slots)
    | none => .error .unknownAlias
  | scalar marks text plain, slots =>
    let (marks, slots) := linkMarks marks slots
    .ok (scalar marks text plain, slots)
  | sequence marks items, slots => do
    let (marks, slots) := linkMarks marks slots
    let (items, slots) ← linkItems items slots
    return (sequence marks items, slots)
  | mapping marks entries, slots => do
    let (marks, slots) := linkMarks marks slots
    let (entries, slots) ← linkEntries entries slots
    return (mapping marks entries, slots)

/-- Links the items of a sequence. -/
def linkItems : List NamedNode → Slots → Except Fault (List LinkedNode × Slots)
  | [], slots => .ok ([], slots)
  | item :: rest, slots => do
    let (item, slots) ← link item slots
    let (rest, slots) ← linkItems rest slots
    return (item :: rest, slots)

/-- Links the entries of a mapping. -/
def linkEntries :
    List (NamedNode × NamedNode) → Slots → Except Fault (List (LinkedNode × LinkedNode) × Slots)
  | [], slots => .ok ([], slots)
  | (key, value) :: rest, slots => do
    let (key, slots) ← link key slots
    let (value, slots) ← link value slots
    let (rest, slots) ← linkEntries rest slots
    return ((key, value) :: rest, slots)

end

/-- A node under its slot, if it has one. -/
def underSlot (marks : Marks Nat) (node : LinkedNode) : List (Nat × LinkedNode) :=
  (marks.anchor.map fun slot => (slot, node)).toList

mutual

/-- The nodes that have slots, in document order. -/
def anchored : LinkedNode → List (Nat × LinkedNode)
  | reference _ => []
  | scalar marks text plain => underSlot marks (scalar marks text plain)
  | sequence marks items => underSlot marks (sequence marks items) ++ anchoredItems items
  | mapping marks entries => underSlot marks (mapping marks entries) ++ anchoredEntries entries

/-- The nodes in a list that have slots. -/
def anchoredItems : List LinkedNode → List (Nat × LinkedNode)
  | [] => []
  | item :: rest => anchored item ++ anchoredItems rest

/-- The nodes in the entries of a mapping that have slots. -/
def anchoredEntries : List (LinkedNode × LinkedNode) → List (Nat × LinkedNode)
  | [] => []
  | (key, value) :: rest => anchored key ++ anchored value ++ anchoredEntries rest

end

end Node

namespace Value

/-- How deep collections nest. -/
def maxDepth : Nat := 128

/-- A value inside its tag of the application; other tags say nothing about collections. -/
def inTag : Option Tag → Value → Value
  | some (.named name), value => .tagged name value
  | _, value => value

/-- Adds an entry whose key is new. -/
def addEntry (entries : List (Value × Value)) (key value : Value) :
    Except Fault (List (Value × Value)) :=
  if entries.any (fun (other, _) => other.sameKey key) then .error .repeatedKey
  else .ok (entries ++ [(key, value)])

/-- The node that an alias stands for, given the nodes with slots from the last to the first.  A
node other than an alias stands for itself. -/
def follow (nodes : List (Nat × LinkedNode)) (node : LinkedNode) : LinkedNode :=
  match node with
  | .reference slot => (nodes.lookup slot).getD node
  | node => node

/-- The value of a node inside which collections may nest `depth` deep. -/
def ofNode (nodes : List (Nat × LinkedNode)) : Nat → LinkedNode → Except Fault Value
  | depth, node =>
    match follow nodes node, depth with
    | .reference _, _ => .error .unknownAlias
    | .scalar marks text plain, _ => Scalar.resolve marks.tag plain text
    | .sequence .., 0 | .mapping .., 0 => .error .tooDeep
    | .sequence marks items, depth + 1 => do
      let items ← items.mapM (ofNode nodes depth)
      return inTag marks.tag (.sequence items)
    | .mapping marks entries, depth + 1 => do
      let entries ← entries.foldlM (fun entries (key, value) => do
        let key ← ofNode nodes depth key
        let value ← ofNode nodes depth value
        addEntry entries key value) []
      return inTag marks.tag (.mapping entries)

/-- **The value of the one document in a text.** -/
def parse (text : String) : Except Fault Value := do
  let node ← Node.ofTokens (← Token.scan text)
  let (node, _) ← node.link []
  ofNode node.anchored.reverse maxDepth node

end Value

end RamlExpress.Yaml
