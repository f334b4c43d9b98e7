import RamlExpress.Yaml.Fault
import RamlExpress.Yaml.Tag
import RamlExpress.Yaml.Token

/-!
# Yaml/Node — the node tree of a document

A node is read from the tokens by what its first token says.  The collections are read by loops
that take the reader of their nodes as an argument, so that each of them stands for itself; the
depth of the tree is bounded by the number of tokens, and so is each loop.

* `Node.ofTokens` — the node of the one document that a token list holds.

Anchors and aliases are names at first; what stands for them is a parameter of the tree.
-/

namespace RamlExpress.Yaml

/-- What may stand in front of a node: an anchor and a tag. -/
structure Marks (ρ : Type) where
  anchor : Option ρ := none
  tag : Option Tag := none
deriving Repr

/-- A node of a document, with references to nodes in `ρ`. -/
inductive Node (ρ : Type) where
  | reference (target : ρ)
  | scalar (marks : Marks ρ) (text : String) (plain : Bool)
  | sequence (marks : Marks ρ) (items : List (Node ρ))
  | mapping (marks : Marks ρ) (entries : List (Node ρ × Node ρ))
deriving Repr

/-- A node as it is read: references are names. -/
abbrev NamedNode := Node String

namespace Node

/-- The node where there is nothing: an empty plain scalar. -/
def empty : NamedNode := .scalar {} "" true

/-- Reads something from the front of a token list. -/
abbrev Reader (α : Type) := List Token → Except Fault (α × List Token)

/-- The next token is one of the given ones. -/
def nextIn (tokens expected : List Token) : Bool := tokens.head?.any expected.contains

/-- A node, or an empty one if a token that cannot start a node follows. -/
def nodeUnless (node : Reader NamedNode) (ends : List Token) : Reader NamedNode := fun tokens =>
  if nextIn tokens ends then .ok (empty, tokens) else node tokens

/-- A value behind its token, or an empty one if there is no such token. -/
def valueUnless (node : Reader NamedNode) (ends : List Token) : Reader NamedNode
  | .value :: rest => nodeUnless node ends rest
  | tokens => .ok (empty, tokens)

/-! ## Block collections -/

/-- The items of a block sequence. -/
def blockItems (node : Reader NamedNode) : Nat → Reader (List NamedNode)
  | 0, _ => .error .entryExpected
  | fuel + 1, tokens =>
    match tokens with
    | .blockEntry :: rest => do
      let (item, rest) ← nodeUnless node [.blockEntry, .blockEnd] rest
      let (items, rest) ← blockItems node fuel rest
      return (item :: items, rest)
    | .blockEnd :: rest => .ok ([], rest)
    | _ => .error .entryExpected

/-- The items of a block sequence that stands at the indentation of its key: any token but an entry
ends it. -/
def alignedItems (node : Reader NamedNode) : Nat → Reader (List NamedNode)
  | 0, _ => .error .entryExpected
  | fuel + 1, tokens =>
    match tokens with
    | .blockEntry :: rest => do
      let (item, rest) ← nodeUnless node [.blockEntry, .key, .value, .blockEnd] rest
      let (items, rest) ← alignedItems node fuel rest
      return (item :: items, rest)
    | _ => .ok ([], tokens)

/-- The entries of a block mapping. -/
def blockEntries (node : Reader NamedNode) : Nat → Reader (List (NamedNode × NamedNode))
  | 0, _ => .error .keyExpected
  | fuel + 1, tokens =>
    match tokens with
    | .key :: rest => do
      let (key, rest) ← nodeUnless node [.key, .value, .blockEnd] rest
      let (value, rest) ← valueUnless node [.key, .value, .blockEnd] rest
      let (entries, rest) ← blockEntries node fuel rest
      return ((key, value) :: entries, rest)
    | .blockEnd :: rest => .ok ([], rest)
    | _ => .error .keyExpected

/-! ## Flow collections -/

/-- Passes the comma in front of every entry but the first. -/
def passComma (first : Bool) : List Token → Except Fault (List Token)
  | .flowEntry :: rest => if first then .ok (.flowEntry :: rest) else .ok rest
  | tokens => if first then .ok tokens else .error .separatorExpected

/-- The one pair of a mapping inside a flow sequence.  A key that is left out takes the token with
it that shows so. -/
def flowPair (node : Reader NamedNode) : Reader NamedNode := fun tokens => do
  let (key, rest) ←
    if nextIn tokens [.value, .flowEntry, .flowSequenceEnd] then pure (empty, tokens.drop 1)
    else node tokens
  let (value, rest) ← valueUnless node [.flowEntry, .flowSequenceEnd] rest
  return (.mapping {} [(key, value)], rest)

/-- The items of a flow sequence. -/
def flowItems (node : Reader NamedNode) : Nat → Bool → Reader (List NamedNode)
  | 0, _, _ => .error .separatorExpected
  | fuel + 1, first, tokens =>
    match tokens with
    | .flowSequenceEnd :: rest => .ok ([], rest)
    | tokens => do
      match ← passComma first tokens with
      | .flowSequenceEnd :: rest => return ([], rest)
      | .key :: rest =>
        let (item, rest) ← flowPair node rest
        let (items, rest) ← flowItems node fuel false rest
        return (item :: items, rest)
      | rest =>
        let (item, rest) ← node rest
        let (items, rest) ← flowItems node fuel false rest
        return (item :: items, rest)

/-- The entries of a flow mapping. -/
def flowEntries (node : Reader NamedNode) : Nat → Bool → Reader (List (NamedNode × NamedNode))
  | 0, _, _ => .error .separatorExpected
  | fuel + 1, first, tokens =>
    match tokens with
    | .flowMappingEnd :: rest => .ok ([], rest)
    | tokens => do
      match ← passComma first tokens with
      | .flowMappingEnd :: rest => return ([], rest)
      | .key :: rest =>
        let (key, rest) ← nodeUnless node [.value, .flowEntry, .flowMappingEnd] rest
        let (value, rest) ← valueUnless node [.flowEntry, .flowMappingEnd] rest
        let (entries, rest) ← flowEntries node fuel false rest
        return ((key, value) :: entries, rest)
      | rest =>
        let (key, rest) ← node rest
        let (entries, rest) ← flowEntries node fuel false rest
        return ((key, empty) :: entries, rest)

/-! ## Nodes -/

/-- What the handles of a document stand for. -/
abbrev Handles := List (String × List UInt8)

/-- The tag that a handle and what follows it stand for. -/
def tagOf (handles : Handles) (handle : String) (octets : List UInt8) :
    Except Fault (Option Tag) :=
  if handle = "" then .ok (Tag.ofOctets? octets)
  else
    match handles.lookup handle with
    | some start => .ok (Tag.ofOctets? (start ++ octets))
    | none => .error .undefinedHandle

/-- The anchor and the tag in front of a node, in either order, and whether there is any. -/
def takeMarks (handles : Handles) : List Token → Except Fault (Marks String × Bool × List Token)
  | .anchor name :: .tag handle octets :: rest
  | .tag handle octets :: .anchor name :: rest => do
    return ({ anchor := some name, tag := ← tagOf handles handle octets }, true, rest)
  | .anchor name :: rest => .ok ({ anchor := some name }, true, rest)
  | .tag handle octets :: rest => do
    return ({ tag := ← tagOf handles handle octets }, true, rest)
  | tokens => .ok ({}, false, tokens)

/-- Where a node stands: which collections may start there. -/
inductive Place where
  /-- In a flow collection: no block collection. -/
  | flow
  /-- In a block sequence or at the top. -/
  | block
  /-- In a block mapping: also a block sequence at the indentation of the key. -/
  | entry
deriving Repr, DecidableEq

/-- A node.  Every level of the tree and every entry takes a token at least, so a depth beyond the
number of tokens suffices for both. -/
def read (handles : Handles) : Nat → Place → Reader NamedNode
  | 0, _, _ => .error .nodeExpected
  | depth + 1, place, tokens =>
    match tokens with
    | .reference name :: rest => .ok (.reference name, rest)
    | tokens => do
      let (marks, marked, tokens) ← takeMarks handles tokens
      let inner := read handles depth
      let fuel := depth + 1
      match tokens with
      | .scalar text plain :: rest => return (.scalar marks text plain, rest)
      | .flowSequence :: rest =>
        let (items, rest) ← flowItems (inner .flow) fuel true rest
        return (.sequence marks items, rest)
      | .flowMapping :: rest =>
        let (entries, rest) ← flowEntries (inner .flow) fuel true rest
        return (.mapping marks entries, rest)
      | tokens =>
        if place = .entry && nextIn tokens [.blockEntry] then do
          let (items, rest) ← alignedItems (inner .block) fuel tokens
          return (.sequence marks items, rest)
        else if place ≠ .flow && nextIn tokens [.blockSequence] then do
          let (items, rest) ← blockItems (inner .block) fuel (tokens.drop 1)
          return (.sequence marks items, rest)
        else if place ≠ .flow && nextIn tokens [.blockMapping] then do
          let (entries, rest) ← blockEntries (inner .entry) fuel (tokens.drop 1)
          return (.mapping marks entries, rest)
        else if marked then return (.scalar marks "" true, tokens)
        else throw .nodeExpected

/-! ## Documents -/

/-- The directives in front of a document, given those already read. -/
def takeDirectives (versioned : Bool) (handles : Handles) :
    List Token → Except Fault (Handles × List Token)
  | .version major minor :: rest =>
    if versioned then .error .repeatedDirective
    else if major ≠ 1 || (minor ≠ 1 && minor ≠ 2) then .error .unsupportedVersion
    else takeDirectives true handles rest
  | .tagHandle handle start :: rest =>
    if (handles.lookup handle).isSome then .error .repeatedDirective
    else takeDirectives versioned (handles ++ [(handle, start)]) rest
  | tokens => .ok (handles, tokens)

/-- The handles that every document has unless its directives say otherwise. -/
def defaultHandles : Handles := [("!", octetsOf "!"), ("!!", octetsOf corePart)]

/-- A directive or a document marker follows, or nothing. -/
def atDocumentEdge : List Token → Bool
  | [] | .version .. :: _ | .tagHandle .. :: _ | .documentStart :: _ | .documentEnd :: _ => true
  | _ => false

/-- The content of a document. -/
def content (handles : Handles) : Reader NamedNode := fun tokens =>
  read (handles ++ defaultHandles) (tokens.length + 1) .block tokens

/-- The node of the first document, which may start without a marker. -/
def document : Reader NamedNode := fun tokens =>
  match tokens with
  | [] => .ok (empty, [])
  | .version .. :: _ | .tagHandle .. :: _ | .documentStart :: _ => do
    match ← takeDirectives false [] tokens with
    | (handles, .documentStart :: rest) =>
      if atDocumentEdge rest then return (empty, rest) else content handles rest
    | _ => throw .documentStartExpected
  | tokens => content [] tokens

/-- **The node of the one document that a token list holds.**  Nothing at all is a document with an
empty node. -/
def ofTokens (tokens : List Token) : Except Fault NamedNode := do
  let (node, rest) ← document tokens
  if (rest.dropWhile (· == .documentEnd)).isEmpty then return node
  else throw .severalDocuments

end Node

end RamlExpress.Yaml
