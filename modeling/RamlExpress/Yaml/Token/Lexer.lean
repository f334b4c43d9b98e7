import RamlExpress.Yaml.Token.Block
import RamlExpress.Yaml.Token.Mark
import RamlExpress.Yaml.Token.Plain
import RamlExpress.Yaml.Token.Quoted

/-!
# Yaml/Token/Lexer — cutting a text into tokens

Indentation opens and closes block collections: a column deeper than the innermost one opens, a
shallower one closes.  A key is known as such only by the colon behind it, so that the place where
one may have begun is remembered, one place for each open flow collection, and the tokens that a key
implies are put in there afterwards.

* `Token.scan` — the tokens of a text.
-/

namespace RamlExpress.Yaml

/-- A place where a key may have begun. -/
structure KeyPlace where
  /-- How many tokens came before it. -/
  token : Nat
  index : Nat
  line : Nat
  column : Nat
  /-- Nothing but a key can stand there. -/
  required : Bool
deriving Repr

/-- The state of the lexer. -/
structure Lexer where
  cursor : Cursor
  /-- The tokens so far, last first. -/
  tokens : List Token := []
  /-- How many tokens there are. -/
  count : Nat := 0
  /-- The column of the innermost block collection, -1 outside of all. -/
  indent : Int := -1
  /-- The columns of the block collections around it. -/
  indents : List Int := []
  /-- The place of a possible key in the innermost flow collection, or outside of all. -/
  keyPlace : Option KeyPlace := none
  /-- The places of possible keys in the collections around it; one for each flow collection. -/
  outerPlaces : List (Option KeyPlace) := []
  /-- A key may begin at the cursor. -/
  keyAllowed : Bool := true
deriving Repr

namespace Lexer

/-- The cursor stands in a flow collection. -/
def inFlow (lexer : Lexer) : Bool := !lexer.outerPlaces.isEmpty

/-- Adds a token at the end. -/
def emit (token : Token) (lexer : Lexer) : Lexer :=
  { lexer with tokens := token :: lexer.tokens, count := lexer.count + 1 }

/-- Puts a token in behind the first `place` ones. -/
def emitAt (place : Nat) (token : Token) (lexer : Lexer) : Lexer :=
  { lexer with
    tokens := lexer.tokens.insertIdx (lexer.count - place) token, count := lexer.count + 1 }

/-- Opens a block collection at a column if it lies deeper than the innermost one. -/
def openBlock (column place : Nat) (token : Token) (lexer : Lexer) : Lexer :=
  if !lexer.inFlow && lexer.indent < column then
    { lexer with indent := column, indents := lexer.indent :: lexer.indents }.emitAt place token
  else lexer

/-- The columns of block collections that lie deeper than a column, dropped from the innermost on:
how many, and what remains. -/
def closeCount (column : Int) : Int → List Int → Nat × Int × List Int
  | indent, [] => if column < indent then (1, -1, []) else (0, indent, [])
  | indent, outer :: rest =>
    if column < indent then
      let (n, indent, indents) := closeCount column outer rest
      (n + 1, indent, indents)
    else (0, indent, outer :: rest)

/-- Closes the block collections that lie deeper than a column. -/
def closeBlocks (column : Int) (lexer : Lexer) : Lexer :=
  if lexer.inFlow then lexer
  else
    let (n, indent, indents) := closeCount column lexer.indent lexer.indents
    { lexer with
      indent, indents, tokens := List.replicate n .blockEnd ++ lexer.tokens
      count := lexer.count + n }

/-- Gives up the possible key of the innermost flow collection. -/
def dropKey (lexer : Lexer) : Except Fault Lexer :=
  if lexer.keyPlace.any (·.required) then .error .missingColon
  else .ok { lexer with keyPlace := none }

/-- Remembers the cursor as a place where a key may begin. -/
def saveKey (lexer : Lexer) : Except Fault Lexer :=
  if lexer.keyAllowed then do
    let cursor := lexer.cursor
    let required := !lexer.inFlow && lexer.indent == (cursor.column : Int)
    let lexer ← lexer.dropKey
    return { lexer with
      keyPlace := some
        ⟨lexer.count, cursor.index, cursor.line, cursor.column, required⟩ }
  else .ok lexer

/-- A key is at most 1024 characters long and stands on one line. -/
def isStale (cursor : Cursor) (place : KeyPlace) : Bool :=
  place.line < cursor.line || place.index + 1024 < cursor.index

/-- Gives up the places whose key has become too long. -/
def dropStaleKeys (lexer : Lexer) : Except Fault Lexer :=
  let places := lexer.keyPlace :: lexer.outerPlaces
  let stale (place : Option KeyPlace) : Bool := place.any (isStale lexer.cursor)
  if places.any fun place => stale place && place.any (·.required) then .error .missingColon
  else
    let fresh (place : Option KeyPlace) : Option KeyPlace := if stale place then none else place
    .ok { lexer with
      keyPlace := fresh lexer.keyPlace, outerPlaces := lexer.outerPlaces.map fresh }

/-- Passes blanks, comments and line breaks.  A tab is not passed where a key may begin; outside of
flow collections a key may begin on a new line. -/
def toToken : Nat → Lexer → Lexer
  | 0, lexer => lexer
  | fuel + 1, lexer =>
    let tabs := lexer.inFlow || !lexer.keyAllowed
    let cursor := lexer.cursor.skipWhile fun c => c == ' ' || (tabs && c == '\t')
    let cursor := if cursor.sees '#' then cursor.skipToLineEnd else cursor
    if cursor.seesIn isBreak then
      toToken fuel
        { lexer with cursor := cursor.skipBreak, keyAllowed := lexer.keyAllowed || !lexer.inFlow }
    else { lexer with cursor }

/-- A token of `n` characters at the cursor. -/
def take (n : Nat) (token : Token) (lexer : Lexer) : Lexer :=
  { lexer with cursor := lexer.cursor.skip n }.emit token

/-- A directive or document marker: all block collections end. -/
def betweenDocuments (lexer : Lexer) : Except Fault Lexer := do
  let lexer ← (lexer.closeBlocks (-1)).dropKey
  return { lexer with keyAllowed := false }

/-- The start of a flow collection, which may itself be a key. -/
def openFlow (token : Token) (lexer : Lexer) : Except Fault Lexer := do
  let lexer ← lexer.saveKey
  return { lexer with
    keyPlace := none, outerPlaces := lexer.keyPlace :: lexer.outerPlaces, keyAllowed := true
  }.take 1 token

/-- The end of a flow collection. -/
def closeFlow (token : Token) (lexer : Lexer) : Except Fault Lexer := do
  let lexer ← lexer.dropKey
  let lexer := match lexer.outerPlaces with
    | [] => lexer
    | place :: places => { lexer with keyPlace := place, outerPlaces := places }
  return { lexer with keyAllowed := false }.take 1 token

/-- The comma between the entries of a flow collection. -/
def flowEntry (lexer : Lexer) : Except Fault Lexer := do
  let lexer ← lexer.dropKey
  return { lexer with keyAllowed := true }.take 1 .flowEntry

/-- The hyphen before an entry of a block sequence. -/
def blockEntry (lexer : Lexer) : Except Fault Lexer := do
  if !lexer.inFlow && !lexer.keyAllowed then throw .misplacedEntry
  let lexer ← (lexer.openBlock lexer.cursor.column lexer.count .blockSequence).dropKey
  return { lexer with keyAllowed := true }.take 1 .blockEntry

/-- The question mark before a key. -/
def explicitKey (lexer : Lexer) : Except Fault Lexer := do
  if !lexer.inFlow && !lexer.keyAllowed then throw .misplacedKey
  let lexer ← (lexer.openBlock lexer.cursor.column lexer.count .blockMapping).dropKey
  return { lexer with keyAllowed := !lexer.inFlow }.take 1 .key

/-- The colon before a value: it ends the possible key, if there is one. -/
def mappingValue (lexer : Lexer) : Except Fault Lexer :=
  match lexer.keyPlace with
  | some place =>
    let lexer := (lexer.emitAt place.token .key).openBlock place.column place.token .blockMapping
    .ok ({ lexer with keyPlace := none, keyAllowed := false }.take 1 .value)
  | none =>
    if !lexer.inFlow && !lexer.keyAllowed then .error .misplacedValue
    else
      let lexer := lexer.openBlock lexer.cursor.column lexer.count .blockMapping
      .ok ({ lexer with keyAllowed := !lexer.inFlow }.take 1 .value)

/-- An anchor or alias. -/
def anchor (token : String → Token) (lexer : Lexer) : Except Fault Lexer := do
  let lexer ← lexer.saveKey
  let (name, cursor) ← takeAnchor lexer.cursor
  return { lexer with keyAllowed := false, cursor }.emit (token name)

/-- A tag. -/
def tag (lexer : Lexer) : Except Fault Lexer := do
  let lexer ← lexer.saveKey
  let (token, cursor) ← takeTag lexer.inFlow lexer.cursor
  return { lexer with keyAllowed := false, cursor }.emit token

/-- A literal or folded scalar, which is never a key. -/
def blockScalar (literal : Bool) (lexer : Lexer) : Except Fault Lexer := do
  let lexer ← lexer.dropKey
  let (text, cursor) ← takeBlock literal lexer.indent lexer.cursor
  return { lexer with keyAllowed := true, cursor }.emit (.scalar text false)

/-- A scalar in quotes. -/
def quotedScalar (single : Bool) (lexer : Lexer) : Except Fault Lexer := do
  let lexer ← lexer.saveKey
  let (text, cursor) ← takeQuoted single lexer.cursor
  return { lexer with keyAllowed := false, cursor }.emit (.scalar text false)

/-- A scalar without quotes. -/
def plainScalar (lexer : Lexer) : Except Fault Lexer := do
  let lexer ← lexer.saveKey
  let (text, broken, cursor) ←
    takePlain lexer.inFlow (lexer.indent + 1).toNat lexer.cursor
  return { lexer with keyAllowed := broken, cursor }.emit (.scalar text true)

/-- Characters that start no plain scalar. -/
def isIndicator (c : Char) : Bool := "-?:,[]\x7b\x7d#&*!|>'\"%@`".toList.contains c

/-- A plain scalar starts with a character that is no indicator, with a hyphen before anything but
a blank, and outside of flow collections with a question mark or colon before anything but a gap. -/
def startsPlain (flow : Bool) (c : Char) (rest : List Char) : Bool :=
  !(isGap c || isIndicator c) || (c == '-' && !rest.head?.any isBlank)
    || (!flow && (c == '?' || c == ':') && !gapNext rest)

/-- The token at the cursor, which stands on the character `c`. -/
def tokenAt (c : Char) (rest : List Char) (lexer : Lexer) : Except Fault Lexer :=
  let flow := lexer.inFlow
  let line := lexer.cursor.column == 0
  if line && c == '%' then do
    let lexer ← lexer.betweenDocuments
    let (token, cursor) ← takeDirective lexer.cursor
    return { lexer with cursor }.emit token
  else if lexer.cursor.atMarker then do
    let lexer ← lexer.betweenDocuments
    return lexer.take 3 (if c == '-' then .documentStart else .documentEnd)
  else if c == '[' then lexer.openFlow .flowSequence
  else if c == '\x7b' then lexer.openFlow .flowMapping
  else if c == ']' then lexer.closeFlow .flowSequenceEnd
  else if c == '\x7d' then lexer.closeFlow .flowMappingEnd
  else if c == ',' then lexer.flowEntry
  else if c == '-' && gapNext rest then lexer.blockEntry
  else if c == '?' && (flow || gapNext rest) then lexer.explicitKey
  else if c == ':' && (flow || gapNext rest) then lexer.mappingValue
  else if c == '*' then lexer.anchor .reference
  else if c == '&' then lexer.anchor .anchor
  else if c == '!' then lexer.tag
  else if c == '|' && !flow then lexer.blockScalar true
  else if c == '>' && !flow then lexer.blockScalar false
  else if c == '\'' then lexer.quotedScalar true
  else if c == '"' then lexer.quotedScalar false
  else if startsPlain flow c rest then lexer.plainScalar
  else .error .unexpectedCharacter

/-- The end of the text: all block collections end, and no key may be wanting its colon. -/
def finish (lexer : Lexer) : Except Fault (List Token) := do
  let lexer ← (lexer.closeBlocks (-1)).dropKey
  return lexer.tokens.reverse

/-- Cuts the rest of a text into tokens.  Every token takes a character at least, so fuel beyond the
length of the rest suffices, also for passing to the next token. -/
def run : Nat → Lexer → Except Fault (List Token)
  | 0, lexer => lexer.finish
  | fuel + 1, lexer => do
    let lexer ← (toToken (fuel + 1) lexer).dropStaleKeys
    let lexer := lexer.closeBlocks lexer.cursor.column
    match lexer.cursor.rest with
    | [] => lexer.finish
    | c :: rest => run fuel (← lexer.tokenAt c rest)

end Lexer

/-- **The tokens of a text.**  A byte order mark in front is dropped; a second one is passed like a
blank. -/
def Token.scan (text : String) : Except Fault (List Token) :=
  let chars := match text.toList with
    | c :: rest => if c = byteOrderMark then rest else c :: rest
    | [] => []
  if !chars.all isAllowed then .error .forbiddenCharacter
  else
    let cursor : Cursor := { rest := chars }
    let cursor := if cursor.sees byteOrderMark then cursor.skip 1 else cursor
    Lexer.run (chars.length + 1) { cursor }

end RamlExpress.Yaml
