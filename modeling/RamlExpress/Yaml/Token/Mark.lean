import RamlExpress.Yaml.Cursor
import RamlExpress.Yaml.Fault
import RamlExpress.Yaml.Token

/-!
# Yaml/Token/Mark — anchors, aliases, tags and directives
-/

namespace RamlExpress.Yaml

/-- What may stand behind the name of an anchor or alias. -/
def endsAnchor : List Char → Bool
  | [] => true
  | c :: _ =>
    isGap c || c == '?' || c == ':' || c == ',' || c == ']' || c == '\x7d' || c == '%' || c == '@'
      || c == '`'

/-- The name of an anchor or alias, the cursor standing on its indicator. -/
def takeAnchor (cursor : Cursor) : Except Fault (String × Cursor) :=
  let cursor := cursor.skip 1
  let name := cursor.rest.takeWhile isNameChar
  let cursor := cursor.skip name.length
  if name.isEmpty || !endsAnchor cursor.rest then .error .malformedAnchor
  else .ok (String.ofList name, cursor)

/-- Characters that a tag may hold; a verbatim tag may also hold some flow indicators. -/
def isTagChar (verbatim : Bool) (c : Char) : Bool :=
  isNameChar c || ";/?:@&=+$.!~*'()%".toList.contains c
    || (verbatim && (c == ',' || c == '[' || c == ']'))

/-- How many octets a character has, by its first octet. -/
def sequenceLength? (octet : Nat) : Option Nat :=
  if octet < 0x80 then some 1
  else if 0xC0 ≤ octet && octet < 0xE0 then some 2
  else if 0xE0 ≤ octet && octet < 0xF0 then some 3
  else if 0xF0 ≤ octet && octet < 0xF8 then some 4
  else none

/-- An escaped octet: a percent sign and two hexadecimal digits. -/
def escapedOctet? : List Char → Option Nat
  | '%' :: high :: low :: _ => do return (← hexDigit? high) * 16 + (← hexDigit? low)
  | _ => none

/-- The following octets of an escaped character. -/
def takeFollowing : Nat → List UInt8 → Cursor → Except Fault (List UInt8 × Cursor)
  | 0, octets, cursor => .ok (octets, cursor)
  | more + 1, octets, cursor =>
    match escapedOctet? cursor.rest with
    | some octet =>
      if 0x80 ≤ octet && octet < 0xC0 then
        takeFollowing more (octet.toUInt8 :: octets) (cursor.skip 3)
      else .error .malformedTag
    | none => .error .malformedTag

/-- The octets of a tag, last first. -/
def takeTagFrom (verbatim : Bool) :
    Nat → List UInt8 → Cursor → Except Fault (List UInt8 × Cursor)
  | 0, octets, cursor => .ok (octets, cursor)
  | fuel + 1, octets, cursor =>
    match cursor.rest with
    | [] => .ok (octets, cursor)
    | c :: _ =>
      if !isTagChar verbatim c then .ok (octets, cursor)
      else if c == '%' then
        match escapedOctet? cursor.rest with
        | none => .error .malformedTag
        | some octet =>
          match sequenceLength? octet with
          | none => .error .malformedTag
          | some length => do
            let (octets, cursor) ←
              takeFollowing (length - 1) (octet.toUInt8 :: octets) (cursor.skip 3)
            takeTagFrom verbatim fuel octets cursor
      else takeTagFrom verbatim fuel (c.toNat.toUInt8 :: octets) (cursor.skip 1)

/-- The octets of a tag or of part of one. -/
def takeTagOctets (verbatim : Bool) (cursor : Cursor) : Except Fault (List UInt8 × Cursor) := do
  let (octets, cursor) ← takeTagFrom verbatim (cursor.rest.length + 1) [] cursor
  return (octets.reverse, cursor)

/-- A tag handle, the cursor standing on its exclamation mark: the mark, a name, and a second mark
if there is one. -/
def takeHandle (cursor : Cursor) : List Char × Cursor :=
  let name := (cursor.skip 1).rest.takeWhile isNameChar
  let cursor := cursor.skip (1 + name.length)
  if cursor.sees '!' then ('!' :: name ++ ['!'], cursor.skip 1) else ('!' :: name, cursor)

/-- What may stand behind a tag. -/
def endsTag (flow : Bool) (rest : List Char) : Bool :=
  gapNext rest || (flow && rest.head? == some ',')

/-- **A tag**: verbatim, with a handle, or with the first handle and a name; a lone exclamation mark
is a tag without handle. -/
def takeTag (flow : Bool) (cursor : Cursor) : Except Fault (Token × Cursor) := do
  let (token, cursor) ← do
    if (cursor.skip 1).sees '<' then
      let (octets, cursor) ← takeTagOctets true (cursor.skip 2)
      if octets.isEmpty || !cursor.sees '>' then throw .malformedTag
      pure (Token.tag "" octets, cursor.skip 1)
    else
      let (handle, cursor) := takeHandle cursor
      let (octets, cursor) ← takeTagOctets false cursor
      if handle.length ≠ 1 && handle.getLast? == some '!' then
        if octets.isEmpty then throw .malformedTag
        pure (Token.tag (String.ofList handle) octets, cursor)
      else
        let octets := (handle.drop 1).map (·.toNat.toUInt8) ++ octets
        if octets.isEmpty then pure (Token.tag "" [33], cursor)
        else pure (Token.tag "!" octets, cursor)
  if !endsTag flow cursor.rest then throw .malformedTag
  return (token, cursor)

/-- A number of a version: at most nine digits. -/
def takeVersionNumber (cursor : Cursor) : Except Fault (Nat × Cursor) :=
  let digits := cursor.rest.takeWhile Char.isDigit
  if digits.isEmpty || 9 < digits.length then .error .malformedDirective
  else .ok (digits.foldl (fun n c => n * 10 + (c.toNat - '0'.toNat)) 0, cursor.skip digits.length)

/-- The version of a version directive. -/
def takeVersion (cursor : Cursor) : Except Fault (Token × Cursor) := do
  let (major, cursor) ← takeVersionNumber (cursor.skipWhile isBlank)
  if !cursor.sees '.' then throw .malformedDirective
  let (minor, cursor) ← takeVersionNumber (cursor.skip 1)
  return (.version major minor, cursor)

/-- The handle and text of a tag directive. -/
def takeTagHandle (cursor : Cursor) : Except Fault (Token × Cursor) := do
  let cursor := cursor.skipWhile isBlank
  if !cursor.sees '!' then throw .malformedDirective
  let (handle, cursor) := takeHandle cursor
  if handle.getLast? ≠ some '!' then throw .malformedDirective
  if !cursor.seesIn isBlank then throw .malformedDirective
  let (octets, cursor) ← takeTagOctets true (cursor.skipWhile isBlank)
  if octets.isEmpty || !gapNext cursor.rest then throw .malformedDirective
  return (.tagHandle (String.ofList handle) octets, cursor)

/-- **A directive**, with the rest of its line. -/
def takeDirective (cursor : Cursor) : Except Fault (Token × Cursor) := do
  let cursor := cursor.skip 1
  let name := cursor.rest.takeWhile isNameChar
  let cursor := cursor.skip name.length
  if name.isEmpty || !gapNext cursor.rest then throw .malformedDirective
  let (token, cursor) ←
    if name = "YAML".toList then takeVersion cursor
    else if name = "TAG".toList then takeTagHandle cursor
    else throw .malformedDirective
  let cursor := cursor.skipWhile isBlank
  let cursor := if cursor.sees '#' then cursor.skipToLineEnd else cursor
  if !lineEndNext cursor.rest then throw .malformedDirective
  return (token, cursor.skipBreak)

end RamlExpress.Yaml
