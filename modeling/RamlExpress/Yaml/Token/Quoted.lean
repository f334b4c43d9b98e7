import RamlExpress.Yaml.Gap

/-!
# Yaml/Token/Quoted — scalars in quotes

In single quotes only the quote itself is escaped, by doubling it.  In double quotes a backslash
introduces escapes; before a line break it joins the lines.  Gaps are folded in both.
-/

namespace RamlExpress.Yaml

/-- The character for a letter behind a backslash. -/
def escaped? : Char → Option Char
  | '0' => some '\x00'
  | 'a' => some '\x07'
  | 'b' => some '\x08'
  | 't' | '\t' => some '\t'
  | 'n' => some '\n'
  | 'v' => some '\x0b'
  | 'f' => some '\x0c'
  | 'r' => some '\r'
  | 'e' => some '\x1b'
  | ' ' => some ' '
  | '"' => some '"'
  | '/' => some '/'
  | '\\' => some '\\'
  | 'N' => some nextLine
  | '_' => some '\xa0'
  | 'L' => some lineSeparator
  | 'P' => some paragraphSeparator
  | _ => none

/-- How many hexadecimal digits follow a letter behind a backslash. -/
def codeLength? : Char → Option Nat
  | 'x' => some 2
  | 'u' => some 4
  | 'U' => some 8
  | _ => none

/-- The number that exactly `count` hexadecimal digits stand for. -/
def hexNumber? : Nat → Nat → List Char → Option Nat
  | 0, value, _ => some value
  | _ + 1, _, [] => none
  | count + 1, value, c :: rest => do hexNumber? count (value * 16 + (← hexDigit? c)) rest

/-- An escape: its character, and how many characters it takes behind the backslash. -/
def takeEscape (letter : Char) (rest : List Char) : Except Fault (Char × Nat) :=
  match escaped? letter with
  | some c => .ok (c, 1)
  | none =>
    match codeLength? letter with
    | none => .error .malformedEscape
    | some count =>
      match hexNumber? count 0 rest with
      | none => .error .malformedEscape
      | some code =>
        if code.isValidChar then .ok (Char.ofNat code, 1 + count) else .error .malformedEscape

/-- Reads on in a quoted scalar: `text` holds its characters so far, last first. -/
def quotedFrom (single : Bool) : Nat → List Char → Cursor → Except Fault (List Char × Cursor)
  | 0, _, _ => .error .endInQuotes
  | fuel + 1, text, cursor =>
    let throughGap (gap : Gap) (cursor : Cursor) : Except Fault (List Char × Cursor) := do
      let (gap, cursor) ← takeGap none cursor.rest.length gap cursor
      if cursor.atMarker then throw .markerInQuotes
      quotedFrom single fuel (List.reverseAux gap.text text) cursor
    match cursor.rest with
    | [] => .error .endInQuotes
    | c :: rest =>
      if single && c == '\'' && rest.head? == some '\'' then
        quotedFrom single fuel ('\'' :: text) (cursor.skip 2)
      else if c == (if single then '\'' else '"') then .ok (text, cursor.skip 1)
      else if !single && c == '\\' then
        match rest with
        | [] => .error .malformedEscape
        | letter :: rest =>
          if isBreak letter then throughGap { broken := true } (cursor.skip 1).skipBreak
          else do
            let (c, count) ← takeEscape letter rest
            quotedFrom single fuel (c :: text) (cursor.skip (1 + count))
      else if isGap c then throughGap {} cursor
      else quotedFrom single fuel (c :: text) (cursor.skip 1)

/-- **A quoted scalar**, the cursor standing on its opening quote. -/
def takeQuoted (single : Bool) (cursor : Cursor) : Except Fault (String × Cursor) := do
  let (text, cursor) ← quotedFrom single (cursor.rest.length + 1) [] (cursor.skip 1)
  return (String.ofList text.reverse, cursor)

end RamlExpress.Yaml
