import RamlExpress.Yaml.Character

/-!
# Yaml/Cursor — a place in a text

A cursor holds what is still to be read and where that stands: how many characters came before it,
on which line, and how many on its own line.
-/

namespace RamlExpress.Yaml

/-- A place in a text. -/
structure Cursor where
  rest : List Char
  index : Nat := 0
  line : Nat := 0
  column : Nat := 0
deriving Repr

namespace Cursor

/-- Passes `n` characters, none of them a line break. -/
def skip (n : Nat) (cursor : Cursor) : Cursor :=
  { cursor with
    rest := cursor.rest.drop n, index := cursor.index + n, column := cursor.column + n }

/-- Passes the characters of a class without line breaks. -/
def skipWhile (inClass : Char → Bool) (cursor : Cursor) : Cursor :=
  cursor.skip (cursor.rest.takeWhile inClass).length

/-- Passes the rest of the line. -/
def skipToLineEnd (cursor : Cursor) : Cursor := cursor.skipWhile (!isBreak ·)

/-- The line break at the cursor, as it is kept in a scalar, and the cursor behind it.  Carriage
returns, line feeds and next-line controls are kept as a line feed. -/
def takeBreak (cursor : Cursor) : List Char × Cursor :=
  let behind (rest : List Char) (n : Nat) : Cursor :=
    { rest := rest, index := cursor.index + n, line := cursor.line + 1, column := 0 }
  match cursor.rest with
  | '\r' :: '\n' :: rest => (['\n'], behind rest 2)
  | c :: rest =>
    if c = '\r' || c = '\n' || c = nextLine then (['\n'], behind rest 1)
    else if c = lineSeparator || c = paragraphSeparator then ([c], behind rest 1)
    else ([], cursor)
  | [] => ([], cursor)

/-- Passes the line break at the cursor. -/
def skipBreak (cursor : Cursor) : Cursor := cursor.takeBreak.2

/-- The next character is the given one. -/
def sees (c : Char) (cursor : Cursor) : Bool := cursor.rest.head? == some c

/-- The next character is in a class. -/
def seesIn (inClass : Char → Bool) (cursor : Cursor) : Bool := cursor.rest.head?.any inClass

/-- A document marker stands at the start of the line. -/
def atMarker (cursor : Cursor) : Bool := cursor.column == 0 && markerNext cursor.rest

end Cursor

end RamlExpress.Yaml
