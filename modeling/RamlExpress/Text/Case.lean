import RamlExpress.Text.Case.Table

/-!
# Text/Case — upper and lower case of whole words

Case is the full Unicode one: a character may become several (`ß` is `SS` in upper case), and one
lowering depends on its neighbours, a capital sigma that ends a word being lowered to `ς` instead
of `σ`.
-/

namespace RamlExpress.Text

open Case

/-- Looks a character up in a case table; one the table does not list stays as it is. -/
def mapCase (runs : List Run) (long : List (Nat × List Nat)) (c : Char) : List Char :=
  match long.lookup c.toNat with
  | some codes => codes.map Char.ofNat
  | none =>
    match runs.find? (·.holds c.toNat) with
    | some run => [Char.ofNat (Int.toNat (c.toNat + run.shift))]
    | none => [c]

/-- The lower case of a character that stands alone. -/
def lowerChar (c : Char) : List Char := mapCase lowerRuns lowerLong c

/-- The upper case of a character. -/
def upperChar (c : Char) : List Char := mapCase upperRuns upperLong c

/-- A cased character: a letter in upper, lower or title case. -/
def isCased (c : Char) : Bool := inSpans casedSpans c.toNat

/-- A character that casing looks past. -/
def isCaseIgnorable (c : Char) : Bool := inSpans ignorableSpans c.toNat

/-- Past the ignorable characters, a cased one comes first. -/
def meetsCased (cs : List Char) : Bool :=
  match cs.dropWhile isCaseIgnorable with
  | [] => false
  | c :: _ => isCased c

/-- Lowers the characters of a word; `before` holds those already passed, the nearest first. -/
def lowerFrom : List Char → List Char → List Char
  | _, [] => []
  | before, c :: rest =>
    (if c = 'Σ' then [if meetsCased before && !meetsCased rest then 'ς' else 'σ']
      else lowerChar c) ++ lowerFrom (c :: before) rest

/-- The lower case of a text. -/
def toLower (s : String) : String := String.ofList (lowerFrom [] s.toList)

/-- **Capitalising**: the first character in upper case, the rest lowered as a text of its own. -/
def capitalize (s : String) : String :=
  match s.toList with
  | [] => ""
  | c :: rest => String.ofList (upperChar c ++ lowerFrom [] rest)

end RamlExpress.Text
