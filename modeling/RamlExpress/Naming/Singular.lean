/-!
# Naming/Singular — the singular of an English noun

Words without a plural and words with an irregular one are listed; any other word is cut by the
first ending that fits it.  The rules are spelling rules, meant for lower-case words.
-/

namespace RamlExpress.Naming

/-- Words that are their own singular. -/
def uncountable : List String :=
  ["data", "equipment", "feedback", "fish", "information", "metadata", "money", "news", "rice",
    "series", "sheep", "species"]

/-- Plurals that no rule covers, with their singulars. -/
def irregular : List (String × String) :=
  [("aliases", "alias"), ("analyses", "analysis"), ("buses", "bus"), ("children", "child"),
    ("criteria", "criterion"), ("feet", "foot"), ("geese", "goose"), ("indices", "index"),
    ("knives", "knife"), ("lives", "life"), ("matrices", "matrix"), ("men", "man"),
    ("mice", "mouse"), ("movies", "movie"), ("oxen", "ox"), ("people", "person"),
    ("quizzes", "quiz"), ("shoes", "shoe"), ("statuses", "status"), ("teeth", "tooth"),
    ("toes", "toe"), ("vertices", "vertex"), ("viruses", "virus"), ("wives", "wife"),
    ("women", "woman")]

/-- Endings in `es` that lose just these two letters. -/
def sibilantEndings : List String := ["sses", "xes", "zzes", "ches", "shes"]

/-- Endings in `s` that are no plural. -/
def singularEndings : List String := ["ss", "us", "is"]

/-- The word has this ending. -/
def endsIn (ending : String) (word : List Char) : Bool := ending.toList.isSuffixOf word

/-- What stands before an ending. -/
def stem? (ending : String) (word : List Char) : Option (List Char) :=
  if endsIn ending word then some (word.take (word.length - ending.length)) else none

/-- The singular of a word whose stem before `ves` is given: `wolf` after `l` and `r`, else as in
`glove`. -/
def fromVes (stem : List Char) : List Char :=
  if stem.getLast? = some 'l' ∨ stem.getLast? = some 'r' then stem ++ ['f'] else stem ++ ['v', 'e']

/-- The singular of a word by its ending. -/
def byEnding (word : List Char) : List Char :=
  match stem? "ies" word with
  | some (c :: stem) => c :: stem ++ ['y']
  | _ =>
    match stem? "ves" word with
    | some stem => fromVes stem
    | none =>
      if sibilantEndings.any (endsIn · word) then word.take (word.length - 2)
      else
        match stem? "oes" word with
        | some stem => stem ++ ['o']
        | none =>
          if singularEndings.any (endsIn · word) then word
          else
            match stem? "s" word with
            | some (c :: stem) => c :: stem
            | _ => word

/-- **The singular of a word.** -/
def singular (word : String) : String :=
  if uncountable.contains word then word
  else
    match irregular.lookup word with
    | some single => single
    | none => String.ofList (byEnding word.toList)

end RamlExpress.Naming
