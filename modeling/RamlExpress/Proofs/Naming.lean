import RamlExpress.Naming
import RamlExpress.Proofs.Text.Case

/-!
# Proofs/Naming — what a model can be called

A model name is a literal segment, lowered, respelled at its end and capitalised.  The singular of a
word exchanges one ending of small letters for another, so it begins as the word does
(`respelled_singular`); only the first character of a model name can be a capital `M`.

* `byEnding_cases` — all that the rules for endings do.
* `notMem_tail_modelName` — no `M` behind the first character.
* `modelName_eq_schema_iff` — which segments give the name `Schema`.
-/

namespace RamlExpress.Naming

/-! ## The singular -/

/-- The endings that the rules take away, with what they put there. -/
def exchanges : List (List Char × List Char) :=
  [("ies", "y"), ("ves", "f"), ("ves", "ve"), ("sses", "ss"), ("xes", "x"), ("zzes", "zz"),
    ("ches", "ch"), ("shes", "sh"), ("oes", "o"), ("s", "")].map
      fun exchange => (exchange.1.toList, exchange.2.toList)

theorem stem?_eq_some {ending : String} {word stem : List Char}
    (h : stem? ending word = some stem) : word = stem ++ ending.toList := by
  unfold stem? at h
  split at h
  · rename_i hends
    obtain ⟨front, rfl⟩ := List.isSuffixOf_iff_suffix.1 hends
    obtain rfl := Option.some.inj h
    rw [List.length_append, String.length_toList, Nat.add_sub_cancel, List.take_left]
  · contradiction

theorem exchange_of_sibilant : ∀ ending ∈ sibilantEndings, ∃ exchange ∈ exchanges,
    ending.toList = exchange.1 ∧ exchange.1 = exchange.2 ++ ['e', 's'] ∧ exchange.2 ≠ [] := by
  decide

/-- **What the rules for endings do**: nothing, or one exchange, which leaves something. -/
theorem byEnding_cases (word : List Char) :
    byEnding word = word
    ∨ ∃ stem, ∃ exchange ∈ exchanges, word = stem ++ exchange.1
      ∧ byEnding word = stem ++ exchange.2 ∧ (stem ≠ [] ∨ exchange.2 ≠ []) := by
  unfold byEnding
  split
  · rename_i c stem hstem
    exact .inr ⟨c :: stem, ("ies".toList, "y".toList), by decide, stem?_eq_some hstem, rfl, by simp⟩
  · split
    · rename_i stem hstem
      unfold fromVes
      split
      · exact .inr ⟨stem, ("ves".toList, "f".toList), by decide, stem?_eq_some hstem, rfl, by simp⟩
      · exact .inr ⟨stem, ("ves".toList, "ve".toList), by decide, stem?_eq_some hstem, rfl, by simp⟩
    · split
      · rename_i hsibilant
        obtain ⟨ending, hending, hends⟩ := List.any_eq_true.1 hsibilant
        obtain ⟨stem, rfl⟩ := List.isSuffixOf_iff_suffix.1 hends
        obtain ⟨exchange, hmem, hfirst, hes, hne⟩ := exchange_of_sibilant ending hending
        refine .inr ⟨stem, exchange, hmem, by rw [hfirst], ?_, .inr hne⟩
        rw [hfirst, hes, ← List.append_assoc]
        exact List.take_left' (by simp only [List.length_append]; rfl)
      · split
        · rename_i stem hstem
          exact .inr ⟨stem, ("oes".toList, "o".toList), by decide, stem?_eq_some hstem, rfl,
            by simp⟩
        · split
          · exact .inl rfl
          · split
            · rename_i c stem hstem
              exact .inr ⟨c :: stem, ("s".toList, "".toList), by decide, stem?_eq_some hstem,
                by simp, by simp⟩
            · exact .inl rfl

/-- **Where the singular of a word is taken from**: the word, the list, or the rules for endings. -/
theorem singular_origin (word : String) :
    singular word = word ∨ (word, singular word) ∈ irregular
    ∨ (singular word).toList = byEnding word.toList := by
  unfold singular
  split
  · exact .inl rfl
  · split
    · rename_i single hlookup
      obtain ⟨before, after, hsplit, -⟩ := List.lookup_eq_some_iff.1 hlookup
      exact .inr (.inl (by simp [hsplit]))
    · exact .inr (.inr String.toList_ofList)

/-- **What the singular of a word is**: the word, one that is listed, or an exchange of endings. -/
theorem singular_cases (word : String) :
    singular word = word ∨ (word, singular word) ∈ irregular
    ∨ ∃ stem, ∃ exchange ∈ exchanges, word.toList = stem ++ exchange.1
      ∧ (singular word).toList = stem ++ exchange.2 ∧ (stem ≠ [] ∨ exchange.2 ≠ []) := by
  obtain hself | hlisted | hending := singular_origin word
  · exact .inl hself
  · exact .inr (.inl hlisted)
  · rw [hending]
    obtain hself | hexchange := byEnding_cases word.toList
    · exact .inl (String.toList_inj.1 (hending.trans hself))
    · exact .inr (.inr hexchange)

/-- **A word respelled**: one ending of small letters in the place of another. -/
def Respelled (word other : List Char) : Prop :=
  ∃ stem ending ending', word = stem ++ ending ∧ other = stem ++ ending'
    ∧ (∀ c ∈ ending, c.isLower = true) ∧ (∀ c ∈ ending', c.isLower = true)
    ∧ (stem = [] → (ending = [] ↔ ending' = []))

theorem isLower_of_mem_irregular : ∀ pair ∈ irregular,
    (pair.1.toList.all Char.isLower = true ∧ pair.2.toList.all Char.isLower = true)
      ∧ pair.1.toList ≠ [] ∧ pair.2.toList ≠ [] := by
  decide +kernel

theorem isLower_of_mem_exchanges : ∀ exchange ∈ exchanges,
    (exchange.1.all Char.isLower = true ∧ exchange.2.all Char.isLower = true)
      ∧ exchange.1 ≠ [] := by
  decide

/-- **The singular of a word is the word respelled.** -/
theorem respelled_singular (word : String) : Respelled word.toList (singular word).toList := by
  obtain hself | hlisted | ⟨stem, exchange, hmem, hword, hsingle, hleft⟩ := singular_cases word
  · exact ⟨word.toList, [], [], by simp, by simp [hself], by simp, by simp, by simp⟩
  · obtain ⟨⟨hlower, hlower'⟩, hne, hne'⟩ := isLower_of_mem_irregular _ hlisted
    exact ⟨[], _, _, rfl, rfl, List.all_eq_true.1 hlower, List.all_eq_true.1 hlower',
      fun _ => iff_of_false hne hne'⟩
  · obtain ⟨⟨hlower, hlower'⟩, hne⟩ := isLower_of_mem_exchanges _ hmem
    exact ⟨stem, _, _, hword, hsingle, List.all_eq_true.1 hlower, List.all_eq_true.1 hlower',
      fun hstem => iff_of_false hne (hleft.resolve_left (not_not_intro hstem))⟩

namespace Respelled

variable {word other : List Char}

theorem symm (h : Respelled word other) : Respelled other word := by
  obtain ⟨stem, ending, ending', hword, hother, hlower, hlower', hempty⟩ := h
  exact ⟨stem, ending', ending, hother, hword, hlower', hlower, fun hstem => (hempty hstem).symm⟩

theorem ne_nil (h : Respelled word other) (hword : word ≠ []) : other ≠ [] := by
  obtain ⟨stem, ending, ending', rfl, rfl, -, -, hempty⟩ := h
  intro hnil
  obtain ⟨rfl, rfl⟩ := List.append_eq_nil_iff.1 hnil
  exact hword (by rw [(hempty rfl).2 rfl]; rfl)

/-- Its characters are small letters, or characters of the word. -/
theorem mem (h : Respelled word other) {c : Char} (hc : c ∈ other) :
    c ∈ word ∨ c.isLower = true := by
  obtain ⟨stem, ending, ending', rfl, rfl, -, hlower', -⟩ := h
  obtain hstem | hending := List.mem_append.1 hc
  · exact .inl (List.mem_append_left _ hstem)
  · exact .inr (hlower' c hending)

/-- It begins as the word does, or with a small letter. -/
theorem mem_head? (h : Respelled word other) {c : Char} (hc : c ∈ other.head?) :
    c ∈ word.head? ∨ c.isLower = true := by
  obtain ⟨stem, ending, ending', rfl, rfl, -, hlower', -⟩ := h
  cases stem with
  | nil => exact .inr (hlower' c (List.mem_of_mem_head? hc))
  | cons first rest => exact .inl hc

end Respelled

/-- **Where a singular with a plain ending comes from**: itself, or itself with an `s`. -/
theorem eq_or_of_singular_eq {word single : String} (h : singular word = single)
    (hlisted : ∀ pair ∈ irregular, pair.2 ≠ single)
    (hending : ∀ exchange ∈ exchanges, exchange.2 <:+ single.toList → exchange = (['s'], [])) :
    word = single ∨ word = single ++ "s" := by
  obtain hself | hmem | ⟨stem, exchange, hmem, hword, hsingle, -⟩ := singular_cases word
  · exact .inl (hself.symm.trans h)
  · exact absurd h (hlisted _ hmem)
  · rw [h] at hsingle
    obtain rfl := hending exchange hmem (hsingle ▸ List.suffix_append ..)
    refine .inr (String.toList_inj.1 ?_)
    rw [hword, String.toList_append, hsingle, List.append_nil]
    rfl

/-! ## Model names -/

/-- The word that is capitalised to a model name. -/
def bareName (literal : String) : String := singular (Text.toLower literal)

theorem bareName_ne_nil {literal : String} (h : literal ≠ "") : (bareName literal).toList ≠ [] := by
  refine (respelled_singular _).ne_nil ?_
  rw [Text.toLower, String.toList_ofList]
  exact Text.lowerFrom_ne_nil [] (by simpa using h)

/-- It has no capitals. -/
theorem not_isUpper_of_mem_bareName {literal : String} {c : Char}
    (h : c ∈ (bareName literal).toList) : c.isUpper = false := by
  obtain hword | hlower := (respelled_singular _).mem h
  · rw [Text.toLower, String.toList_ofList] at hword
    exact Text.not_isUpper_of_mem_lowerFrom hword
  · exact Text.not_isUpper_of_isLower hlower

/-- **A model name is a bare name with its first character in upper case**, or empty as that is. -/
theorem modelName_cases (literal : String) :
    (bareName literal).toList = [] ∧ modelName literal = ""
    ∨ ∃ c rest, (bareName literal).toList = c :: rest
      ∧ (modelName literal).toList = Text.upperChar c ++ Text.lowerFrom [] rest := by
  rw [modelName, ← bareName, Text.capitalize]
  cases (bareName literal).toList with
  | nil => exact .inl ⟨rfl, rfl⟩
  | cons c rest => exact .inr ⟨c, rest, rfl, String.toList_ofList⟩

/-- **A segment that is not empty has a model name.** -/
theorem modelName_ne_empty {literal : String} (h : literal ≠ "") : modelName literal ≠ "" := by
  obtain ⟨hbare, -⟩ | ⟨c, rest, -, hname⟩ := modelName_cases literal
  · exact absurd hbare (bareName_ne_nil h)
  · obtain ⟨x, more, hupper, -⟩ := Text.exists_upperChar_eq_cons c
    intro hempty
    simp [hempty, hupper] at hname

/-- **No `M` stands behind the first character of a model name.** -/
theorem notMem_tail_modelName (literal : String) : 'M' ∉ (modelName literal).toList.tail := by
  obtain ⟨-, hname⟩ | ⟨c, rest, -, hname⟩ := modelName_cases literal
  · simp [hname]
  · obtain ⟨x, more, hupper, -, hmore⟩ := Text.exists_upperChar_eq_cons c
    rw [hname, hupper, List.cons_append, List.tail_cons, List.mem_append, not_or]
    exact ⟨hmore, fun hmem => absurd (Text.not_isUpper_of_mem_lowerFrom hmem) (by decide)⟩

/-- A model name begins with no small letter of ASCII. -/
theorem not_isLower_of_mem_head?_modelName {literal : String} {c : Char}
    (h : c ∈ (modelName literal).toList.head?) : c.isLower = false := by
  obtain ⟨-, hname⟩ | ⟨first, rest, -, hname⟩ := modelName_cases literal
  · simp [hname] at h
  · obtain ⟨x, more, hupper, hx, -⟩ := Text.exists_upperChar_eq_cons first
    rw [hname, hupper] at h
    obtain rfl := Option.some.inj h
    exact hx

/-- The words, in lower case, that are capitalised to `Schema`.  The second pair begins with a long
`s`. -/
def schemaWords : List String := ["schema", "schemas", "ſchema", "ſchemas"]

theorem bareName_of_modelName_eq_schema {literal : String} (h : modelName literal = "Schema") :
    bareName literal = "schema" ∨ bareName literal = "ſchema" := by
  obtain ⟨-, hname⟩ | ⟨c, rest, hbare, hname⟩ := modelName_cases literal
  · exact absurd (h.symm.trans hname) (by decide)
  · have hcapital : ∀ x ∈ c :: rest, x.isUpper = false :=
      hbare ▸ fun x hx => not_isUpper_of_mem_bareName hx
    obtain ⟨hc, hrest⟩ := List.forall_mem_cons.1 hcapital
    have htail (hlower : ['c', 'h', 'e', 'm', 'a'] = Text.lowerFrom [] rest) :
        rest = ['c', 'h', 'e', 'm', 'a'] :=
      Text.eq_of_lowerFrom_eq hlower.symm hrest (by simp [Text.IsAscii]) (by decide)
    have hspelled : "Schema".toList = ['S', 'c', 'h', 'e', 'm', 'a'] := by decide
    rw [h, hspelled] at hname
    obtain ⟨hascii, hupper⟩ | ⟨-, hupper⟩ | ⟨rfl, hupper⟩ | ⟨-, x, hx, hupper⟩
      | ⟨-, hlength, hlower, -⟩ := Text.upperChar_cases c
    · rw [hupper] at hname
      obtain ⟨hs, hlower⟩ := List.cons.inj hname
      obtain rfl := hascii.forall_of (p := fun c => 'S' = c.toUpper → c.isUpper = false → c = 's')
        (by decide +kernel) hs hc
      exact .inl (String.toList_inj.1 (by rw [hbare, htail hlower]; rfl))
    · rw [hupper] at hname
      exact absurd (List.cons.inj hname).1 (by decide)
    · rw [hupper] at hname
      exact .inr (String.toList_inj.1 (by rw [hbare, htail (List.cons.inj hname).2]; rfl))
    · rw [hupper] at hname
      obtain ⟨rfl, -⟩ := List.cons.inj hname
      exact absurd (by decide) hx
    · -- an upper case of two characters has no room for the small `c`
      obtain ⟨x, y, more, hupper⟩ : ∃ x y more, Text.upperChar c = x :: y :: more := by
        revert hlength
        rcases Text.upperChar c with _ | ⟨x, _ | ⟨y, more⟩⟩ <;> intro hlength
        · simp at hlength
        · simp at hlength
        · exact ⟨x, y, more, rfl⟩
      rw [hupper] at hname hlower
      obtain ⟨-, hsecond⟩ := List.cons.inj hname
      obtain ⟨rfl, -⟩ := List.cons.inj hsecond
      exact absurd (hlower 'c' (by simp)) (by decide)

/-- **The segments whose model is called `Schema`.** -/
theorem modelName_eq_schema_iff (literal : String) :
    modelName literal = "Schema" ↔ Text.toLower literal ∈ schemaWords := by
  constructor
  · intro h
    obtain hbare | hbare := bareName_of_modelName_eq_schema h
    · obtain hword | hword := eq_or_of_singular_eq hbare (by decide +kernel) (by decide +kernel)
      · simp [schemaWords, hword]
      · simp [schemaWords, hword]
    · obtain hword | hword := eq_or_of_singular_eq hbare (by decide +kernel) (by decide +kernel)
      · simp [schemaWords, hword]
      · simp [schemaWords, hword]
  · have hwords : ∀ word ∈ schemaWords, Text.capitalize (singular word) = "Schema" := by
      decide +kernel
    exact fun h => hwords _ h

end RamlExpress.Naming
