import RamlExpress.Proofs.Naming

/-!
# Proofs/Naming/Stable — the singular of a singular

The rules for endings cut no word twice: what they leave ends in `ss`, or in another letter than
`s`, and such words they leave alone (`byEnding_byEnding`).  So a second singular differs from the
first only through the listed words.  Either the first was listed and looks like a plural, as
`alias` does, or the rules made a listed plural of a word, and then the word was that plural with an
`s`.

* `byEnding_byEnding` — the rules are idempotent.
* `singular_stable_iff` — which words have a singular that is not its own, and that nothing changes
  a third time.
-/

namespace RamlExpress.Naming

/-! ## Words that the rules leave alone -/

/-- A word that does not end in `s` has none of the endings. -/
theorem not_endsIn_of_getLast? {ending : String} {word : List Char}
    (hending : ending.toList.getLast? = some 's') (h : word.getLast? ≠ some 's') :
    endsIn ending word = false := by
  refine Bool.eq_false_iff.2 fun hends => h ?_
  obtain ⟨front, rfl⟩ := List.isSuffixOf_iff_suffix.1 hends
  rw [List.getLast?_append, hending, Option.some_or]

theorem byEnding_of_getLast? {word : List Char} (h : word.getLast? ≠ some 's') :
    byEnding word = word := by
  have hends {ending : String} (hending : ending.toList.getLast? = some 's') :
      endsIn ending word = false := not_endsIn_of_getLast? hending h
  have hstem {ending : String} (hending : ending.toList.getLast? = some 's') :
      stem? ending word = none := by
    rw [stem?, if_neg (by simp [hends hending])]
  simp [byEnding, sibilantEndings, singularEndings, hends, hstem, @hstem "s" (by decide)]

theorem byEnding_of_ss (stem : List Char) : byEnding (stem ++ ['s', 's']) = stem ++ ['s', 's'] := by
  simp [byEnding, sibilantEndings, singularEndings, stem?, endsIn, List.isSuffixOf]

/-! ## Singulars of singulars -/

/-- What the rules put at the end of a word: nothing for an `s`, or `ss`, or what ends in another
letter. -/
theorem exchange_cases : ∀ exchange ∈ exchanges,
    exchange = (['s'], []) ∨ exchange.2 = ['s', 's']
      ∨ exchange.2.getLast?.any (· ≠ 's') = true := by
  decide

/-- A word that loses its `s` had one only. -/
theorem getLast?_ne_of_byEnding {stem : List Char} (h : byEnding (stem ++ ['s']) = stem) :
    stem.getLast? ≠ some 's' := by
  intro hlast
  obtain ⟨front, rfl⟩ := List.getLast?_eq_some_iff.1 hlast
  rw [List.append_assoc] at h
  have hcut := (byEnding_of_ss front).symm.trans h
  simp at hcut

/-- **The rules for endings are idempotent.** -/
theorem byEnding_byEnding (word : List Char) : byEnding (byEnding word) = byEnding word := by
  obtain hself | ⟨stem, exchange, hmem, hword, hcut, -⟩ := byEnding_cases word
  · rw [hself, hself]
  · obtain rfl | hss | hother := exchange_cases exchange hmem
    · rw [List.append_nil] at hcut
      rw [hcut]
      exact byEnding_of_getLast? (getLast?_ne_of_byEnding (hword ▸ hcut))
    · rw [hcut, hss]
      exact byEnding_of_ss stem
    · obtain ⟨last, hlast, hne⟩ := (Option.any_eq_true _ _).1 hother
      rw [hcut]
      refine byEnding_of_getLast? ?_
      rw [List.getLast?_append, hlast, Option.some_or]
      simpa using hne

/-- A word that the rules leave alone is its own singular, unless it is listed. -/
theorem singular_of_byEnding {word : String} (h : byEnding word.toList = word.toList) :
    singular word = word ∨ (word, singular word) ∈ irregular := by
  obtain hself | hlisted | hending := singular_origin word
  · exact .inl hself
  · exact .inr hlisted
  · exact .inl (String.toList_inj.1 (hending.trans h))

/-- The words whose singular has a singular of its own. -/
def unstable : List String :=
  ["aliases", "childrens", "criterias", "feets", "geeses", "mens", "mices", "oxens", "peoples",
    "teeths", "womens"]

theorem of_mem_unstable : ∀ word ∈ unstable,
    singular (singular word) ≠ singular word
      ∧ singular (singular (singular word)) = singular (singular word) := by
  decide +kernel

/-- **What can be seen of the listed words.**  Of their singulars, only `alias` looks like a plural.
A plural that is the singular of itself with an `s` is found among the unstable words, and that is
the one word it can be the singular of: it is no listed singular, and no exchange of endings gives
it but the loss of an `s`. -/
theorem of_mem_irregular : ∀ pair ∈ irregular,
    (singular pair.2 = pair.2 ∨ pair.1 ∈ unstable)
      ∧ (singular (pair.1 ++ "s") = pair.1 → pair.1 ++ "s" ∈ unstable)
      ∧ (∀ other ∈ irregular, other.2 ≠ pair.1)
      ∧ ∀ exchange ∈ exchanges, exchange.2 <:+ pair.1.toList → exchange = (['s'], []) := by
  decide +kernel

theorem stable_or_mem_unstable (word : String) :
    singular (singular word) = singular word ∨ word ∈ unstable := by
  obtain hself | hlisted | hending := singular_origin word
  · exact .inl (congrArg singular hself)
  · exact (of_mem_irregular _ hlisted).1
  · have hfixed : byEnding (singular word).toList = (singular word).toList := by
      rw [hending, byEnding_byEnding]
    obtain hstable | hlisted := singular_of_byEnding hfixed
    · exact .inl hstable
    · obtain ⟨-, hunstable, hne, hcut⟩ := of_mem_irregular _ hlisted
      obtain hself | hplural := eq_or_of_singular_eq rfl hne hcut
      · exact .inl (congrArg singular hself.symm)
      · rw [hplural]
        exact .inr (hunstable (by rw [← hplural]))

/-- **A singular is its own singular**, but for those of eleven words; there the second singular is.
So the third is always the second. -/
theorem singular_stable_iff (word : String) :
    (singular (singular word) = singular word ↔ word ∉ unstable)
      ∧ singular (singular (singular word)) = singular (singular word) := by
  obtain hstable | hunstable := stable_or_mem_unstable word
  · exact ⟨iff_of_true hstable fun hmem => (of_mem_unstable word hmem).1 hstable,
      congrArg singular hstable⟩
  · obtain ⟨hchanges, hsettles⟩ := of_mem_unstable word hunstable
    exact ⟨iff_of_false hchanges (not_not_intro hunstable), hsettles⟩

end RamlExpress.Naming
