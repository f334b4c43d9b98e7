import RamlExpress.Text.Case

/-!
# Proofs/Text/Case — case and ASCII

Case maps ASCII into itself, letter by letter, and hardly anything else into it.  Of the other
characters only `İ` and the Kelvin sign have ASCII in their lower case; in upper case there are the
dotless `ı`, the long `ſ` and some of the characters that become several.

* `lowerChar_cases`, `upperChar_cases` — what the case of a character can be.
* `not_isUpper_of_mem_lowerFrom` — lowering leaves no capital.
* `lowerFrom_of_ascii` — lowering an ASCII text.
-/

namespace RamlExpress.Text

open Case

/-- An ASCII character. -/
def IsAscii (c : Char) : Prop := c.toNat < 128

instance (c : Char) : Decidable (IsAscii c) := inferInstanceAs (Decidable (c.toNat < 128))

/-- What holds of the first 128 characters holds of ASCII. -/
theorem IsAscii.forall_of {p : Char → Prop} (h : ∀ n < 128, p (Char.ofNat n)) {c : Char}
    (hc : IsAscii c) : p c := by
  simpa using h c.toNat hc

/-! ## Looking a character up -/

/-- **What a case table gives**: what it lists, what a run gives, or the character as it is. -/
theorem mapCase_cases (runs : List Run) (long : List (Nat × List Nat)) (c : Char) :
    (∃ codes, (c.toNat, codes) ∈ long ∧ mapCase runs long c = codes.map Char.ofNat)
    ∨ (∃ run ∈ runs, run.holds c.toNat = true
      ∧ mapCase runs long c = [Char.ofNat (Int.toNat (c.toNat + run.shift))])
    ∨ (∀ run ∈ runs, run.holds c.toNat = false) ∧ mapCase runs long c = [c] := by
  unfold mapCase
  cases hlong : long.lookup c.toNat with
  | some codes =>
    obtain ⟨before, after, rfl, -⟩ := List.lookup_eq_some_iff.1 hlong
    exact .inl ⟨codes, by simp, rfl⟩
  | none =>
    cases hrun : runs.find? (·.holds c.toNat) with
    | some run =>
      have hholds := List.find?_some hrun
      exact .inr (.inl ⟨run, List.mem_of_find?_eq_some hrun, hholds, rfl⟩)
    | none => exact .inr (.inr ⟨by simpa using hrun, rfl⟩)

theorem toNat_ofNat {n : Nat} (h : n.isValidChar) : (Char.ofNat n).toNat = n := by
  rw [Char.ofNat, dif_pos h]
  rfl

namespace Case.Run

theorem bounds_of_holds {run : Run} {n : Nat} (h : run.holds n = true) :
    run.first ≤ n ∧ n ≤ run.last := by
  simp only [holds, Bool.and_eq_true, decide_eq_true_eq] at h
  exact h.1

/-- **A run beyond ASCII**: neither what it holds nor what it gives is ASCII. -/
def beyondAscii (run : Run) : Bool :=
  decide (128 ≤ run.first)
    && ((decide (128 ≤ run.first + run.shift) && decide (run.last + run.shift < 0xD800))
      || (decide (0xE000 ≤ run.first + run.shift) && decide (run.last + run.shift < 0x110000)))

theorem not_isAscii {run : Run} (h : run.beyondAscii = true) {c : Char}
    (hc : run.holds c.toNat = true) :
    ¬IsAscii c ∧ ¬IsAscii (Char.ofNat (Int.toNat (c.toNat + run.shift))) := by
  simp only [beyondAscii, Bool.or_eq_true, Bool.and_eq_true, decide_eq_true_eq] at h
  obtain ⟨hfirst, hlast⟩ := bounds_of_holds hc
  have hvalid : (Int.toNat (c.toNat + run.shift)).isValidChar := by
    unfold Nat.isValidChar
    omega
  rw [IsAscii, IsAscii, toNat_ofNat hvalid]
  omega

end Case.Run

deriving instance DecidableEq for Run

/-- **What a case table gives, as far as ASCII goes**, if `near` are its runs that touch ASCII. -/
theorem mapCase_near {runs near : List Run} (long : List (Nat × List Nat))
    (hnear : near ⊆ runs) (hruns : ∀ run ∈ runs, run.beyondAscii = true ∨ run ∈ near) (c : Char) :
    (∃ codes, (c.toNat, codes) ∈ long ∧ mapCase runs long c = codes.map Char.ofNat)
    ∨ (∃ run ∈ near, run.holds c.toNat = true
      ∧ mapCase runs long c = [Char.ofNat (Int.toNat (c.toNat + run.shift))])
    ∨ (IsAscii c ∧ (∀ run ∈ near, run.holds c.toNat = false) ∧ mapCase runs long c = [c])
    ∨ ¬IsAscii c ∧ ∃ x, ¬IsAscii x ∧ mapCase runs long c = [x] := by
  rcases mapCase_cases runs long c with hlong | ⟨run, hrun, hholds, hcase⟩ | ⟨hnone, hcase⟩
  · exact .inl hlong
  · obtain hbeyond | hmem := hruns run hrun
    · obtain ⟨hc, hx⟩ := Run.not_isAscii hbeyond hholds
      exact .inr (.inr (.inr ⟨hc, _, hx, hcase⟩))
    · exact .inr (.inl ⟨run, hmem, hholds, hcase⟩)
  · by_cases hc : IsAscii c
    · exact .inr (.inr (.inl ⟨hc, fun run hrun => hnone run (hnear hrun), hcase⟩))
    · exact .inr (.inr (.inr ⟨hc, c, hc, hcase⟩))

/-! ## Lower case -/

/-- The capitals. -/
def capitals : Run := ⟨0x41, 0x5A, 1, 32⟩

/-- The Kelvin sign. -/
def kelvin : Run := ⟨0x212A, 0x212A, 1, -8383⟩

theorem lowerRuns_near : ∀ run ∈ lowerRuns, run.beyondAscii = true ∨ run ∈ [capitals, kelvin] := by
  decide +kernel

/-- **The lower case of a character**, as far as ASCII goes. -/
theorem lowerChar_cases (c : Char) :
    IsAscii c ∧ lowerChar c = [c.toLower]
    ∨ c = '\u0130' ∧ lowerChar c = ['i', '\u0307']
    ∨ c = '\u212A' ∧ lowerChar c = ['k']
    ∨ ¬IsAscii c ∧ ∃ x, ¬IsAscii x ∧ lowerChar c = [x] := by
  rcases mapCase_near lowerLong (by decide +kernel) lowerRuns_near c with
    ⟨codes, hmem, hlower⟩ | ⟨run, hrun, hholds, hlower⟩ | ⟨hc, hnone, hlower⟩ | hbeyond
  · obtain ⟨hc, rfl⟩ := Prod.mk.inj (List.mem_singleton.1 hmem)
    exact .inr (.inl ⟨Char.toNat_inj.1 hc, hlower⟩)
  · obtain ⟨hfirst, hlast⟩ := Run.bounds_of_holds hholds
    obtain rfl | rfl : run = capitals ∨ run = kelvin := by simpa using hrun
    · have hc : IsAscii c := Nat.lt_of_le_of_lt hlast (by decide)
      have hletter := hc.forall_of (p := fun c => capitals.holds c.toNat = true →
        Char.ofNat (Int.toNat (c.toNat + capitals.shift)) = c.toLower) (by decide +kernel) hholds
      exact .inl ⟨hc, by rw [lowerChar, hlower, hletter]⟩
    · have hc : c = '\u212A' := Char.toNat_inj.1 (Nat.le_antisymm hlast hfirst)
      exact .inr (.inr (.inl ⟨hc, by rw [lowerChar, hlower, hc]; decide⟩))
  · have hother := hc.forall_of (p := fun c => capitals.holds c.toNat = false → c.toLower = c)
      (by decide +kernel) (hnone capitals (by simp))
    exact .inl ⟨hc, by rw [lowerChar, hlower, hother]⟩
  · exact .inr (.inr (.inr hbeyond))

/-! ## Upper case -/

/-- The small letters of ASCII. -/
def smallLetters : Run := ⟨0x61, 0x7A, 1, -32⟩

/-- The small `i` without a dot. -/
def dotlessI : Run := ⟨0x131, 0x131, 1, -232⟩

/-- The long `s`. -/
def longS : Run := ⟨0x17F, 0x17F, 1, -300⟩

theorem upperRuns_near :
    ∀ run ∈ upperRuns, run.beyondAscii = true ∨ run ∈ [smallLetters, dotlessI, longS] := by
  decide +kernel

/-- **An upper case of several characters**, none of them a small letter.  Behind the first there is
no `M`. -/
def IsLongUpper (chars : List Char) : Prop :=
  2 ≤ chars.length ∧ (∀ x ∈ chars, x.isLower = false) ∧ 'M' ∉ chars.tail

instance (chars : List Char) : Decidable (IsLongUpper chars) :=
  -- by the members of the list, and not by all characters there are
  have : Decidable (∀ x ∈ chars, x.isLower = false) := List.decidableBAll _ _
  inferInstanceAs (Decidable (_ ∧ _ ∧ _))

theorem isLongUpper_of_mem :
    ∀ entry ∈ upperLong, 128 ≤ entry.1 ∧ IsLongUpper (entry.2.map Char.ofNat) := by
  decide +kernel

/-- **The upper case of a character**, as far as ASCII goes. -/
theorem upperChar_cases (c : Char) :
    IsAscii c ∧ upperChar c = [c.toUpper]
    ∨ c = 'ı' ∧ upperChar c = ['I']
    ∨ c = 'ſ' ∧ upperChar c = ['S']
    ∨ (¬IsAscii c ∧ ∃ x, ¬IsAscii x ∧ upperChar c = [x])
    ∨ ¬IsAscii c ∧ IsLongUpper (upperChar c) := by
  rcases mapCase_near upperLong (by decide +kernel) upperRuns_near c with
    ⟨codes, hmem, hupper⟩ | ⟨run, hrun, hholds, hupper⟩ | ⟨hc, hnone, hupper⟩ | hbeyond
  · obtain ⟨hc, hlong⟩ := isLongUpper_of_mem _ hmem
    rw [← hupper] at hlong
    exact .inr (.inr (.inr (.inr ⟨Nat.not_lt.2 hc, hlong⟩)))
  · obtain ⟨hfirst, hlast⟩ := Run.bounds_of_holds hholds
    obtain rfl | rfl | rfl : run = smallLetters ∨ run = dotlessI ∨ run = longS := by
      simpa using hrun
    · have hc : IsAscii c := Nat.lt_of_le_of_lt hlast (by decide)
      have hletter := hc.forall_of (p := fun c => smallLetters.holds c.toNat = true →
        Char.ofNat (Int.toNat (c.toNat + smallLetters.shift)) = c.toUpper)
        (by decide +kernel) hholds
      exact .inl ⟨hc, by rw [upperChar, hupper, hletter]⟩
    · have hc : c = 'ı' := Char.toNat_inj.1 (Nat.le_antisymm hlast hfirst)
      exact .inr (.inl ⟨hc, by rw [upperChar, hupper, hc]; decide⟩)
    · have hc : c = 'ſ' := Char.toNat_inj.1 (Nat.le_antisymm hlast hfirst)
      exact .inr (.inr (.inl ⟨hc, by rw [upperChar, hupper, hc]; decide⟩))
  · have hother := hc.forall_of (p := fun c => smallLetters.holds c.toNat = false → c.toUpper = c)
      (by decide +kernel) (hnone smallLetters (by simp))
    exact .inl ⟨hc, by rw [upperChar, hupper, hother]⟩
  · exact .inr (.inr (.inr (.inl hbeyond)))

theorem upperChar_of_ascii {c : Char} (h : IsAscii c) : upperChar c = [c.toUpper] := by
  obtain ⟨-, hupper⟩ | ⟨rfl, -⟩ | ⟨rfl, -⟩ | ⟨hnot, -⟩ | ⟨hnot, -⟩ := upperChar_cases c
  · exact hupper
  · exact absurd h (by decide)
  · exact absurd h (by decide)
  · exact absurd h hnot
  · exact absurd h hnot

/-! ## Texts -/

theorem not_isUpper_of_not_isAscii {c : Char} (h : ¬IsAscii c) : c.isUpper = false := by
  refine Bool.eq_false_iff.2 fun hupper => h ?_
  obtain ⟨-, hlast⟩ := of_decide_eq_true hupper
  exact Nat.lt_of_le_of_lt hlast (by decide)

theorem isAscii_of_isLower {c : Char} (h : c.isLower = true) : IsAscii c := by
  obtain ⟨-, hlast⟩ := Bool.and_eq_true_iff.1 h
  exact Nat.lt_of_le_of_lt (of_decide_eq_true hlast) (by decide)

theorem not_isLower_of_not_isAscii {c : Char} (h : ¬IsAscii c) : c.isLower = false :=
  Bool.eq_false_iff.2 fun hlower => h (isAscii_of_isLower hlower)

theorem not_isUpper_of_isLower {c : Char} (h : c.isLower = true) : c.isUpper = false :=
  (isAscii_of_isLower h).forall_of (p := fun c => c.isLower = true → c.isUpper = false)
    (by decide +kernel) h

theorem not_isUpper_of_mem_lowerChar {c x : Char} (h : x ∈ lowerChar c) : x.isUpper = false := by
  obtain ⟨hc, hlower⟩ | ⟨-, hlower⟩ | ⟨-, hlower⟩ | ⟨-, y, hy, hlower⟩ := lowerChar_cases c <;>
    rw [hlower] at h
  · obtain rfl := List.mem_singleton.1 h
    exact hc.forall_of (p := fun c => c.toLower.isUpper = false) (by decide +kernel)
  · obtain rfl | rfl : x = 'i' ∨ x = '\u0307' := by simpa using h
    · decide
    · decide
  · obtain rfl := List.mem_singleton.1 h
    decide
  · obtain rfl := List.mem_singleton.1 h
    exact not_isUpper_of_not_isAscii hy

/-- **Lowering leaves no capital.** -/
theorem not_isUpper_of_mem_lowerFrom {before text : List Char} {x : Char}
    (h : x ∈ lowerFrom before text) : x.isUpper = false := by
  induction text generalizing before with
  | nil => contradiction
  | cons c rest ih =>
    obtain hhead | htail := List.mem_append.1 h
    · split at hhead
      · split at hhead <;> obtain rfl := List.mem_singleton.1 hhead <;> decide
      · exact not_isUpper_of_mem_lowerChar hhead
    · exact ih htail

theorem lowerChar_ne_nil (c : Char) : lowerChar c ≠ [] := by
  obtain ⟨-, hlower⟩ | ⟨-, hlower⟩ | ⟨-, hlower⟩ | ⟨-, y, -, hlower⟩ := lowerChar_cases c <;>
    simp [hlower]

theorem lowerFrom_ne_nil (before : List Char) {text : List Char} (h : text ≠ []) :
    lowerFrom before text ≠ [] := by
  obtain ⟨c, rest, rfl⟩ := List.exists_cons_of_ne_nil h
  rw [lowerFrom]
  refine List.append_ne_nil_of_left_ne_nil ?_ _
  split
  · simp
  · exact lowerChar_ne_nil c

/-- **An ASCII text is lowered letter by letter.** -/
theorem lowerFrom_of_ascii {text : List Char} (h : ∀ c ∈ text, IsAscii c) (before : List Char) :
    lowerFrom before text = text.map Char.toLower := by
  induction text generalizing before with
  | nil => rfl
  | cons c rest ih =>
    obtain ⟨hc, hrest⟩ := List.forall_mem_cons.1 h
    have hsigma : c ≠ 'Σ' := by
      rintro rfl
      exact absurd hc (by decide)
    have hlower : lowerChar c = [c.toLower] := by
      obtain ⟨-, hlower⟩ | ⟨rfl, -⟩ | ⟨rfl, -⟩ | ⟨hnot, -⟩ := lowerChar_cases c
      · exact hlower
      · exact absurd hc (by decide)
      · exact absurd hc (by decide)
      · exact absurd hc hnot
    rw [lowerFrom, if_neg hsigma, hlower, ih hrest, List.map_cons, List.singleton_append]

/-- **A text without capitals whose lower case is ASCII is its lower case**, but for the Kelvin
sign, which becomes a `k`. -/
theorem eq_of_lowerFrom_eq {before text lowered : List Char} (h : lowerFrom before text = lowered)
    (htext : ∀ c ∈ text, c.isUpper = false) (hlowered : ∀ x ∈ lowered, IsAscii x)
    (hk : 'k' ∉ lowered) : text = lowered := by
  induction text generalizing before lowered with
  | nil => exact h
  | cons c rest ih =>
    obtain ⟨hc, hrest⟩ := List.forall_mem_cons.1 htext
    rw [lowerFrom] at h
    split at h
    · subst h
      obtain ⟨hsigma, -⟩ := List.forall_mem_cons.1 hlowered
      split at hsigma <;> exact absurd hsigma (by decide)
    · obtain ⟨hascii, hlower⟩ | ⟨-, hlower⟩ | ⟨-, hlower⟩ | ⟨-, x, hx, hlower⟩ :=
        lowerChar_cases c <;> rw [hlower] at h <;> subst h
      · have hself := hascii.forall_of (p := fun c => c.isUpper = false → c.toLower = c)
          (by decide +kernel) hc
        rw [hself] at hlowered hk ⊢
        have htail := ih rfl hrest (fun x hx => hlowered x (List.mem_cons_of_mem _ hx))
          (fun hmem => hk (List.mem_cons_of_mem _ hmem))
        rw [← htail, List.singleton_append]
      · exact absurd (hlowered '\u0307' (by simp)) (by decide)
      · exact absurd (by simp) hk
      · exact absurd (hlowered x (by simp)) hx

/-- **Upper case leaves no small letter of ASCII**, and is one character or several. -/
theorem upperChar_eq_singleton_or (c : Char) :
    (∃ x, x.isLower = false ∧ upperChar c = [x]) ∨ IsLongUpper (upperChar c) := by
  obtain ⟨hc, hupper⟩ | ⟨-, hupper⟩ | ⟨-, hupper⟩ | ⟨-, x, hx, hupper⟩ | ⟨-, hlong⟩ :=
    upperChar_cases c
  · have hlower := hc.forall_of (p := fun c => c.toUpper.isLower = false) (by decide +kernel)
    exact .inl ⟨_, hlower, hupper⟩
  · exact .inl ⟨_, by decide, hupper⟩
  · exact .inl ⟨_, by decide, hupper⟩
  · exact .inl ⟨x, not_isLower_of_not_isAscii hx, hupper⟩
  · exact .inr hlong

/-- …it is at least one. -/
theorem exists_upperChar_eq_cons (c : Char) :
    ∃ x rest, upperChar c = x :: rest ∧ x.isLower = false ∧ 'M' ∉ rest := by
  obtain ⟨x, hx, hupper⟩ | ⟨hlength, hlower, hM⟩ := upperChar_eq_singleton_or c
  · exact ⟨x, [], hupper, hx, by simp⟩
  · obtain ⟨x, rest, hupper⟩ :=
      List.exists_cons_of_length_pos (Nat.lt_of_lt_of_le (by decide) hlength)
    rw [hupper] at hlower hM
    exact ⟨x, rest, hupper, hlower x List.mem_cons_self, hM⟩

end RamlExpress.Text
