import RamlExpress.Proofs.Json.ReadBack

/-!
# Proofs/Json/Brackets — how deep a text is nested

`Json.nesting` counts the brackets of a text that are open at once, those in strings left out,
without reading it.  For the text of a value that is the depth of the value, so that a limit on the
one is a limit on the other.

* `Json.nesting_compact` — the nesting of a compact text.
* `Json.parse_compact` — the reader on such a text, by its nesting.
-/

namespace RamlExpress.Json

/-- How far a count of brackets has come: how many are open, how many were at most, and, inside a
string, whether a backslash stands before the next character. -/
structure Brackets where
  level : Nat
  deepest : Nat
  inString : Option Bool

/-- One character. -/
def Brackets.step (count : Brackets) (c : Char) : Brackets :=
  match count.inString with
  | some true => { count with inString := some false }
  | some false =>
    if c = '"' then { count with inString := none }
    else if c = '\\' then { count with inString := some true }
    else count
  | none =>
    if c = '"' then { count with inString := some false }
    else if c = '[' ∨ c = '\x7b' then ⟨count.level + 1, max count.deepest (count.level + 1), none⟩
    else if c = ']' ∨ c = '\x7d' then { count with level := count.level - 1 }
    else count

/-- **How many brackets are open at once in a text**, at most. -/
def nesting (text : String) : Nat := (text.toList.foldl Brackets.step ⟨0, 0, none⟩).deepest

/-! ## Parts without brackets -/

/-- A text that the count passes over. -/
def Plain (text : List Char) : Prop :=
  ∀ level deepest, text.foldl Brackets.step ⟨level, deepest, none⟩ = ⟨level, deepest, none⟩

theorem Plain.append {first second : List Char} (h₁ : Plain first) (h₂ : Plain second) :
    Plain (first ++ second) := by
  intro level deepest
  rw [List.foldl_append, h₁, h₂]

theorem plain_of_forall {text : List Char}
    (h : ∀ c ∈ text, c ≠ '"' ∧ c ≠ '[' ∧ c ≠ '\x7b' ∧ c ≠ ']' ∧ c ≠ '\x7d') : Plain text := by
  intro level deepest
  induction text with
  | nil => rfl
  | cons c rest ih =>
    obtain ⟨hc, hrest⟩ := List.forall_mem_cons.1 h
    have hstep : Brackets.step ⟨level, deepest, none⟩ c = ⟨level, deepest, none⟩ := by
      simp [Brackets.step, hc]
    rw [List.foldl_cons, hstep, ih hrest]

theorem plain_of_blank {text : List Char} (h : ∀ c ∈ text, isSpace c = true) : Plain text := by
  refine plain_of_forall fun c hc => ?_
  have hspace : c = ' ' ∨ c = '\t' ∨ c = '\n' ∨ c = '\r' := by
    simpa [isSpace, or_assoc] using h c hc
  obtain rfl | rfl | rfl | rfl := hspace <;> decide

theorem hexDigit_ne : ∀ n < 16, hexDigit n ≠ '"' ∧ hexDigit n ≠ '\\' := by decide

theorem foldl_escapeChar (level deepest : Nat) (c : Char) :
    (escapeChar c).foldl Brackets.step ⟨level, deepest, some false⟩
      = ⟨level, deepest, some false⟩ := by
  unfold escapeChar
  split
  case h_8 hquote hslash _ _ _ _ _ =>
    by_cases hcontrol : c.toNat < 0x20
    · have hhigh := hexDigit_ne (c.toNat / 16) (by omega)
      have hlow := hexDigit_ne (c.toNat % 16) (by omega)
      simp [hcontrol, Brackets.step, hhigh, hlow]
    · simp [hcontrol, Brackets.step, if_neg hquote, if_neg hslash]
  all_goals rfl

theorem plain_quote (s : String) : Plain (quote s) := by
  intro level deepest
  have hchars : ∀ chars : List Char, (chars.flatMap escapeChar).foldl Brackets.step
      ⟨level, deepest, some false⟩ = ⟨level, deepest, some false⟩ := by
    intro chars
    induction chars with
    | nil => rfl
    | cons c rest ih => rw [List.flatMap_cons, List.foldl_append, foldl_escapeChar, ih]
  rw [quote, List.cons_append, List.foldl_cons, List.foldl_append]
  simp [Brackets.step, hchars]

/-! ## Numerals -/

open Machine

/-- The characters of a numeral: digits, signs, a point and the mark of an exponent. -/
def IsNumeral (c : Char) : Prop :=
  (digit? c).isSome = true ∨ c = '.' ∨ c = 'e' ∨ c = 'E' ∨ c = '-' ∨ c = '+'

instance (c : Char) : Decidable (IsNumeral c) := inferInstanceAs (Decidable (_ ∨ _))

theorem isNumeral_of_stepNumeral {n next : Numeral} {c : Char} (h : stepNumeral n c = .more next) :
    IsNumeral c := by
  refine Decidable.byContradiction fun hnot => ?_
  simp only [IsNumeral, not_or, Option.not_isSome_iff_eq_none] at hnot
  obtain ⟨hdigit, hpoint, he, hE, hminus, hplus⟩ := hnot
  unfold stepNumeral at h
  cases hpart : n.part <;> simp [hpart, hdigit, hpoint, he, hE, hminus, hplus] at h

theorem isNumeral_of_beginNumeral? {n : Numeral} {c : Char} (h : beginNumeral? c = some n) :
    IsNumeral c := by
  refine Decidable.byContradiction fun hnot => ?_
  simp only [IsNumeral, not_or, Option.not_isSome_iff_eq_none] at hnot
  simp [beginNumeral?, hnot] at h

theorem isNumeral_of_gather? {n last : Numeral} {text : List Char}
    (h : gather? n text = some last) : ∀ c ∈ text, IsNumeral c := by
  induction text generalizing n with
  | nil => simp
  | cons c rest ih =>
    unfold gather? at h
    split at h
    · rename_i next hstep
      exact List.forall_mem_cons.2 ⟨isNumeral_of_stepNumeral hstep, ih h⟩
    · simp at h

/-- **A text that spells a number has no other characters.** -/
theorem isNumeral_of_numberOf? {text : List Char} (h : (numberOf? text).isSome = true) :
    ∀ c ∈ text, IsNumeral c := by
  obtain ⟨value, hvalue⟩ := Option.isSome_iff_exists.1 h
  cases text with
  | nil => simp [numberOf?] at hvalue
  | cons c rest =>
    simp only [numberOf?, Option.bind_eq_bind, Option.bind_eq_some_iff] at hvalue
    obtain ⟨first, hbegin, last, hgather, _⟩ := hvalue
    exact List.forall_mem_cons.2 ⟨isNumeral_of_beginNumeral? hbegin, isNumeral_of_gather? hgather⟩

theorem plain_of_numberOf? {text : List Char} (h : (numberOf? text).isSome = true) :
    Plain text := by
  refine plain_of_forall fun c hc => ?_
  have hnumeral := isNumeral_of_numberOf? h c hc
  refine ⟨?_, ?_, ?_, ?_, ?_⟩ <;>
  · rintro rfl
    revert hnumeral
    decide

theorem plain_numberText {value : Number} (h : LegibleNumber value) : Plain (numberText value) := by
  rcases h with hsome | hnull
  · exact plain_of_numberOf? hsome
  · rw [hnull]
    exact plain_of_forall (by simp)

/-! ## Values -/

variable (s : Spacing)

/-- Brackets open up to `depth` levels in a text and are closed at its end. -/
def Spans (text : List Char) (depth : Nat) : Prop :=
  ∀ level deepest, level ≤ deepest → text.foldl Brackets.step ⟨level, deepest, none⟩
    = ⟨level, max deepest (level + depth), none⟩

theorem Plain.spans {text : List Char} (h : Plain text) : Spans text 0 := by
  intro level deepest hlevel
  rw [h, Nat.add_zero, Nat.max_eq_left hlevel]

theorem spans_nil : Spans [] 0 := Plain.spans fun _ _ => rfl

theorem Spans.append {first second : List Char} {d₁ d₂ : Nat} (h₁ : Spans first d₁)
    (h₂ : Spans second d₂) : Spans (first ++ second) (max d₁ d₂) := by
  intro level deepest hlevel
  rw [List.foldl_append, h₁ level deepest hlevel, h₂ level _ (by omega), Nat.max_assoc,
    Nat.add_max_add_left]

theorem Plain.append_spans {first second : List Char} {depth : Nat} (h₁ : Plain first)
    (h₂ : Spans second depth) : Spans (first ++ second) depth := by
  intro level deepest hlevel
  rw [List.foldl_append, h₁, h₂ level deepest hlevel]

/-- A pair of brackets around a text. -/
theorem Spans.bracket {text : List Char} {depth : Nat} (h : Spans text depth) {c d : Char}
    (hpair : (c = '[' ∧ d = ']') ∨ (c = '\x7b' ∧ d = '\x7d')) :
    Spans (c :: (text ++ [d])) (depth + 1) := by
  intro level deepest hlevel
  have hopen : Brackets.step ⟨level, deepest, none⟩ c
      = ⟨level + 1, max deepest (level + 1), none⟩ := by
    obtain ⟨rfl, -⟩ | ⟨rfl, -⟩ := hpair <;> rfl
  have hclose (deepest : Nat) :
      Brackets.step ⟨level + 1, deepest, none⟩ d = ⟨level, deepest, none⟩ := by
    obtain ⟨-, rfl⟩ | ⟨-, rfl⟩ := hpair <;> rfl
  rw [List.foldl_cons, hopen, List.foldl_append, h _ _ (by omega), List.foldl_cons, hclose,
    List.foldl_nil]
  congr 1
  omega

theorem plain_comma (level : Nat) : Plain (',' :: s.gap level) := by
  have hcomma : Plain [','] := plain_of_forall (by simp)
  exact hcomma.append (plain_of_blank (s.gap_blank level))

theorem plain_name (name : String) : Plain (quote name ++ ':' :: s.colon) := by
  have hcolon : Plain [':'] := plain_of_forall (by simp)
  exact (plain_quote name).append (hcolon.append (plain_of_blank s.colon_blank))

theorem spans_moreItems {items : List Json} (level : Nat)
    (h : ∀ item ∈ items, Spans (spaced s level item) item.depth) :
    Spans (moreItems s level items) (itemsDepth items) := by
  induction items with
  | nil => exact spans_nil
  | cons item rest ih =>
    obtain ⟨hitem, hrest⟩ := List.forall_mem_cons.1 h
    exact (plain_comma s level).append_spans (hitem.append (ih hrest))

theorem spans_moreMembers {members : List (String × Json)} (level : Nat)
    (h : ∀ member ∈ members, Spans (spaced s level member.2) member.2.depth) :
    Spans (moreMembers s level members) (membersDepth members) := by
  induction members with
  | nil => exact spans_nil
  | cons member rest ih =>
    obtain ⟨name, value⟩ := member
    obtain ⟨hvalue, hrest⟩ := List.forall_mem_cons.1 h
    have hall := ((plain_comma s level).append (plain_name s name)).append_spans
      (hvalue.append (ih hrest))
    simpa [moreMembers, membersDepth] using hall

/-- **The text of a value is nested as deep as the value.** -/
theorem spans_spaced {value : Json} (h : value.Legible) (level : Nat) :
    Spans (spaced s level value) value.depth := by
  induction h generalizing level with
  | null => exact (plain_of_forall (by simp [spaced])).spans
  | bool value => cases value <;> exact (plain_of_forall (by simp [spaced])).spans
  | string value => exact (plain_quote value).spans
  | number hnumber => exact (plain_numberText hnumber).spans
  | @array items _ ih =>
    have hblank (level : Nat) := plain_of_blank (s.gap_blank level)
    cases items with
    | nil => exact spans_nil.bracket (.inl ⟨rfl, rfl⟩)
    | cons item rest =>
      obtain ⟨hitem, hrest⟩ := List.forall_mem_cons.1 ih
      have hmore := spans_moreItems s (level + 1) fun item hitem => hrest item hitem (level + 1)
      have hinside := (hblank (level + 1)).append_spans
        ((hitem (level + 1)).append (hmore.append (hblank level).spans))
      have hall := hinside.bracket (.inl ⟨rfl, rfl⟩)
      simpa [spaced, depth, itemsDepth] using hall
  | @object members _ _ ih =>
    have hblank (level : Nat) := plain_of_blank (s.gap_blank level)
    rcases members with _ | ⟨⟨name, value⟩, rest⟩
    · exact spans_nil.bracket (.inr ⟨rfl, rfl⟩)
    · obtain ⟨hvalue, hrest⟩ := List.forall_mem_cons.1 ih
      have hmore := spans_moreMembers s (level + 1) fun item hitem => hrest item hitem (level + 1)
      have hinside := ((hblank (level + 1)).append (plain_name s name)).append_spans
        ((hvalue (level + 1)).append (hmore.append (hblank level).spans))
      have hall := hinside.bracket (.inr ⟨rfl, rfl⟩)
      simpa [spaced, depth, membersDepth] using hall

theorem nesting_compact {value : Json} (h : value.Legible) :
    nesting value.compact = value.depth := by
  rw [nesting, compact, String.toList_ofList, compactChars_eq 0,
    spans_spaced .none h 0 0 0 (Nat.le_refl 0)]
  simp

/-- **A compact text is read back** if it is not nested too deep. -/
theorem parse_compact {value : Json} (h : value.Legible) (hdepth : value.depth ≤ maxDepth) :
    parse value.compact = .ok value.reread := by
  rw [parse, compact, String.toList_ofList, compactChars_eq 0, run_spaced .none 0 h hdepth]
  rfl

/-- …and so is a text laid out. -/
theorem parse_pretty {value : Json} (h : value.Legible) (hdepth : value.depth ≤ maxDepth)
    (width : Nat) : parse (value.pretty width) = .ok value.reread := by
  rw [parse, pretty, String.toList_ofList, prettyChars_eq, run_spaced (.lines width) 0 h hdepth]
  rfl

/-- No value is read from a text that is nested deeper. -/
theorem parse_compact_tooDeep {value : Json} (h : value.Legible) (hdepth : maxDepth < value.depth) :
    ∃ fault, parse value.compact = .error fault := by
  obtain ⟨offset, hrun⟩ := run_spaced_tooDeep .none 0 h hdepth 0
  rw [parse, compact, String.toList_ofList, compactChars_eq 0, hrun]
  exact ⟨_, rfl⟩

end RamlExpress.Json
