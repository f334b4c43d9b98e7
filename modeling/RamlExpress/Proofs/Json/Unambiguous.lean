import RamlExpress.Proofs.Json.Brackets

/-!
# Proofs/Json/Unambiguous — a compact text has one value

A text can be cut in only one way into the text of a value and what may follow one.  So two values
with the same text are the same, but for numbers that are spelled alike: nothing else is lost in a
text, not even a name that comes twice in an object.

* `Json.Spelled.unambiguous` — one cut, one value.
* `Json.reread_eq_of_compact_eq` — values with the same text.
-/

namespace RamlExpress.Json

open Machine

/-- **A value whose numbers are legible**, whatever names come twice in it. -/
inductive Spelled : Json → Prop
  | null : Spelled .null
  | bool (value : Bool) : Spelled (.bool value)
  | number {value : Number} : LegibleNumber value → Spelled (.number value)
  | string (value : String) : Spelled (.string value)
  | array {items : List Json} : (∀ item ∈ items, Spelled item) → Spelled (.array items)
  | object {members : List (String × Json)} :
      (∀ member ∈ members, Spelled member.2) → Spelled (.object members)

theorem Legible.spelled {value : Json} (h : value.Legible) : value.Spelled := by
  induction h with
  | null => exact .null
  | bool value => exact .bool value
  | number hnumber => exact .number hnumber
  | string value => exact .string value
  | array _ ih => exact .array ih
  | object _ _ ih => exact .object ih

/-! ## Words

The texts of numbers, truth values and null have no quotes, no brackets and no commas in them, so
they end where something else begins. -/

/-- A character that ends a word. -/
def EndsWord (c : Char) : Prop := c = ',' ∨ c = ']' ∨ c = '\x7d' ∨ isSpace c = true

/-- Two texts without such a character, each in front of one, are the same if the whole is. -/
theorem eq_of_append_eq {word other s t : List Char} (hword : ∀ c ∈ word, ¬EndsWord c)
    (hother : ∀ c ∈ other, ¬EndsWord c) (hs : Delimited s) (ht : Delimited t)
    (h : word ++ s = other ++ t) : word = other ∧ s = t := by
  induction word generalizing other with
  | nil =>
    cases other with
    | nil => exact ⟨rfl, h⟩
    | cons d rest =>
      obtain rfl : s = d :: (rest ++ t) := h
      exact absurd (hs d rfl) (hother d List.mem_cons_self)
  | cons c word ih =>
    obtain ⟨hc, hrest⟩ := List.forall_mem_cons.1 hword
    cases other with
    | nil =>
      obtain rfl : c :: (word ++ s) = t := h
      exact absurd (ht c rfl) hc
    | cons d other =>
      obtain ⟨rfl, htail⟩ := List.cons.inj h
      obtain ⟨rfl, hst⟩ := ih hrest (List.forall_mem_cons.1 hother).2 htail
      exact ⟨rfl, hst⟩

theorem IsNumeral.not_endsWord {c : Char} (h : IsNumeral c) : ¬EndsWord c := by
  rintro (rfl | rfl | rfl | hspace)
  case inr.inr.inr =>
    have hblank : c = ' ' ∨ c = '\t' ∨ c = '\n' ∨ c = '\r' := by
      simpa [isSpace, or_assoc] using hspace
    obtain rfl | rfl | rfl | rfl := hblank <;> revert h <;> decide
  all_goals revert h; decide

/-- The value that a word stands for. -/
def ofWord (word : List Char) : Json :=
  match numberOf? word with
  | some value => .number value
  | none =>
    if word = ['t', 'r', 'u', 'e'] then .bool true
    else if word = ['f', 'a', 'l', 's', 'e'] then .bool false
    else .null

/-- A value that is written as a word, and the word. -/
structure IsWritten (value : Json) (word : List Char) : Prop where
  not_endsWord : ∀ c ∈ word, ¬EndsWord c
  reread_eq : value.reread = ofWord word

theorem isWritten_number {value : Number} (h : LegibleNumber value) :
    IsWritten (.number value) (numberText value) := by
  rcases h with hsome | hnull
  · refine ⟨fun c hc => (isNumeral_of_numberOf? hsome c hc).not_endsWord, ?_⟩
    obtain ⟨number, hnumber⟩ := Option.isSome_iff_exists.1 hsome
    simp [reread, ofWord, hnumber]
  · rw [hnull]
    refine ⟨by simp [EndsWord, isSpace], ?_⟩
    rw [reread, hnull]
    rfl

/-! ## Strings -/

/-- The character that an escape stands for, by the letter behind the backslash. -/
def letter? : Char → Option Char
  | '"' => some '"'
  | '\\' => some '\\'
  | 'b' => some '\x08'
  | 'f' => some '\x0c'
  | 'n' => some '\n'
  | 'r' => some '\r'
  | 't' => some '\t'
  | _ => none

theorem escapeChar_cases (c : Char) :
    (escapeChar c = [c] ∧ c ≠ '"' ∧ c ≠ '\\')
      ∨ (∃ letter, escapeChar c = ['\\', letter] ∧ letter? letter = some c)
      ∨ escapeChar c = ['\\', 'u', '0', '0', hexDigit (c.toNat / 16), hexDigit (c.toNat % 16)]
        ∧ c.toNat < 0x20 := by
  unfold escapeChar
  split
  case h_8 hquote hslash _ _ _ _ _ =>
    by_cases hcontrol : c.toNat < 0x20
    · exact .inr (.inr ⟨if_pos hcontrol, hcontrol⟩)
    · exact .inl ⟨if_neg hcontrol, hquote, hslash⟩
  all_goals exact .inr (.inl ⟨_, rfl, rfl⟩)

theorem eq_of_hexDigit_eq {m n : Nat} (hm : m < 16) (hn : n < 16) (h : hexDigit m = hexDigit n) :
    m = n := by
  have hread := congrArg hexDigit? h
  rw [hexDigit?_hexDigit m hm, hexDigit?_hexDigit n hn] at hread
  exact Option.some.inj hread

/-- **The escape of a character can be told from all others**, whatever follows. -/
theorem eq_of_escapeChar_append_eq {c d : Char} {s t : List Char}
    (h : escapeChar c ++ s = escapeChar d ++ t) : c = d ∧ s = t := by
  rcases escapeChar_cases c with ⟨hc, -, hslash⟩ | ⟨letter, hc, hletter⟩ | ⟨hc, hcontrol⟩ <;>
    rcases escapeChar_cases d with ⟨hd, -, hslash'⟩ | ⟨letter', hd, hletter'⟩ | ⟨hd, hcontrol'⟩ <;>
    rw [hc, hd] at h <;> simp only [List.cons_append, List.nil_append, List.cons.injEq] at h
  · exact h
  · exact absurd h.1 hslash
  · exact absurd h.1 hslash
  · exact absurd h.1.symm hslash'
  · obtain ⟨-, rfl, rfl⟩ := h
    exact ⟨Option.some.inj (hletter.symm.trans hletter'), rfl⟩
  · obtain ⟨-, rfl, -⟩ := h
    contradiction
  · exact absurd h.1.symm hslash'
  · obtain ⟨-, rfl, -⟩ := h
    contradiction
  · obtain ⟨-, -, -, -, hhigh, hlow, rfl⟩ := h
    have hdiv := eq_of_hexDigit_eq (by omega) (by omega) hhigh
    have hmod := eq_of_hexDigit_eq (by omega) (by omega) hlow
    exact ⟨Char.toNat_inj.1 (by omega), rfl⟩

theorem head?_escapeChar_ne (c : Char) (rest : List Char) :
    (escapeChar c ++ rest).head? ≠ some '"' := by
  rcases escapeChar_cases c with ⟨hc, hquote, -⟩ | ⟨letter, hc, -⟩ | ⟨hc, -⟩ <;> rw [hc]
  · simpa using hquote
  · simp
  · simp

theorem eq_of_escapeChars_append_eq {chars others s t : List Char}
    (h : chars.flatMap escapeChar ++ '"' :: s = others.flatMap escapeChar ++ '"' :: t) :
    chars = others ∧ s = t := by
  induction chars generalizing others with
  | nil =>
    cases others with
    | nil => exact ⟨rfl, (List.cons.inj h).2⟩
    | cons d rest =>
      rw [List.flatMap_cons, List.append_assoc] at h
      exact absurd (congrArg List.head? h).symm (head?_escapeChar_ne d _)
  | cons c chars ih =>
    rw [List.flatMap_cons, List.append_assoc] at h
    cases others with
    | nil => exact absurd (congrArg List.head? h) (head?_escapeChar_ne c _)
    | cons d others =>
      rw [List.flatMap_cons, List.append_assoc] at h
      obtain ⟨rfl, htail⟩ := eq_of_escapeChar_append_eq h
      obtain ⟨rfl, hst⟩ := ih htail
      exact ⟨rfl, hst⟩

/-- **A string can be told from what follows it.** -/
theorem eq_of_quote_append_eq {name other : String} {s t : List Char}
    (h : quote name ++ s = quote other ++ t) : name = other ∧ s = t := by
  simp only [quote, List.cons_append, List.append_assoc, List.cons.injEq, true_and,
    List.nil_append] at h
  obtain ⟨hchars, hst⟩ := eq_of_escapeChars_append_eq h
  exact ⟨String.toList_inj.1 hchars, hst⟩

/-! ## Values -/

/-- What kind of text a value has. -/
inductive Shape where
  | word
  | string
  | array
  | object
deriving DecidableEq

def shape : Json → Shape
  | .string _ => .string
  | .array _ => .array
  | .object _ => .object
  | _ => .word

/-- …as the first character tells. -/
def Shape.ofChar : Char → Shape
  | '"' => .string
  | '[' => .array
  | '\x7b' => .object
  | _ => .word

theorem IsNumeral.shape {c : Char} (h : IsNumeral c) : Shape.ofChar c = .word := by
  unfold Shape.ofChar
  split
  case h_4 => rfl
  all_goals revert h; decide

theorem exists_head {value : Json} (h : value.Spelled) (level : Nat) :
    ∃ c rest, spaced .none level value = c :: rest ∧ Shape.ofChar c = value.shape ∧ c ≠ ']' := by
  cases h with
  | null => exact ⟨_, _, by rw [spaced], rfl, by decide⟩
  | bool value => cases value <;> exact ⟨_, _, by rw [spaced], rfl, by decide⟩
  | string value => exact ⟨_, _, by rw [spaced, quote, List.cons_append], rfl, by decide⟩
  | @array items _ => cases items <;> exact ⟨_, _, by rw [spaced], rfl, by decide⟩
  | @object members _ =>
    rcases members with _ | ⟨⟨name, value⟩, rest⟩ <;> exact ⟨_, _, by rw [spaced], rfl, by decide⟩
  | @number value hnumber =>
    rw [spaced]
    rcases hnumber with hsome | hnull
    · cases htext : numberText value with
      | nil => simp [htext, numberOf?] at hsome
      | cons c rest =>
        have hc := isNumeral_of_numberOf? hsome c (by simp [htext])
        refine ⟨c, rest, rfl, hc.shape, ?_⟩
        rintro rfl
        revert hc
        decide
    · exact ⟨_, _, hnull, rfl, by decide⟩

/-- **A text that begins with a value begins with no other**, if what follows may follow one. -/
def Unambiguous (value : Json) : Prop :=
  ∀ {level : Nat} {other : Json} {s t : List Char}, other.Spelled → Delimited s → Delimited t →
    spaced .none level value ++ s = spaced .none level other ++ t →
    value.reread = other.reread ∧ s = t

theorem shape_eq {value other : Json} (h : value.Spelled) (h' : other.Spelled) {level : Nat}
    {s t : List Char} (heq : spaced .none level value ++ s = spaced .none level other ++ t) :
    value.shape = other.shape := by
  obtain ⟨c, rest, hvalue, hshape, -⟩ := exists_head h level
  obtain ⟨d, rest', hother, hshape', -⟩ := exists_head h' level
  rw [hvalue, hother] at heq
  obtain ⟨rfl, -⟩ := List.cons.inj heq
  exact hshape.symm.trans hshape'

/-- The text of a list of items, up to the bracket behind it. -/
theorem eq_of_moreItems_append_eq {items others : List Json}
    (hitems : ∀ item ∈ items, Unambiguous item) (hothers : ∀ other ∈ others, other.Spelled)
    {level : Nat} {s t : List Char}
    (h : moreItems .none level items ++ ']' :: s = moreItems .none level others ++ ']' :: t) :
    items.map reread = others.map reread ∧ s = t := by
  induction items generalizing others with
  | nil =>
    cases others with
    | nil => simpa [moreItems] using h
    | cons other others => simp [moreItems] at h
  | cons item items ih =>
    obtain ⟨hitem, hitems⟩ := List.forall_mem_cons.1 hitems
    cases others with
    | nil => simp [moreItems] at h
    | cons other others =>
      obtain ⟨hother, hothers⟩ := List.forall_mem_cons.1 hothers
      simp only [moreItems, Spacing.gap_none, List.nil_append, List.cons_append,
        List.append_assoc, List.cons.injEq, true_and] at h
      obtain ⟨hfirst, hrest⟩ := hitem hother
        (delimited_append (delimited_moreItems _ _ _) (by simp [Delimited]))
        (delimited_append (delimited_moreItems _ _ _) (by simp [Delimited])) h
      obtain ⟨hmap, hst⟩ := ih hitems hothers hrest
      exact ⟨by rw [List.map_cons, List.map_cons, hfirst, hmap], hst⟩

/-- …and of a list of members. -/
theorem eq_of_moreMembers_append_eq {members others : List (String × Json)}
    (hmembers : ∀ member ∈ members, Unambiguous member.2)
    (hothers : ∀ other ∈ others, other.2.Spelled) {level : Nat} {s t : List Char}
    (h : moreMembers .none level members ++ '\x7d' :: s
      = moreMembers .none level others ++ '\x7d' :: t) :
    rereadMembers members = rereadMembers others ∧ s = t := by
  induction members generalizing others with
  | nil =>
    cases others with
    | nil => simpa [moreMembers] using h
    | cons other others => simp [moreMembers] at h
  | cons member members ih =>
    obtain ⟨hmember, hmembers⟩ := List.forall_mem_cons.1 hmembers
    cases others with
    | nil => simp [moreMembers] at h
    | cons other others =>
      obtain ⟨hother, hothers⟩ := List.forall_mem_cons.1 hothers
      simp only [moreMembers, Spacing.gap_none, Spacing.colon_none, List.nil_append,
        List.cons_append, List.append_assoc, List.cons.injEq, true_and] at h
      obtain ⟨hname, hvalue⟩ := eq_of_quote_append_eq h
      obtain ⟨hfirst, hrest⟩ := hmember hother
        (delimited_append (delimited_moreMembers _ _ _) (by simp [Delimited]))
        (delimited_append (delimited_moreMembers _ _ _) (by simp [Delimited]))
        (List.cons.inj hvalue).2
      obtain ⟨hmap, hst⟩ := ih hmembers hothers hrest
      exact ⟨by rw [rereadMembers, rereadMembers, hname, hfirst, hmap], hst⟩

theorem spaced_array_append_ne {item : Json} (h : item.Spelled) (level : Nat) (rest : List Json)
    (s t : List Char) :
    spaced .none level (.array (item :: rest)) ++ s ≠ spaced .none level (.array []) ++ t := by
  obtain ⟨c, tail, hitem, -, hne⟩ := exists_head h (level + 1)
  simp [spaced, hitem, hne]

theorem unambiguous_array {items : List Json} (hspelled : ∀ item ∈ items, item.Spelled)
    (h : ∀ item ∈ items, Unambiguous item) : Unambiguous (.array items) := by
  intro level other s t hother hs ht heq
  have hshape := shape_eq (.array hspelled) hother heq
  cases hother with
  | null | bool _ | number _ | string _ | object _ => contradiction
  | @array others hothers =>
    cases items with
    | nil =>
      cases others with
      | nil => exact ⟨rfl, by simpa [spaced] using heq⟩
      | cons other others =>
        exact absurd heq.symm
          (spaced_array_append_ne (List.forall_mem_cons.1 hothers).1 level others t s)
    | cons item items =>
      cases others with
      | nil =>
        exact absurd heq
          (spaced_array_append_ne (List.forall_mem_cons.1 hspelled).1 level items s t)
      | cons other others =>
        -- With a comma in place of the bracket, the items are items behind others.
        have hmore : moreItems .none (level + 1) (item :: items) ++ ']' :: s
            = moreItems .none (level + 1) (other :: others) ++ ']' :: t := by
          simpa [moreItems, spaced] using heq
        simpa [reread, rereadItems_eq_map] using eq_of_moreItems_append_eq h hothers hmore

theorem unambiguous_object {members : List (String × Json)}
    (hspelled : ∀ member ∈ members, member.2.Spelled)
    (h : ∀ member ∈ members, Unambiguous member.2) : Unambiguous (.object members) := by
  intro level other s t hother hs ht heq
  have hshape := shape_eq (.object hspelled) hother heq
  cases hother with
  | null | bool _ | number _ | string _ | array _ => contradiction
  | @object others hothers =>
    cases members with
    | nil =>
      cases others with
      | nil => exact ⟨rfl, by simpa [spaced] using heq⟩
      | cons other others => simp [spaced, quote] at heq
    | cons member members =>
      cases others with
      | nil => simp [spaced, quote] at heq
      | cons other others =>
        have hmore : moreMembers .none (level + 1) (member :: members) ++ '\x7d' :: s
            = moreMembers .none (level + 1) (other :: others) ++ '\x7d' :: t := by
          simpa [moreMembers, spaced] using heq
        simpa [reread] using eq_of_moreMembers_append_eq h hothers hmore

theorem Spelled.isWritten {value : Json} (h : value.Spelled) (hshape : value.shape = .word)
    (level : Nat) : IsWritten value (spaced .none level value) := by
  cases h with
  | null => exact ⟨by simp [spaced, EndsWord, isSpace], by simp only [spaced]; rfl⟩
  | bool value =>
    cases value <;> exact ⟨by simp [spaced, EndsWord, isSpace], by simp only [spaced]; rfl⟩
  | number hnumber =>
    rw [spaced]
    exact isWritten_number hnumber
  | string _ | array _ | object _ => contradiction

/-- Words are told apart by their letters. -/
theorem unambiguous_word {value : Json} (hspelled : value.Spelled)
    (hshape : value.shape = .word) : Unambiguous value := by
  intro level other s t hother hs ht heq
  have hshape' := (shape_eq hspelled hother heq).symm.trans hshape
  have hword := hspelled.isWritten hshape level
  have hword' := hother.isWritten hshape' level
  obtain ⟨htext, hst⟩ := eq_of_append_eq hword.not_endsWord hword'.not_endsWord hs ht heq
  exact ⟨by rw [hword.reread_eq, hword'.reread_eq, htext], hst⟩

/-- **The text of a value ends in one place, and is that of no other value.** -/
theorem Spelled.unambiguous {value : Json} (h : value.Spelled) : Unambiguous value := by
  induction h with
  | null => exact unambiguous_word .null rfl
  | bool value => exact unambiguous_word (.bool value) rfl
  | number hnumber => exact unambiguous_word (.number hnumber) rfl
  | string value =>
    intro level other s t hother hs ht heq
    have hshape := shape_eq (.string value) hother heq
    cases hother with
    | null | bool _ | number _ | array _ | object _ => contradiction
    | string other =>
      rw [spaced, spaced] at heq
      obtain ⟨rfl, hst⟩ := eq_of_quote_append_eq heq
      exact ⟨rfl, hst⟩
  | array hitems ih => exact unambiguous_array hitems ih
  | object hmembers ih => exact unambiguous_object hmembers ih

/-- **Values with the same compact text** are the same, but for numbers that are spelled alike. -/
theorem reread_eq_of_compact_eq {value other : Json} (h : value.Spelled) (h' : other.Spelled)
    (heq : value.compact = other.compact) : value.reread = other.reread := by
  have hchars : spaced .none 0 value = spaced .none 0 other := by
    rw [← compactChars_eq, ← compactChars_eq]
    exact String.ofList_injective heq
  refine (h.unambiguous h' ?_ ?_ (congrArg (· ++ []) hchars)).1 <;> simp [Delimited]

/-! ## Names that come twice -/

theorem exists_items_of_reread_eq {value : Json} {items : List Json}
    (h : value.reread = (Json.array items).reread) :
    ∃ others, value = .array others ∧ others.map reread = items.map reread := by
  have hitems := congrArg items? h
  rw [items?_reread, items?_reread] at hitems
  obtain ⟨others, hothers, hmap⟩ := Option.map_eq_some_iff.1 hitems
  refine ⟨others, ?_, hmap⟩
  cases value with
  | array items => rw [Option.some.inj hothers]
  | null | bool _ | number _ | string _ | object _ => contradiction

theorem exists_members_of_reread_eq {value : Json} {members : List (String × Json)}
    (h : value.reread = (Json.object members).reread) :
    ∃ others, value = .object others ∧ (others.map fun member => (member.1, member.2.reread))
      = members.map fun member => (member.1, member.2.reread) := by
  have hmembers := congrArg members? h
  rw [members?_reread, members?_reread] at hmembers
  obtain ⟨others, hothers, hmap⟩ := Option.map_eq_some_iff.1 hmembers
  refine ⟨others, ?_, hmap⟩
  cases value with
  | object members => rw [Option.some.inj hothers]
  | null | bool _ | number _ | string _ | array _ => contradiction

/-- **A name that comes twice shows**: what is the same as a legible value is legible. -/
theorem Spelled.legible {value other : Json} (h : value.Spelled) (h' : other.Legible)
    (heq : other.reread = value.reread) : value.Legible := by
  induction h generalizing other with
  | null => exact .null
  | bool value => exact .bool value
  | number hnumber => exact .number hnumber
  | string value => exact .string value
  | array _ ih =>
    obtain ⟨others, rfl, hmap⟩ := exists_items_of_reread_eq heq
    obtain _ | _ | _ | _ | hothers := h'
    refine .array fun item hitem => ?_
    obtain ⟨other, hother, hsame⟩ := List.mem_map.1 (hmap ▸ List.mem_map_of_mem hitem)
    exact ih item hitem (hothers other hother) hsame
  | object _ ih =>
    obtain ⟨others, rfl, hmap⟩ := exists_members_of_reread_eq heq
    obtain _ | _ | _ | _ | _ | ⟨hnames, hothers⟩ := h'
    refine .object ?_ fun member hmember => ?_
    · have hfst := congrArg (List.map Prod.fst) hmap
      rw [List.map_map, List.map_map] at hfst
      exact (congrArg List.Nodup hfst).mp hnames
    · obtain ⟨other, hother, hsame⟩ := List.mem_map.1 (hmap ▸ List.mem_map_of_mem hmember)
      exact ih member hmember (hothers other hother) (Prod.mk.inj hsame).2

end RamlExpress.Json
