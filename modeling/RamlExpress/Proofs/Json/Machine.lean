import RamlExpress.Json.Reader
import RamlExpress.Json.Writer

/-!
# Proofs/Json/Machine — how the reader goes through the parts of a text

`Machine.Reads` says that a machine, given a text and whatever follows it, goes on as another
machine; such steps compose.  Words, strings and names are read so.  A numeral ends only at what
follows it, so a value is read in front of a comma, a bracket, a blank or the end of the text
(`Machine.ReadsUpTo`).
-/

namespace RamlExpress.Json

namespace Machine

/-- **A machine reads a text and goes on as another one**, whatever follows the text. -/
def Reads (machine : Machine) (text : List Char) (next : Machine) : Prop :=
  ∀ offset rest, ∃ offset', machine.run offset (text ++ rest) = next.run offset' rest

theorem Reads.nil (machine : Machine) : machine.Reads [] machine := fun offset _ => ⟨offset, rfl⟩

theorem Reads.append {machine next last : Machine} {first second : List Char}
    (h₁ : machine.Reads first next) (h₂ : next.Reads second last) :
    machine.Reads (first ++ second) last := by
  intro offset rest
  obtain ⟨middle, hfirst⟩ := h₁ offset (second ++ rest)
  obtain ⟨offset', hsecond⟩ := h₂ middle rest
  exact ⟨offset', by rw [List.append_assoc, hfirst, hsecond]⟩

/-- One character. -/
theorem Reads.char {machine next : Machine} {c : Char}
    (h : ∀ offset, machine.step offset c = .ok next) : machine.Reads [c] next := by
  intro offset rest
  exact ⟨offset + c.utf8Size, by rw [List.singleton_append, run, h]⟩

theorem Reads.cons {machine next last : Machine} {c : Char} {text : List Char}
    (h₁ : ∀ offset, machine.step offset c = .ok next) (h₂ : next.Reads text last) :
    machine.Reads (c :: text) last :=
  (Reads.char h₁).append h₂

/-! ## Blanks -/

/-- A machine to which blanks mean nothing. -/
def SkipsBlanks (machine : Machine) : Prop :=
  ∀ offset c, isSpace c = true → machine.step offset c = .ok machine

theorem Reads.blanks {machine : Machine} (h : machine.SkipsBlanks) :
    ∀ {text : List Char}, (∀ c ∈ text, isSpace c = true) → machine.Reads text machine
  | [], _ => .nil machine
  | c :: _, hblank =>
    .cons (fun offset => h offset c (hblank c List.mem_cons_self))
      (.blanks h fun d hd => hblank d (List.mem_cons_of_mem _ hd))

/-- The modes in which a value begins. -/
def BeginsValue (mode : Mode) : Prop := mode = .value ∨ mode = .firstItem ∨ mode = .nextItem

theorem skipsBlanks_of_beginsValue {mode : Mode} (h : BeginsValue mode) (stack : List Frame) :
    SkipsBlanks ⟨stack, mode⟩ := by
  intro offset c hc
  obtain rfl | rfl | rfl := h <;> simp [step, hc]

/-- The modes in which a name begins. -/
def BeginsName (mode : Mode) : Prop := mode = .firstName ∨ mode = .nextName

theorem skipsBlanks_of_beginsName {mode : Mode} (h : BeginsName mode) (stack : List Frame) :
    SkipsBlanks ⟨stack, mode⟩ := by
  intro offset c hc
  obtain rfl | rfl := h <;> simp [step, hc]

/-- A finished value is in place: what may follow is the same for all values. -/
theorem step_complete (stack : List Frame) (value : Json) (offset : Nat) (c : Char) :
    (complete stack value).step offset c = afterValue (complete stack value) offset c := by
  cases stack with
  | nil => rfl
  | cons frame rest => cases frame <;> rfl

/-- Where a value may begin, a character other than a blank and a closing bracket begins one. -/
theorem step_beginsValue {mode : Mode} (h : BeginsValue mode) (stack : List Frame) (offset : Nat)
    {c : Char} (hspace : isSpace c = false) (hclose : c ≠ ']') :
    step ⟨stack, mode⟩ offset c = beginValue stack offset c := by
  obtain rfl | rfl | rfl := h <;> simp [step, hspace, hclose]

/-! ## Strings -/

theorem hexDigit?_hexDigit : ∀ n < 16, hexDigit? (hexDigit n) = some n := by decide

theorem utf8Size_hexDigit : ∀ n < 16, (hexDigit n).utf8Size = 1 := by decide

theorem reads_backslash (stack : List Frame) (isName : Bool) (chars : List Char) :
    Reads ⟨stack, .text isName chars none⟩ ['\\'] ⟨stack, .text isName chars (some .letter)⟩ :=
  .char fun _ => rfl

/-- A digit of an escape, but for the last. -/
theorem reads_hexDigit (stack : List Frame) (isName : Bool) (chars : List Char)
    (bytes value n : Nat) (hbytes : bytes < 3) (hn : n < 16) :
    Reads ⟨stack, .text isName chars (some (.hex none bytes (some value)))⟩ [hexDigit n]
      ⟨stack, .text isName chars (some (.hex none (bytes + 1) (some (value * 16 + n))))⟩ := by
  refine .char fun offset => ?_
  have hfour : bytes + 1 < 4 := by omega
  simp [step, stepEscape, hexDigit?_hexDigit n hn, utf8Size_hexDigit n hn, hfour]

/-- The last digit of an escape whose code is that of a control character. -/
theorem reads_lastHexDigit (stack : List Frame) (isName : Bool) (chars : List Char)
    (value n : Nat) {c : Char} (hn : n < 16) (hcode : value * 16 + n = c.toNat)
    (hc : c.toNat < 0x20) :
    Reads ⟨stack, .text isName chars (some (.hex none 3 (some value)))⟩ [hexDigit n]
      ⟨stack, .text isName (c :: chars) none⟩ := by
  refine .char fun offset => ?_
  have hlow : ¬(0xDC00 ≤ c.toNat ∧ c.toNat ≤ 0xDFFF) := by omega
  have hhigh : ¬(0xD800 ≤ c.toNat ∧ c.toNat ≤ 0xDBFF) := by omega
  simp [step, stepEscape, hexDigit?_hexDigit n hn, utf8Size_hexDigit n hn, hcode, endHex, hlow,
    hhigh]

/-- A control character is written by its number, in four digits. -/
theorem reads_hexEscape (stack : List Frame) (isName : Bool) (chars : List Char) {c : Char}
    (hc : c.toNat < 0x20) :
    Reads ⟨stack, .text isName chars none⟩
      ['\\', 'u', '0', '0', hexDigit (c.toNat / 16), hexDigit (c.toNat % 16)]
      ⟨stack, .text isName (c :: chars) none⟩ := by
  have hletter : Reads ⟨stack, .text isName chars (some .letter)⟩ ['u']
      ⟨stack, .text isName chars (some (.hex none 0 (some 0)))⟩ := .char fun _ => rfl
  have hzero := reads_hexDigit stack isName chars 0 0 0 (by decide) (by decide)
  have hzero' := reads_hexDigit stack isName chars 1 0 0 (by decide) (by decide)
  have hhigh := reads_hexDigit stack isName chars 2 0 (c.toNat / 16) (by decide) (by omega)
  have hlow := reads_lastHexDigit stack isName chars (c.toNat / 16) (c.toNat % 16) (by omega)
    (by omega) hc
  simp only [Nat.zero_mul, Nat.zero_add] at hhigh
  exact (reads_backslash stack isName chars).append
    (hletter.append (hzero.append (hzero'.append (hhigh.append hlow))))

/-- **The escape of a character stands for the character.** -/
theorem reads_escapeChar (stack : List Frame) (isName : Bool) (chars : List Char) (c : Char) :
    Reads ⟨stack, .text isName chars none⟩ (escapeChar c)
      ⟨stack, .text isName (c :: chars) none⟩ := by
  unfold escapeChar
  split
  case h_8 hquote hslash _ _ _ _ _ =>
    by_cases hcontrol : c.toNat < 0x20
    · rw [if_pos hcontrol]
      exact reads_hexEscape stack isName chars hcontrol
    · rw [if_neg hcontrol]
      refine .char fun offset => ?_
      simp only [step, stepText, if_neg hquote, if_neg hslash, if_neg hcontrol]
  all_goals exact (reads_backslash stack isName chars).append (.char fun _ => rfl)

theorem reads_escapeChars (stack : List Frame) (isName : Bool) (text chars : List Char) :
    Reads ⟨stack, .text isName chars none⟩ (text.flatMap escapeChar)
      ⟨stack, .text isName (text.reverse ++ chars) none⟩ := by
  induction text generalizing chars with
  | nil => exact .nil _
  | cons c rest ih =>
    rw [List.flatMap_cons, List.reverse_cons, List.append_assoc, List.singleton_append]
    exact (reads_escapeChar stack isName chars c).append (ih (c :: chars))

/-- What stands behind the first quote of a string, up to and with the second. -/
theorem reads_quoteTail (stack : List Frame) (isName : Bool) (s : String) :
    Reads ⟨stack, .text isName [] none⟩ (s.toList.flatMap escapeChar ++ ['"'])
      (endText stack isName s.toList.reverse) := by
  refine (reads_escapeChars stack isName s.toList []).append (.char fun offset => ?_)
  rw [List.append_nil]
  rfl

/-- **A name** of the innermost object. -/
theorem reads_name {mode : Mode} (h : BeginsName mode) (members : List (String × Json))
    (old : String) (stack : List Frame) (name : String) :
    Reads ⟨.object members old :: stack, mode⟩ (quote name)
      ⟨.object members name :: stack, .colon⟩ := by
  have hquote : Reads ⟨.object members old :: stack, mode⟩ ['"']
      ⟨.object members old :: stack, .text true [] none⟩ := by
    refine .char fun offset => ?_
    obtain rfl | rfl := h <;> rfl
  have htail := reads_quoteTail (.object members old :: stack) true name
  simp only [endText, List.reverse_reverse, String.ofList_toList] at htail
  exact hquote.append htail

/-! ## Values -/

/-- What may follow a value: a comma, a closing bracket, a blank or nothing. -/
def Delimited (rest : List Char) : Prop :=
  ∀ c ∈ rest.head?, c = ',' ∨ c = ']' ∨ c = '\x7d' ∨ isSpace c = true

/-- A machine reads a text in front of what may follow a value. -/
def ReadsUpTo (machine : Machine) (text : List Char) (next : Machine) : Prop :=
  ∀ offset rest, Delimited rest →
    ∃ offset', machine.run offset (text ++ rest) = next.run offset' rest

theorem delimited_append {first second : List Char} (h₁ : Delimited first) (h₂ : Delimited second) :
    Delimited (first ++ second) := by
  cases first with
  | nil => exact h₂
  | cons c rest => exact h₁

theorem Reads.upTo {machine next : Machine} {text : List Char} (h : machine.Reads text next) :
    machine.ReadsUpTo text next := fun offset rest _ => h offset rest

theorem Reads.appendUpTo {machine next last : Machine} {first second : List Char}
    (h₁ : machine.Reads first next) (h₂ : next.ReadsUpTo second last) :
    machine.ReadsUpTo (first ++ second) last := by
  intro offset rest hrest
  obtain ⟨middle, hfirst⟩ := h₁ offset (second ++ rest)
  obtain ⟨offset', hsecond⟩ := h₂ middle rest hrest
  exact ⟨offset', by rw [List.append_assoc, hfirst, hsecond]⟩

theorem ReadsUpTo.append {machine next last : Machine} {first second : List Char}
    (h₁ : machine.ReadsUpTo first next) (hdelimited : Delimited second)
    (h₂ : next.ReadsUpTo second last) : machine.ReadsUpTo (first ++ second) last := by
  intro offset rest hrest
  obtain ⟨middle, hfirst⟩ := h₁ offset (second ++ rest) (delimited_append hdelimited hrest)
  obtain ⟨offset', hsecond⟩ := h₂ middle rest hrest
  exact ⟨offset', by rw [List.append_assoc, hfirst, hsecond]⟩

/-! A machine that has too many collections open refuses the next one, and what follows does not
matter any more. -/

/-- A machine refuses a text as nested too deep. -/
def Refuses (machine : Machine) (text : List Char) : Prop :=
  ∀ offset rest, Delimited rest →
    ∃ offset', machine.run offset (text ++ rest) = .error (.tooDeep, offset')

/-- **A machine reads a text just if it fits**, and refuses it as nested too deep otherwise. -/
structure ReadsIff (fits : Prop) (machine : Machine) (text : List Char) (next : Machine) :
    Prop where
  reads : fits → machine.ReadsUpTo text next
  refuses : ¬fits → machine.Refuses text

theorem ReadsUpTo.readsIff {machine next : Machine} {text : List Char} {fits : Prop}
    (h : machine.ReadsUpTo text next) (hfits : fits) : machine.ReadsIff fits text next :=
  ⟨fun _ => h, fun hnot => absurd hfits hnot⟩

theorem Reads.appendIff {machine next last : Machine} {first second : List Char} {fits : Prop}
    (h₁ : machine.Reads first next) (h₂ : next.ReadsIff fits second last) :
    machine.ReadsIff fits (first ++ second) last := by
  refine ⟨fun hfits => h₁.appendUpTo (h₂.reads hfits), fun hnot offset rest hrest => ?_⟩
  obtain ⟨middle, hfirst⟩ := h₁ offset (second ++ rest)
  obtain ⟨offset', hsecond⟩ := h₂.refuses hnot middle rest hrest
  exact ⟨offset', by rw [List.append_assoc, hfirst, hsecond]⟩

/-- Two texts one behind the other fit if both do. -/
theorem ReadsIff.append {machine next last : Machine} {first second : List Char} {p q : Prop}
    (h₁ : machine.ReadsIff p first next) (hdelimited : Delimited second)
    (h₂ : next.ReadsIff q second last) : machine.ReadsIff (p ∧ q) (first ++ second) last := by
  refine ⟨fun hfits => (h₁.reads hfits.1).append hdelimited (h₂.reads hfits.2), ?_⟩
  intro hnot offset rest hrest
  have hrest' := delimited_append hdelimited hrest
  rw [List.append_assoc]
  by_cases hp : p
  · obtain ⟨middle, hfirst⟩ := h₁.reads hp offset (second ++ rest) hrest'
    obtain ⟨offset', hsecond⟩ := h₂.refuses (fun hq => hnot ⟨hp, hq⟩) middle rest hrest
    exact ⟨offset', by rw [hfirst, hsecond]⟩
  · exact h₁.refuses hp offset (second ++ rest) hrest'

theorem ReadsIff.appendReads {machine next last : Machine} {first second : List Char} {fits : Prop}
    (h₁ : machine.ReadsIff fits first next) (hdelimited : Delimited second)
    (h₂ : next.Reads second last) : machine.ReadsIff fits (first ++ second) last := by
  have hboth := h₁.append hdelimited (h₂.upTo.readsIff trivial)
  rwa [and_true] at hboth

/-- **A text is read as a value**, wherever a value may begin and end. -/
def ReadsValue (stack : List Frame) (text : List Char) (value : Json) : Prop :=
  ∀ mode, BeginsValue mode → ReadsUpTo ⟨stack, mode⟩ text (complete stack value)

theorem readsValue_of_reads {stack : List Frame} {text : List Char} {value : Json}
    (h : ∀ mode, BeginsValue mode → Reads ⟨stack, mode⟩ text (complete stack value)) :
    ReadsValue stack text value := fun mode hmode => (h mode hmode).upTo

/-- The first character of a value. -/
theorem reads_beginValue {mode : Mode} (h : BeginsValue mode) {stack : List Frame} {c : Char}
    {next : Machine} (hspace : isSpace c = false) (hclose : c ≠ ']')
    (hbegin : ∀ offset, beginValue stack offset c = .ok next) : Reads ⟨stack, mode⟩ [c] next :=
  .char fun offset => (step_beginsValue h stack offset hspace hclose).trans (hbegin offset)

theorem readsValue_null (stack : List Frame) :
    ReadsValue stack ['n', 'u', 'l', 'l'] .null :=
  readsValue_of_reads fun _ h => (reads_beginValue h rfl (by decide) fun _ => rfl).append
    (.cons (fun _ => rfl) (.cons (fun _ => rfl) (.char fun _ => rfl)))

theorem readsValue_true (stack : List Frame) :
    ReadsValue stack ['t', 'r', 'u', 'e'] (.bool true) :=
  readsValue_of_reads fun _ h => (reads_beginValue h rfl (by decide) fun _ => rfl).append
    (.cons (fun _ => rfl) (.cons (fun _ => rfl) (.char fun _ => rfl)))

theorem readsValue_false (stack : List Frame) :
    ReadsValue stack ['f', 'a', 'l', 's', 'e'] (.bool false) :=
  readsValue_of_reads fun _ h => (reads_beginValue h rfl (by decide) fun _ => rfl).append
    (.cons (fun _ => rfl) (.cons (fun _ => rfl) (.cons (fun _ => rfl) (.char fun _ => rfl))))

theorem readsValue_string (stack : List Frame) (s : String) :
    ReadsValue stack (quote s) (.string s) := by
  refine readsValue_of_reads fun mode h => ?_
  have htail := reads_quoteTail stack false s
  simp only [endText, List.reverse_reverse, String.ofList_toList] at htail
  exact (reads_beginValue h rfl (by decide) fun _ => rfl).append htail

/-! ## Numerals

A numeral is gathered character by character; `numberOf?` is that alone, without the machine around
it. -/

/-- The numeral that a character begins. -/
def beginNumeral? (c : Char) : Option Numeral :=
  if c = '-' then some { part := .sign, negative := true }
  else
    match digit? c with
    | some 0 => some { part := .zero }
    | some d => some { part := .whole, significand := d }
    | none => none

/-- Goes on with a numeral through a whole text. -/
def gather? (n : Numeral) : List Char → Option Numeral
  | [] => some n
  | c :: rest =>
    match stepNumeral n c with
    | .more n => gather? n rest
    | _ => none

/-- **The number that a text spells.** -/
def numberOf? : List Char → Option Number
  | [] => none
  | c :: rest => do
    let n ← gather? (← beginNumeral? c) rest
    if n.isComplete then n.value? else none

theorem digit?_eq_none_of_delimiter {c : Char}
    (h : c = ',' ∨ c = ']' ∨ c = '\x7d' ∨ isSpace c = true) :
    digit? c = none ∧ c ≠ '.' ∧ c ≠ 'e' ∧ c ≠ 'E' := by
  have hspace : isSpace c = true → c = ' ' ∨ c = '\t' ∨ c = '\n' ∨ c = '\r' := by
    simp [isSpace, or_assoc]
  rcases h with rfl | rfl | rfl | h
  case inr.inr.inr => obtain rfl | rfl | rfl | rfl := hspace h <;> decide
  all_goals decide

theorem isSpace_of_digit? {c : Char} {d : Nat} (h : digit? c = some d) :
    isSpace c = false ∧ c ≠ ']' := by
  refine ⟨?_, fun hclose => ?_⟩
  · cases hspace : isSpace c with
    | false => rfl
    | true => simp [(digit?_eq_none_of_delimiter (.inr (.inr (.inr hspace)))).1] at h
  · simp [(digit?_eq_none_of_delimiter (.inr (.inl hclose))).1] at h

theorem reads_beginNumeral {mode : Mode} (hmode : BeginsValue mode) (stack : List Frame) {c : Char}
    {n : Numeral} (h : beginNumeral? c = some n) :
    Reads ⟨stack, mode⟩ [c] ⟨stack, .numeral n⟩ := by
  unfold beginNumeral? at h
  split at h
  · rename_i hminus
    obtain rfl := Option.some.inj h
    subst hminus
    exact reads_beginValue hmode rfl (by decide) fun _ => rfl
  · rename_i hminus
    cases hd : digit? c with
    | none => simp [hd] at h
    | some d =>
      obtain ⟨hspace, hclose⟩ := isSpace_of_digit? hd
      refine reads_beginValue hmode hspace hclose fun offset => ?_
      unfold beginValue
      split
      case h_8 => cases d <;> simp_all
      all_goals contradiction

theorem reads_gather {n last : Numeral} {text : List Char} (h : gather? n text = some last)
    (stack : List Frame) : Reads ⟨stack, .numeral n⟩ text ⟨stack, .numeral last⟩ := by
  induction text generalizing n with
  | nil =>
    obtain rfl := Option.some.inj h
    exact .nil _
  | cons c rest ih =>
    unfold gather? at h
    split at h
    · rename_i next hstep
      exact .cons (fun offset => by simp only [step, hstep]) (ih h)
    · simp at h

/-- A complete numeral ends at what may follow a value. -/
theorem stepNumeral_delimiter {n : Numeral} (hn : n.isComplete = true) {c : Char}
    (h : c = ',' ∨ c = ']' ∨ c = '\x7d' ∨ isSpace c = true) : stepNumeral n c = .ended := by
  obtain ⟨hdigit, hpoint, he, hE⟩ := digit?_eq_none_of_delimiter h
  unfold Numeral.isComplete at hn
  unfold stepNumeral
  split at hn <;> simp_all

/-- …and is the number from there on. -/
theorem run_numeral {n : Numeral} {value : Number} (hn : n.isComplete = true)
    (hvalue : n.value? = some value) (stack : List Frame) (offset : Nat) {rest : List Char}
    (hrest : Delimited rest) :
    run ⟨stack, .numeral n⟩ offset rest = (complete stack (.number value)).run offset rest := by
  cases rest with
  | nil =>
    have hfinish : finish ⟨stack, .numeral n⟩ = (complete stack (.number value)).finish := by
      cases stack with
      | nil => simp [finish, hn, hvalue, complete]
      | cons frame stack => cases frame <;> simp [finish, hn, hvalue, complete]
    simp only [run, hfinish]
  | cons c rest =>
    have hended := stepNumeral_delimiter hn (hrest c (by simp))
    simp only [run, step_complete]
    simp only [step, hended, hvalue]

theorem readsValue_number {text : List Char} {value : Number} (h : numberOf? text = some value)
    (stack : List Frame) : ReadsValue stack text (.number value) := by
  cases text with
  | nil => simp [numberOf?] at h
  | cons c text =>
    simp only [numberOf?, Option.bind_eq_bind, Option.bind_eq_some_iff] at h
    obtain ⟨first, hbegin, last, hgather, hvalue⟩ := h
    split at hvalue
    · rename_i hcomplete
      intro mode hmode offset rest hrest
      obtain ⟨offset', hread⟩ :=
        ((reads_beginNumeral hmode stack hbegin).append (reads_gather hgather stack)) offset rest
      exact ⟨offset', hread.trans (run_numeral hcomplete hvalue stack offset' hrest)⟩
    · simp at hvalue

end Machine

end RamlExpress.Json
