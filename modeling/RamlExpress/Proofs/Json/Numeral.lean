import Mathlib.Algebra.Ring.Int.Defs
import Mathlib.Algebra.Ring.Nat
import RamlExpress.Proofs.Json.Machine

/-!
# Proofs/Json/Numeral — the numbers that texts spell

Digits are gathered as they stand while they fit, so the text of an integer spells the integer, and
the text of a decimal spells its digits and its scale: a decimal with a point at a negative scale,
one with an exponent at the scale that it was written for.
-/

namespace RamlExpress.Json

open Machine

/-! ## Digits -/

/-- Characters that are all digits. -/
def AllDigits (chars : List Char) : Prop := ∀ c ∈ chars, c.isDigit = true

theorem allDigits_toDigits (n : Nat) : AllDigits (Nat.toDigits 10 n) :=
  fun _ hc => Nat.isDigit_of_mem_toDigits (by decide) (by decide) hc

/-- A digit counts in both ways of reading a number. -/
theorem exists_digit {c : Char} (h : c.isDigit = true) :
    ∃ d ≤ 9, digit? c = some d ∧ ∀ rest init,
      Nat.ofDigitChars 10 (c :: rest) init = Nat.ofDigitChars 10 rest (init * 10 + d) := by
  have hrange : '0' ≤ c ∧ c ≤ '9' := Char.isDigit_iff_toNat.1 h
  refine ⟨c.toNat - '0'.toNat, ?_, by rw [digit?, if_pos hrange], fun rest init => ?_⟩
  · have hhigh : c.toNat ≤ '9'.toNat := hrange.2
    simp only [Char.reduceToNat] at hhigh ⊢
    omega
  · rw [Nat.ofDigitChars_cons, Nat.mul_comm]

theorem le_ofDigitChars (chars : List Char) (init : Nat) :
    init ≤ Nat.ofDigitChars 10 chars init := by
  rw [Nat.ofDigitChars_eq_ofDigitChars_zero]
  have := Nat.le_mul_of_pos_left init (Nat.pow_pos (by decide) : 0 < 10 ^ chars.length)
  omega

theorem ofDigitChars_lt {chars : List Char} (h : AllDigits chars) :
    Nat.ofDigitChars 10 chars 0 < 10 ^ chars.length := by
  induction chars with
  | nil => simp
  | cons c rest ih =>
    obtain ⟨hc, hrest⟩ := List.forall_mem_cons.1 h
    obtain ⟨d, hd, -, hcons⟩ := exists_digit hc
    rw [hcons, Nat.ofDigitChars_eq_ofDigitChars_zero, Nat.zero_mul, Nat.zero_add, List.length_cons,
      Nat.pow_succ]
    have := ih hrest
    have := Nat.mul_le_mul_left (10 ^ rest.length) hd
    omega

/-- The digits of a number start with another digit than zero, but for zero itself. -/
theorem exists_toDigits_eq_cons (n : Nat) :
    ∃ c rest, Nat.toDigits 10 n = c :: rest ∧ (0 < n → c ≠ '0') := by
  induction n using Nat.strongRecOn with
  | ind n ih =>
    rw [Nat.toDigits_eq_if (by decide)]
    split
    · rename_i hlt
      refine ⟨_, [], rfl, fun hpos hzero => ?_⟩
      have hchar := Nat.toNat_digitChar_of_lt_ten hlt
      simp only [hzero, Char.reduceToNat] at hchar
      omega
    · obtain ⟨c, rest, heq, hne⟩ := ih (n / 10) (by omega)
      exact ⟨c, rest ++ [(n % 10).digitChar], by rw [heq, List.cons_append],
        fun _ => hne (by omega)⟩

/-! ## Gathering -/

theorem gather?_append (n : Numeral) (first second : List Char) :
    gather? n (first ++ second) = (gather? n first).bind fun n => gather? n second := by
  induction first generalizing n with
  | nil => rfl
  | cons c rest ih =>
    simp only [List.cons_append, gather?]
    split
    · exact ih _
    · rfl

/-- Digits before the point. -/
theorem gather?_whole {n : Numeral} (hpart : n.part = .whole) (hfull : n.full = false)
    {chars : List Char} (hdigits : AllDigits chars)
    (hmax : Nat.ofDigitChars 10 chars n.significand ≤ Numeral.maxSignificand) :
    gather? n chars = some { n with significand := Nat.ofDigitChars 10 chars n.significand } := by
  induction chars generalizing n with
  | nil => rfl
  | cons c rest ih =>
    obtain ⟨hc, hrest⟩ := List.forall_mem_cons.1 hdigits
    obtain ⟨d, -, hd, hcons⟩ := exists_digit hc
    rw [hcons] at hmax ⊢
    have hfits := Nat.le_trans (le_ofDigitChars rest _) hmax
    have hstep : stepNumeral n c = .more { n with significand := n.significand * 10 + d } := by
      simp [stepNumeral, hpart, hd, Numeral.addWhole, hfull, Nat.not_lt.2 hfits]
    rw [gather?, hstep]
    exact ih hpart hfull hrest hmax

/-- Digits behind the point and another digit. -/
theorem gather?_fraction {n : Numeral} (hpart : n.part = .fraction) (hfull : n.full = false)
    {chars : List Char} (hdigits : AllDigits chars)
    (hmax : Nat.ofDigitChars 10 chars n.significand ≤ Numeral.maxSignificand) :
    gather? n chars = some { n with
      significand := Nat.ofDigitChars 10 chars n.significand
      scale := n.scale - chars.length } := by
  induction chars generalizing n with
  | nil => simp [gather?]
  | cons c rest ih =>
    obtain ⟨hc, hrest⟩ := List.forall_mem_cons.1 hdigits
    obtain ⟨d, -, hd, hcons⟩ := exists_digit hc
    rw [hcons] at hmax ⊢
    have hfits := Nat.le_trans (le_ofDigitChars rest _) hmax
    have hstep : stepNumeral n c = .more { n with
        significand := n.significand * 10 + d, scale := n.scale - 1 } := by
      simp [stepNumeral, hpart, hd, Numeral.addFraction, hfull, Nat.not_lt.2 hfits]
    have hscale : n.scale - 1 - (rest.length : Int) = n.scale - (c :: rest).length := by
      simp only [List.length_cons]
      omega
    rw [gather?, hstep, ← hscale]
    exact ih (n := { n with significand := n.significand * 10 + d, scale := n.scale - 1 })
      hpart hfull hrest hmax

/-- The digits of an exponent behind the first. -/
theorem gather?_exponent {n : Numeral} (hpart : n.part = .exponent) (hvanished : n.vanished = false)
    {chars : List Char} (hdigits : AllDigits chars)
    (hmax : Nat.ofDigitChars 10 chars n.exponent ≤ Numeral.maxExponent) :
    gather? n chars = some { n with exponent := Nat.ofDigitChars 10 chars n.exponent } := by
  induction chars generalizing n with
  | nil => rfl
  | cons c rest ih =>
    obtain ⟨hc, hrest⟩ := List.forall_mem_cons.1 hdigits
    obtain ⟨d, -, hd, hcons⟩ := exists_digit hc
    rw [hcons] at hmax ⊢
    have hfits := Nat.le_trans (le_ofDigitChars rest _) hmax
    have hstep : stepNumeral n c = .more { n with exponent := n.exponent * 10 + d } := by
      simp [stepNumeral, hpart, hd, Numeral.addExponent?, hvanished, Nat.not_lt.2 hfits]
    rw [gather?, hstep]
    exact ih hpart hvanished hrest hmax

/-- A point and the digits behind it. -/
theorem gather?_point {part : NumeralPart} (hpart : part = .zero ∨ part = .whole) (negative : Bool)
    (significand : Nat) {chars : List Char} (hdigits : AllDigits chars) (hne : chars ≠ [])
    (hmax : Nat.ofDigitChars 10 chars significand ≤ Numeral.maxSignificand) :
    gather? { part, negative, significand } ('.' :: chars) = some {
      part := .fraction, negative, significand := Nat.ofDigitChars 10 chars significand
      scale := -chars.length, real := true } := by
  cases chars with
  | nil => contradiction
  | cons c rest =>
    obtain ⟨hc, hrest⟩ := List.forall_mem_cons.1 hdigits
    obtain ⟨d, -, hd, hcons⟩ := exists_digit hc
    rw [hcons] at hmax ⊢
    have hfits := Nat.le_trans (le_ofDigitChars rest _) hmax
    have hpoint : stepNumeral { part, negative, significand } '.'
        = .more { part := .point, negative, significand, real := true } := by
      obtain rfl | rfl := hpart <;> rfl
    have hfirst : stepNumeral { part := .point, negative, significand, real := true } c
        = .more { part := .fraction, negative, significand := significand * 10 + d, scale := -1
                  real := true } := by
      simp [stepNumeral, hd, Numeral.addFraction, Nat.not_lt.2 hfits]
    have hscale : (-1 : Int) - rest.length = -(c :: rest).length := by
      simp only [List.length_cons]
      omega
    simp only [gather?, hpoint, hfirst]
    rw [← hscale]
    exact gather?_fraction rfl rfl hrest hmax

/-- The sign and the digits of an exponent. -/
theorem gather?_mark {n : Numeral} (hpart : n.part = .mark) (hvanished : n.vanished = false)
    (hexponent : n.exponent = 0) (hsign : n.exponentNegative = false) {place : Int}
    (hmax : place.natAbs ≤ Numeral.maxExponent) :
    gather? n ((if place < 0 then ['-'] else ['+']) ++ Nat.toDigits 10 place.natAbs) = some {
      n with part := .exponent, exponent := place.natAbs, exponentNegative := place < 0 } := by
  have hstep : gather? n (if place < 0 then ['-'] else ['+']) = some {
      n with part := .markSign, exponentNegative := place < 0 } := by
    split <;> simp_all [gather?, stepNumeral, digit?]
  obtain ⟨c, rest, hchars, -⟩ := exists_toDigits_eq_cons place.natAbs
  have hdigits := allDigits_toDigits place.natAbs
  have hvalue : Nat.ofDigitChars 10 (Nat.toDigits 10 place.natAbs) 0 = place.natAbs :=
    Nat.ofDigitChars_ten_toDigits
  rw [gather?_append, hstep, Option.bind_some]
  rw [hchars] at hdigits hvalue ⊢
  obtain ⟨hc, hrest⟩ := List.forall_mem_cons.1 hdigits
  obtain ⟨d, -, hd, hcons⟩ := exists_digit hc
  rw [hcons, Nat.zero_mul, Nat.zero_add] at hvalue
  have hfits : d ≤ Numeral.maxExponent :=
    Nat.le_trans (le_ofDigitChars rest d) (hvalue ▸ hmax)
  have hfirst : stepNumeral { n with part := .markSign, exponentNegative := place < 0 } c
      = .more { n with part := .exponent, exponentNegative := place < 0, exponent := d } := by
    simp [stepNumeral, hd, Numeral.addExponent?, hvanished, hexponent, Nat.not_lt.2 hfits]
  simp only [gather?, hfirst]
  have hmore := gather?_exponent
    (n := { n with part := .exponent, exponentNegative := place < 0, exponent := d })
    rfl hvanished hrest (hvalue ▸ hmax)
  rw [hvalue] at hmore
  exact hmore

/-! ## Numbers -/

/-- The number that a numeral goes on to with a text. -/
def finish? (n : Numeral) (text : List Char) : Option Number := do
  let n ← gather? n text
  if n.isComplete then n.value? else none

/-- The numeral of one digit. -/
def oneDigit (negative : Bool) (d : Nat) : Numeral :=
  { part := if d = 0 then .zero else .whole, negative, significand := d }

/-- The sign before a number. -/
def signText (negative : Bool) : List Char := if negative then ['-'] else []

theorem numberOf?_signText (negative : Bool) {c : Char} {d : Nat} (h : digit? c = some d)
    (text : List Char) :
    numberOf? (signText negative ++ c :: text) = finish? (oneDigit negative d) text := by
  have hminus : c ≠ '-' := by
    rintro rfl
    simp [digit?] at h
  cases negative with
  | false =>
    have hbegin : beginNumeral? c = some (oneDigit false d) := by
      cases d <;> simp [beginNumeral?, hminus, h, oneDigit]
    simp [signText, numberOf?, finish?, hbegin]
  | true =>
    have hstep : stepNumeral { part := .sign, negative := true } c = .more (oneDigit true d) := by
      cases d <;> simp [stepNumeral, h, oneDigit]
    simp [signText, numberOf?, finish?, beginNumeral?, gather?, hstep]

theorem digit?_ne_zero {c : Char} {d : Nat} (h : digit? c = some d) (hc : c ≠ '0') : d ≠ 0 := by
  rw [digit?] at h
  split at h
  · rename_i hrange
    have hlow : '0'.toNat ≤ c.toNat := hrange.1
    have hne : c.toNat ≠ '0'.toNat := fun heq => hc (Char.toNat_inj.1 heq)
    obtain rfl := Option.some.inj h
    omega
  · contradiction

/-- Digits of which the first is not zero, gathered. -/
theorem gather?_oneDigit (negative : Bool) {c : Char} (hc : c.isDigit = true) (hzero : c ≠ '0')
    {rest : List Char} (hrest : AllDigits rest)
    (hmax : Nat.ofDigitChars 10 (c :: rest) 0 ≤ Numeral.maxSignificand) :
    ∃ d, digit? c = some d ∧ gather? (oneDigit negative d) rest = some {
      part := .whole, negative, significand := Nat.ofDigitChars 10 (c :: rest) 0 } := by
  obtain ⟨d, -, hd, hcons⟩ := exists_digit hc
  rw [hcons, Nat.zero_mul, Nat.zero_add] at hmax ⊢
  have hone : oneDigit negative d = { part := .whole, negative, significand := d } := by
    rw [oneDigit, if_neg (digit?_ne_zero hd hzero)]
  exact ⟨d, hd, hone ▸ gather?_whole rfl rfl hrest hmax⟩

/-- The digits of a natural number, gathered. -/
theorem gather?_toDigits (negative : Bool) {n : Nat} (hn : 0 < n)
    (hmax : n ≤ Numeral.maxSignificand) :
    ∃ c rest d, Nat.toDigits 10 n = c :: rest ∧ digit? c = some d ∧
      gather? (oneDigit negative d) rest = some { part := .whole, negative, significand := n } := by
  obtain ⟨c, rest, hchars, hzero⟩ := exists_toDigits_eq_cons n
  have hdigits := allDigits_toDigits n
  have hvalue : Nat.ofDigitChars 10 (Nat.toDigits 10 n) 0 = n := Nat.ofDigitChars_ten_toDigits
  rw [hchars] at hdigits hvalue
  obtain ⟨hc, hrest⟩ := List.forall_mem_cons.1 hdigits
  obtain ⟨d, hd, hgather⟩ := gather?_oneDigit negative hc (hzero hn) hrest (hvalue ▸ hmax)
  rw [hvalue] at hgather
  exact ⟨c, rest, d, hchars, hd, hgather⟩

/-! ## Integers -/

theorem numberText_integer (value : Int) :
    numberText (.integer value) = signText (value < 0) ++ Nat.toDigits 10 value.natAbs := by
  rw [numberText, Int.toString_eq_repr, Int.repr_eq_if]
  by_cases h : value < 0
  · have habs : (-value).toNat = value.natAbs := by omega
    rw [if_neg (by omega), habs, String.toList_append, Nat.toList_repr]
    simp [signText, h]
  · have habs : value.toNat = value.natAbs := by omega
    rw [if_pos (by omega), habs, Nat.toList_repr]
    simp [signText, h]

/-- **The text of an integer spells a number**, if the integer is of those that are held. -/
theorem numberOf?_integer {value : Int} (hlow : -2 ^ 63 ≤ value) (hhigh : value < 2 ^ 64) :
    (numberOf? (numberText (.integer value))).isSome = true := by
  rw [numberText_integer]
  rcases Nat.eq_zero_or_pos value.natAbs with hzero | hpos
  · obtain rfl : value = 0 := Int.natAbs_eq_zero.1 hzero
    decide
  · have hmax : value.natAbs ≤ Numeral.maxSignificand := by
      simp only [Numeral.maxSignificand, Nat.pow_eq]
      omega
    obtain ⟨c, rest, d, hchars, hd, hgather⟩ := gather?_toDigits (value < 0) hpos hmax
    rw [hchars, numberOf?_signText _ hd, finish?, hgather]
    by_cases hnegative : value < 0
    · have hheld : (decide (value.natAbs ≠ 0) && decide (value.natAbs ≤ Nat.pow 2 63)) = true := by
        rw [Bool.and_eq_true, decide_eq_true_eq, decide_eq_true_eq, Nat.pow_eq]
        omega
      simp only [Option.bind_eq_bind, Option.bind_some, Numeral.isComplete, Numeral.value?,
        hnegative, hheld, if_true, decide_true]
      rfl
    · simp [Numeral.isComplete, Numeral.value?, hnegative]

/-! ## Decimals -/

theorem real?_of_neg (negative : Bool) (significand : Nat) {scale : Int} (h : scale < 0) :
    (Numeral.real? negative significand scale).isSome = true := by
  unfold Numeral.real?
  split
  · rfl
  · rfl

/-- Digits with a point among them spell a number. -/
theorem finish?_point {part : NumeralPart} (hpart : part = .zero ∨ part = .whole) (negative : Bool)
    (significand : Nat) {chars : List Char} (hdigits : AllDigits chars) (hne : chars ≠ [])
    (hmax : Nat.ofDigitChars 10 chars significand ≤ Numeral.maxSignificand) :
    (finish? { part, negative, significand } ('.' :: chars)).isSome = true := by
  have hlength := List.length_pos_iff.2 hne
  rw [finish?, gather?_point hpart negative significand hdigits hne hmax]
  simp only [Option.bind_eq_bind, Option.bind_some, Numeral.isComplete, Numeral.value?, if_true,
    Bool.true_or, Bool.false_eq_true, if_false]
  exact real?_of_neg _ _ (by omega)

theorem allDigits_append {first second : List Char} (h₁ : AllDigits first) (h₂ : AllDigits second) :
    AllDigits (first ++ second) :=
  List.forall_mem_append.2 ⟨h₁, h₂⟩

theorem allDigits_zeros (n : Nat) : AllDigits (List.replicate n '0') := by
  intro c hc
  rw [List.eq_of_mem_replicate hc]
  rfl

theorem ten_pow_le_maxSignificand : 10 ^ 18 ≤ Numeral.maxSignificand := by decide

/-- A decimal below one with a point. -/
theorem numberOf?_positional_neg (negative : Bool) {n : Nat} (hmax : n ≤ Numeral.maxSignificand)
    {place : Int} (hplace : place < 0) :
    (numberOf? (signText negative ++ Number.positional (Nat.toDigits 10 n) place)).isSome
      = true := by
  rw [Number.positional, if_pos hplace, List.cons_append, List.cons_append]
  rw [numberOf?_signText negative (d := 0) rfl]
  refine finish?_point (.inl rfl) negative 0
    (allDigits_append (allDigits_zeros _) (allDigits_toDigits n)) ?_ ?_
  · simp [Nat.toDigits_ne_nil]
  · rw [Nat.ofDigitChars_append, Nat.ofDigitChars_replicate_zero, Nat.mul_zero,
      Nat.ofDigitChars_ten_toDigits]
    exact hmax

/-- Up to eighteen digits spell a number, with a point somewhere behind the first of them. -/
theorem numberOf?_digits_point (negative : Bool) {c : Char} {front back : List Char}
    (hc : c.isDigit = true) (hzero : c ≠ '0') (hfront : AllDigits front) (hback : AllDigits back)
    (hne : back ≠ []) (hlength : (c :: front ++ back).length ≤ 18) :
    (numberOf? (signText negative ++ c :: (front ++ '.' :: back))).isSome = true := by
  have hvalue : Nat.ofDigitChars 10 back (Nat.ofDigitChars 10 (c :: front) 0)
      ≤ Numeral.maxSignificand := by
    rw [← Nat.ofDigitChars_append]
    refine Nat.le_trans (Nat.le_of_lt (ofDigitChars_lt ?_))
      (Nat.le_trans (Nat.pow_le_pow_right (by decide) hlength) ten_pow_le_maxSignificand)
    exact allDigits_append (List.forall_mem_cons.2 ⟨hc, hfront⟩) hback
  obtain ⟨d, hd, hgather⟩ := gather?_oneDigit negative hc hzero hfront
    (Nat.le_trans (le_ofDigitChars back _) hvalue)
  have hfinish := finish?_point (.inr rfl) negative _ hback hne hvalue
  rw [numberOf?_signText negative hd, finish?, gather?_append, hgather]
  exact hfinish

/-- A decimal of at least one has its point among its digits, or zeros up to it. -/
theorem exists_positional_eq {c : Char} {rest : List Char} (hrest : AllDigits rest) (k : Nat) :
    ∃ front back, Number.positional (c :: rest) k = c :: (front ++ '.' :: back)
      ∧ AllDigits front ∧ AllDigits back ∧ back ≠ []
      ∧ front.length = k ∧ back.length ≤ max 1 (rest.length - k) := by
  refine ⟨rest.take k ++ List.replicate (k + 1 - (rest.length + 1)) '0',
    if (rest.drop k).isEmpty then ['0'] else rest.drop k, ?_, ?_, ?_, ?_, ?_, ?_⟩
  · rw [Number.positional, if_neg (by omega)]
    simp only [Int.toNat_natCast, List.take_succ_cons, List.drop_succ_cons, List.length_cons,
      List.cons_append]
  · exact allDigits_append (fun d hd => hrest d (List.mem_of_mem_take hd)) (allDigits_zeros _)
  · split
    · exact allDigits_zeros 1
    · exact fun d hd => hrest d (List.mem_of_mem_drop hd)
  · split
    · exact List.cons_ne_nil _ _
    · rename_i h
      exact fun hnil => h (List.isEmpty_iff.2 hnil)
  · rw [List.length_append, List.length_take, List.length_replicate]
    omega
  · split
    · exact Nat.le_max_left ..
    · rw [List.length_drop]
      exact Nat.le_max_right ..

/-- Any other decimal with a point. -/
theorem numberOf?_positional_nonneg (negative : Bool) {n : Nat} (hn : 0 < n) (hle : n ≤ 10 ^ 17)
    {place : Int} (hplace : 0 ≤ place) (hplaceTo : place ≤ Number.positionalTo) :
    (numberOf? (signText negative ++ Number.positional (Nat.toDigits 10 n) place)).isSome
      = true := by
  obtain ⟨c, rest, hchars, hzero⟩ := exists_toDigits_eq_cons n
  have hdigits := allDigits_toDigits n
  have hlength : (Nat.toDigits 10 n).length ≤ 18 :=
    (Nat.length_toDigits_le_iff (by decide) (by decide)).2 (by omega)
  rw [hchars] at hdigits hlength ⊢
  obtain ⟨hc, hrest⟩ := List.forall_mem_cons.1 hdigits
  obtain ⟨k, rfl⟩ := Int.eq_ofNat_of_zero_le hplace
  obtain ⟨front, back, htext, hfront, hback, hne, hfrontLength, hbackLength⟩ :=
    exists_positional_eq (c := c) hrest k
  rw [htext]
  refine numberOf?_digits_point negative hc (hzero hn) hfront hback hne ?_
  rw [Number.positionalTo] at hplaceTo
  rw [List.length_cons] at hlength
  rw [List.length_append, List.length_cons]
  omega

/-- The digits of a decimal with an exponent, up to the mark of the exponent. -/
theorem gather?_mantissa (negative : Bool) {n : Nat} (hn : 0 < n)
    (hmax : n ≤ Numeral.maxSignificand) {c : Char} {rest : List Char}
    (hchars : Nat.toDigits 10 n = c :: rest) :
    ∃ d, digit? c = some d ∧
      gather? (oneDigit negative d) ((if rest.length + 1 ≤ 1 then [] else '.' :: rest) ++ ['e'])
        = some
          { part := .mark, negative, significand := n, scale := -rest.length, real := true } := by
  have hdigits := allDigits_toDigits n
  have hvalue : Nat.ofDigitChars 10 (Nat.toDigits 10 n) 0 = n := Nat.ofDigitChars_ten_toDigits
  obtain ⟨c', rest', hchars', hzero⟩ := exists_toDigits_eq_cons n
  obtain ⟨rfl, rfl⟩ := List.cons.inj (hchars'.symm.trans hchars)
  rw [hchars] at hdigits hvalue
  obtain ⟨hc, hrest⟩ := List.forall_mem_cons.1 hdigits
  obtain ⟨d, -, hd, hcons⟩ := exists_digit hc
  rw [hcons, Nat.zero_mul, Nat.zero_add] at hvalue
  have hone : oneDigit negative d = { part := .whole, negative, significand := d } := by
    rw [oneDigit, if_neg (digit?_ne_zero hd (hzero hn))]
  refine ⟨d, hd, ?_⟩
  rw [gather?_append, hone]
  by_cases hempty : rest' = []
  · subst hempty
    obtain rfl : d = n := hvalue
    rfl
  · have hlength : ¬rest'.length + 1 ≤ 1 := by
      have := List.length_pos_iff.2 hempty
      omega
    rw [if_neg hlength, gather?_point (.inr rfl) negative d hrest hempty (hvalue ▸ hmax), hvalue]
    rfl

/-- **A decimal with an exponent spells its digits at its scale.** -/
theorem numberOf?_exponential (negative : Bool) {n : Nat} (hn : 0 < n)
    (hmax : n ≤ Numeral.maxSignificand) {place : Int}
    (hplace : place.natAbs ≤ Numeral.maxExponent) :
    numberOf? (signText negative ++ Number.exponential realStyle (Nat.toDigits 10 n) place)
      = Numeral.real? negative n (place - ((Nat.toDigits 10 n).length - 1)) := by
  obtain ⟨c, rest, hchars, -⟩ := exists_toDigits_eq_cons n
  obtain ⟨d, hd, hmantissa⟩ := gather?_mantissa negative hn hmax hchars
  have hsplit : Number.exponential realStyle (c :: rest) place
      = c :: (((if rest.length + 1 ≤ 1 then [] else '.' :: rest) ++ ['e'])
        ++ ((if place < 0 then ['-'] else ['+']) ++ Nat.toDigits 10 place.natAbs)) := by
    simp [Number.exponential, realStyle]
  rw [hchars, hsplit, numberOf?_signText negative hd, finish?, gather?_append, hmantissa,
    Option.bind_some, gather?_mark rfl rfl rfl rfl hplace]
  have hscale : -(rest.length : Int)
      + (if decide (place < 0) = true then -(place.natAbs : Int) else place.natAbs)
        = place - ((c :: rest).length - 1) := by
    rw [List.length_cons]
    split
    · rename_i hneg
      rw [decide_eq_true_eq] at hneg
      omega
    · rename_i hneg
      rw [decide_eq_true_eq] at hneg
      omega
  simp only [Option.bind_eq_bind, Option.bind_some, Numeral.isComplete, Numeral.value?, if_true,
    Bool.true_or, Bool.false_eq_true, if_false, hscale]

end RamlExpress.Json
