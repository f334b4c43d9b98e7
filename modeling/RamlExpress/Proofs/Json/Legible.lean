import RamlExpress.Proofs.Json.Numeral
import RamlExpress.Proofs.Json.ReadBack
import RamlExpress.Proofs.Number.Shortest

/-!
# Proofs/Json/Legible — the text of every number is read back

A double is written with its shortest digits and read with one rounding of the digits, one of the
power of ten and one of their product.  None of the three takes the largest doubles out of range:
`Json.powerFits` holds the two roundings against the overflow threshold for every power of ten.

* `Json.legibleNumber_of_held` — the text of a number that fits spells a number, or `null`.
-/

namespace RamlExpress

/-- The numbers that are held: integers of 64 bits, with or without a sign, and doubles. -/
def Number.Held : Number → Prop
  | .integer value => -2 ^ 63 ≤ value ∧ value < 2 ^ 64
  | .real (.finite _ mantissa exponent) => Binary64.Representable mantissa exponent
  | .real _ => True

instance : DecidablePred Number.Held
  | .integer value => inferInstanceAs (Decidable (-2 ^ 63 ≤ value ∧ value < 2 ^ 64))
  | .real (.finite _ mantissa exponent) =>
    inferInstanceAs (Decidable (Binary64.Representable mantissa exponent))
  | .real (.infinite _) | .real .nan => .isTrue trivial

namespace Json

open Binary64 Machine

/-! ## Large doubles -/

/-- The upper end of the interval of the greatest double but one. -/
@[irreducible] def upperEnd : Nat := (2 ^ 54 - 3) * 2 ^ 970

theorem upperEnd_eq : (upperEnd : ℚ) = (2 ^ 55 - 6) * 2 ^ (maxExponent - 2) := by
  have hnat : upperEnd = (2 ^ 54 - 3) * 2 ^ 970 := by unfold upperEnd; rfl
  have hexponent : maxExponent - 2 = (969 : Nat) := rfl
  rw [hnat, hexponent, zpow_natCast, Nat.cast_mul, Nat.cast_pow, Nat.cast_ofNat, pow_succ _ 969]
  generalize (2 : ℚ) ^ 969 = unit
  norm_num
  ring

/-- The most that the digits in front of a power of ten can be. -/
def topDigits (scale : Nat) : Nat := min (10 ^ 17) (upperEnd / 10 ^ scale)

/-- How far a natural number can come by rounding. -/
def roundedUp (n : Nat) : Nat := n + 2 ^ (n.log2 - 52) / 2

/-- The digits in front of a power of ten, rounded, times the power, rounded, stay in range. -/
def powerFits (scale : Nat) : Bool :=
  match ofDecimal false 1 scale with
  | .finite _ m e =>
    let (num, den) := scaled m 1 (-e)
    roundedUp (topDigits scale) * num < overflow * den
  | _ => false

theorem powerFits_of_le : ∀ scale ≤ 308, powerFits scale = true := by decide +kernel

theorem roundedUp_mono {m n : Nat} (h : m ≤ n) : roundedUp m ≤ roundedUp n := by
  have hlog : m.log2 ≤ n.log2 := by
    rcases Nat.eq_zero_or_pos m with rfl | hm
    · simp
    · rw [Nat.le_log2 (by omega)]
      exact (Nat.log2_self_le hm.ne').trans h
  have hpow : 2 ^ (m.log2 - 52) ≤ 2 ^ (n.log2 - 52) := Nat.pow_le_pow_right two_pos (by omega)
  unfold roundedUp
  omega

/-- The product of two doubles is finite if it lies below the overflow threshold. -/
theorem mul_eq_finite (s s' : Bool) {m m' : Nat} {e e' : Int}
    (h : (m : ℚ) * 2 ^ e * (m' * 2 ^ e') < overflow) :
    ∃ m'' e'', (Binary64.finite s m e).mul (.finite s' m' e') = .finite (s != s') m'' e'' := by
  have hmul : (Binary64.finite s m e).mul (.finite s' m' e') = ofRatio (s != s')
      (scaled (m * m') 1 (-(e + e'))).1 (scaled (m * m') 1 (-(e + e'))).2 := rfl
  have hpos := scaled_snd_pos (m * m') one_pos (-(e + e'))
  have hvalue := scaled_div (m * m') 1 (-(e + e'))
  rw [hmul]
  generalize scaled (m * m') 1 (-(e + e')) = quotient at hpos hvalue ⊢
  refine ofRatio_eq_finite (s != s') hpos ?_
  have hlt : (quotient.1 : ℚ) / quotient.2 < overflow := by
    rw [hvalue]
    refine lt_of_eq_of_lt ?_ h
    rw [zpow_neg, zpow_add₀ two_ne_zero]
    push_cast
    field_simp
  rw [div_lt_iff₀ (by exact_mod_cast hpos), mul_comm] at hlt
  exact_mod_cast hlt

/-- Digits and a power of ten that the largest doubles but one allow. -/
theorem real?_of_le_topDigits (negative : Bool) {digits scale : Nat} (hpos : 0 < digits)
    (hscale : scale ≤ 308) (hle : digits ≤ topDigits scale) :
    (Numeral.real? negative digits scale).isSome = true := by
  have hfits := powerFits_of_le scale hscale
  unfold powerFits at hfits
  split at hfits
  case h_2 => contradiction
  rename_i s m' e' hpower
  have htop : digits < 1 * overflow := by
    have hle' : topDigits scale ≤ 10 ^ 17 := Nat.min_le_left ..
    have hlarge : 10 ^ 17 < overflow := by decide +kernel
    omega
  obtain ⟨m, e, hdigits⟩ := ofRatio_eq_finite negative one_pos htop
  have hrounded : (m : ℚ) * 2 ^ e ≤ roundedUp (topDigits scale) :=
    (ofRatio_natural_le hpos hdigits).trans (by exact_mod_cast roundedUp_mono hle)
  have hlt : (m : ℚ) * 2 ^ e * (m' * 2 ^ e') < overflow := by
    have hpos' := scaled_snd_pos m' one_pos (-e')
    have hvalue := scaled_div m' 1 (-e')
    simp only [decide_eq_true_eq] at hfits
    generalize scaled m' 1 (-e') = quotient at hfits hpos' hvalue
    have hpower' : (m' : ℚ) * 2 ^ e' = quotient.1 / quotient.2 := by
      rw [hvalue, zpow_neg, Nat.cast_one, div_one, div_inv_eq_mul]
    calc (m : ℚ) * 2 ^ e * (m' * 2 ^ e')
        ≤ roundedUp (topDigits scale) * (quotient.1 / quotient.2) := by
          rw [hpower']
          exact mul_le_mul_of_nonneg_right hrounded (by positivity)
      _ < overflow := by
          rw [mul_div_assoc', div_lt_iff₀ (by exact_mod_cast hpos')]
          exact_mod_cast hfits
  obtain ⟨m'', e'', hproduct⟩ := mul_eq_finite negative s hlt
  unfold Numeral.real?
  rw [if_neg hpos.ne', if_neg (by omega), if_neg (by omega), hdigits, hpower, hproduct]
  rfl

/-- The digits of every double but the greatest stay below those. -/
theorem mul_le_upperEnd {mantissa : Nat} {exponent : Int} (h : Representable mantissa exponent)
    (hne : ¬(mantissa = 2 ^ 53 - 1 ∧ exponent = maxExponent)) :
    (4 * mantissa + 2 : ℚ) * 2 ^ (exponent - 2) ≤ upperEnd := by
  obtain ⟨hm, he⟩ := h
  rw [upperEnd_eq]
  rcases he.lt_or_eq with hlt | rfl
  · have hmantissa : (4 * mantissa + 2 : ℚ) ≤ 2 ^ 55 - 2 := by
      have : (mantissa : ℚ) + 1 ≤ 2 ^ 53 := by exact_mod_cast hm
      linarith
    have hhalf : (2 : ℚ) ^ (exponent - 2) * 2 ≤ 2 ^ (maxExponent - 2) := by
      rw [← zpow_add_one₀ two_ne_zero]
      exact zpow_le_zpow_right₀ one_le_two (by omega)
    have hpos : (0 : ℚ) < 2 ^ (exponent - 2) := by positivity
    generalize (2 : ℚ) ^ (exponent - 2) = unit at hhalf hpos ⊢
    generalize (2 : ℚ) ^ (maxExponent - 2) = top at hhalf ⊢
    nlinarith
  · have hmantissa : (4 * mantissa + 2 : ℚ) ≤ 2 ^ 55 - 6 := by
      have : mantissa + 2 ≤ 2 ^ 53 := by omega
      have : (mantissa : ℚ) + 2 ≤ 2 ^ 53 := by exact_mod_cast this
      linarith
    gcongr

/-- The scale of the digits of a double. -/
theorem scale_le {d : Decimal} {mantissa : Nat} {exponent : Int}
    (h : Representable mantissa exponent) (hbounded : d.Bounded mantissa exponent) :
    d.scale ≤ 308 := by
  obtain ⟨hm, he⟩ := h
  by_contra hlarge
  have hmantissa : (4 * mantissa + 2 : ℚ) ≤ 2 ^ 55 := by
    have : (mantissa : ℚ) + 1 ≤ 2 ^ 53 := by exact_mod_cast hm
    linarith
  have hunit : (2 : ℚ) ^ (exponent - 2) ≤ 2 ^ (maxExponent - 2) :=
    zpow_le_zpow_right₀ one_le_two (by omega)
  have hten : (10 : ℚ) ^ (309 : Nat) ≤ 10 ^ d.scale := by
    rw [← zpow_natCast]
    exact zpow_le_zpow_right₀ (by norm_num) (by omega)
  have hdigits : (1 : ℚ) ≤ d.digits := by exact_mod_cast hbounded.digits_pos
  have hlt : ((2 ^ 55 * 2 ^ 969 : Nat) : ℚ) < (10 ^ 309 : Nat) :=
    Nat.cast_lt.2 (by decide +kernel)
  have hexponent : maxExponent - 2 = (969 : Nat) := rfl
  refine absurd hlt (not_lt.2 ?_)
  calc ((10 ^ 309 : Nat) : ℚ) = 10 ^ 309 := by rw [Nat.cast_pow, Nat.cast_ofNat]
    _ ≤ 10 ^ d.scale := hten
    _ ≤ d.digits * 10 ^ d.scale := le_mul_of_one_le_left (by positivity) hdigits
    _ ≤ (4 * mantissa + 2) * 2 ^ (exponent - 2) := hbounded.value_le
    _ ≤ 2 ^ 55 * 2 ^ (maxExponent - 2) := by gcongr
    _ = (2 ^ 55 * 2 ^ 969 : Nat) := by
      rw [hexponent, zpow_natCast, Nat.cast_mul, Nat.cast_pow, Nat.cast_pow, Nat.cast_ofNat]

theorem shortest_max (negative : Bool) :
    (Numeral.real? negative (shortest (2 ^ 53 - 1) maxExponent).digits
      (shortest (2 ^ 53 - 1) maxExponent).scale).isSome = true := by
  revert negative
  decide +kernel

/-- **The shortest digits of a double are read without overflow.** -/
theorem real?_shortest (negative : Bool) {mantissa : Nat} {exponent : Int}
    (h : Representable mantissa exponent)
    (hbounded : (shortest mantissa exponent).Bounded mantissa exponent) :
    (Numeral.real? negative (shortest mantissa exponent).digits
      (shortest mantissa exponent).scale).isSome = true := by
  by_cases hmax : mantissa = 2 ^ 53 - 1 ∧ exponent = maxExponent
  · obtain ⟨rfl, rfl⟩ := hmax
    exact shortest_max negative
  · have hupper := mul_le_upperEnd h hmax
    have hscaleLe := scale_le h hbounded
    generalize shortest mantissa exponent = d at hbounded hscaleLe ⊢
    rcases lt_or_ge d.scale 0 with hneg | hnonneg
    · exact real?_of_neg _ _ hneg
    · obtain ⟨scale, hscale⟩ := Int.eq_ofNat_of_zero_le hnonneg
      have hvalue : d.digits * 10 ^ scale ≤ upperEnd := by
        have hle := hbounded.value_le.trans hupper
        rw [hscale] at hle
        exact_mod_cast hle
      have hdigits : d.digits ≤ topDigits scale :=
        Nat.le_min.2 ⟨hbounded.digits_le, (Nat.le_div_iff_mul_le (by positivity)).2 hvalue⟩
      rw [hscale]
      exact real?_of_le_topDigits negative hbounded.digits_pos (by omega) hdigits

/-! ## Every number -/

theorem numberText_finite (negative : Bool) (mantissa : Nat) (exponent : Int) :
    numberText (.real (.finite negative mantissa exponent)) = signText negative ++
      if mantissa = 0 then ['0', '.', '0']
      else
        let d := shortest mantissa exponent
        let digits := Nat.toDigits 10 d.digits
        let place := digits.length - 1 + d.scale
        if Number.positionalFrom ≤ place && place ≤ Number.positionalTo then
          Number.positional digits place
        else Number.exponential realStyle digits place := by
  rw [numberText, Number.realText, String.toList_ofList]
  rfl

theorem numberOf?_zero : ∀ negative,
    (numberOf? (signText negative ++ ['0', '.', '0'])).isSome = true := by decide

theorem numberOf?_finite (negative : Bool) {mantissa : Nat} {exponent : Int}
    (h : Representable mantissa exponent) :
    (numberOf? (numberText (.real (.finite negative mantissa exponent)))).isSome = true := by
  rw [numberText_finite]
  split
  · exact numberOf?_zero negative
  · rename_i hm
    have hpos := Nat.pos_of_ne_zero hm
    rcases shortest_spec hpos exponent with hzero | hbounded
    · rw [hzero]
      exact numberOf?_zero negative
    · have hreal := real?_shortest negative h hbounded
      have hscale := scale_le h hbounded
      have hlength : (Nat.toDigits 10 (shortest mantissa exponent).digits).length ≤ 18 :=
        (Nat.length_toDigits_le_iff (by decide) (by decide)).2
          (hbounded.digits_le.trans_lt (by decide))
      have hmax : (shortest mantissa exponent).digits ≤ Numeral.maxSignificand :=
        hbounded.digits_le.trans (by decide)
      generalize shortest mantissa exponent = d at *
      simp only [Bool.and_eq_true, decide_eq_true_eq]
      split
      · rename_i hplace
        rcases lt_or_ge ((Nat.toDigits 10 d.digits).length - 1 + d.scale) 0 with hneg | hnonneg
        · exact numberOf?_positional_neg negative hmax hneg
        · exact numberOf?_positional_nonneg negative hbounded.digits_pos hbounded.digits_le hnonneg
            hplace.2
      · have hle := hbounded.le_scale
        have hplace : ((Nat.toDigits 10 d.digits).length - 1 + d.scale).natAbs
            ≤ Numeral.maxExponent := by
          simp only [Numeral.maxExponent, Nat.pow_eq]
          omega
        rw [numberOf?_exponential negative hbounded.digits_pos hmax hplace, Int.add_comm,
          Int.add_sub_cancel]
        exact hreal

/-- **The text of a number that is held spells a number, or says that there is none.** -/
theorem legibleNumber_of_held : ∀ {value : Number}, value.Held → LegibleNumber value
  | .integer _, h => .inl (numberOf?_integer h.1 h.2)
  | .real (.finite negative _ _), h => .inl (numberOf?_finite negative h)
  | .real (.infinite _), _ => .inr rfl
  | .real .nan, _ => .inr rfl

end Json

end RamlExpress
