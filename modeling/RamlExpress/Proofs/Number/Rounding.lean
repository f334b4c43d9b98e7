import Mathlib.Algebra.Order.Field.Power
import Mathlib.Tactic.FieldSimp
import Mathlib.Tactic.Linarith
import Mathlib.Tactic.NormNum
import Mathlib.Tactic.Positivity
import Mathlib.Tactic.Ring
import RamlExpress.Number.Binary64

/-!
# Proofs/Number/Rounding — how far the nearest double is

The exponent of a double puts the quotient it rounds between `2 ^ 52` and `2 ^ 53` of its units, so
the mantissa fits into 53 bits, what lies below the greatest double stays finite, and the error is
half a unit.

* `Binary64.ofRatio_representable` — a finite result has the mantissa and the exponent of a double.
* `Binary64.ofRatio_eq_finite` — below the overflow threshold the result is finite.
* `Binary64.ofRatio_natural_le` — a natural number rounds up by half a unit at most.
-/

namespace RamlExpress.Binary64

/-- The mantissa and the exponent of a finite double. -/
def Representable (mantissa : Nat) (exponent : Int) : Prop :=
  mantissa < 2 ^ 53 ∧ exponent ≤ maxExponent

instance (mantissa : Nat) (exponent : Int) : Decidable (Representable mantissa exponent) :=
  inferInstanceAs (Decidable (_ ∧ _))

/-- What lies below rounds to a finite double: the greatest one and half a unit. -/
@[irreducible] def overflow : Nat := (2 ^ 54 - 1) * 2 ^ 970

theorem overflow_eq : overflow = (2 ^ 54 - 1) * 2 ^ 970 := by unfold overflow; rfl

/-! ## Quotients -/

theorem scaled_snd_pos (num : Nat) {den : Nat} (hden : 0 < den) (e : Int) :
    0 < (scaled num den e).2 := by
  unfold scaled
  split
  · exact Nat.mul_pos hden (Nat.pow_pos (by decide))
  · exact hden

/-- **`scaled` divides by a power of two.** -/
theorem scaled_div (num den : Nat) (e : Int) :
    ((scaled num den e).1 : ℚ) / (scaled num den e).2 = num / den / 2 ^ e := by
  unfold scaled
  split
  · rename_i h
    obtain ⟨k, rfl⟩ := Int.eq_ofNat_of_zero_le h
    simp [div_div]
  · rename_i h
    obtain ⟨k, rfl⟩ : ∃ k : Nat, e = -k := ⟨(-e).toNat, by omega⟩
    simp [mul_div_right_comm]

/-- Rounding a quotient adds half a unit at most. -/
theorem roundDiv_le (num : Nat) {den : Nat} (hden : 0 < den) :
    2 * den * roundDiv num den ≤ 2 * num + den := by
  have hdiv := Nat.div_add_mod num den
  have hmod := Nat.mod_lt num hden
  have hsucc : 2 * den * (num / den + 1) = 2 * (den * (num / den)) + 2 * den := by ring
  have hsame : 2 * den * (num / den) = 2 * (den * (num / den)) := by ring
  unfold roundDiv
  simp only [Bool.or_eq_true, decide_eq_true_eq, Bool.and_eq_true, beq_iff_eq]
  split
  · rw [hsucc]
    omega
  · rw [hsame]
    omega

theorem roundDiv_one (num : Nat) : roundDiv num 1 = num := by
  simp [roundDiv, Nat.mod_one]

/-- …and a quotient below a natural number by half a unit does not reach it. -/
theorem roundDiv_lt {num den bound : Nat} (hden : 0 < den) (h : 2 * num + den < 2 * den * bound) :
    roundDiv num den < bound :=
  lt_of_mul_lt_mul_left ((roundDiv_le num hden).trans_lt h) (Nat.zero_le _)

/-! ## The exponent -/

section Exponent

variable {num den : Nat}

theorem div_lt_two_zpow (num : Nat) (hden : 0 < den) :
    (num : ℚ) / den < 2 ^ ((num.log2 : Int) - den.log2 + 1) := by
  have hnum : (num : ℚ) < 2 ^ (num.log2 + 1) := by exact_mod_cast Nat.lt_log2_self
  have hle : (2 : ℚ) ^ den.log2 ≤ den := by exact_mod_cast Nat.log2_self_le hden.ne'
  have hpow : (2 : ℚ) ^ ((num.log2 : Int) - den.log2 + 1) * 2 ^ den.log2 = 2 ^ (num.log2 + 1) := by
    rw [← zpow_natCast, ← zpow_add₀ two_ne_zero, ← zpow_natCast]
    congr 1
    push_cast
    ring
  rw [div_lt_iff₀ (by exact_mod_cast hden)]
  calc (num : ℚ) < 2 ^ (num.log2 + 1) := hnum
    _ = 2 ^ ((num.log2 : Int) - den.log2 + 1) * 2 ^ den.log2 := hpow.symm
    _ ≤ 2 ^ ((num.log2 : Int) - den.log2 + 1) * den := by gcongr

theorem two_zpow_le_div (hnum : 0 < num) (hden : 0 < den) :
    (2 : ℚ) ^ ((num.log2 : Int) - den.log2 - 1) ≤ num / den := by
  have hle : (2 : ℚ) ^ num.log2 ≤ num := by exact_mod_cast Nat.log2_self_le hnum.ne'
  have hlt : (den : ℚ) < 2 ^ (den.log2 + 1) := by exact_mod_cast Nat.lt_log2_self
  have hpow : (2 : ℚ) ^ ((num.log2 : Int) - den.log2 - 1) * 2 ^ (den.log2 + 1) = 2 ^ num.log2 := by
    rw [← zpow_natCast, ← zpow_add₀ two_ne_zero, ← zpow_natCast]
    congr 1
    push_cast
    ring
  rw [le_div_iff₀ (by exact_mod_cast hden)]
  calc (2 : ℚ) ^ ((num.log2 : Int) - den.log2 - 1) * den
      ≤ 2 ^ ((num.log2 : Int) - den.log2 - 1) * 2 ^ (den.log2 + 1) := by gcongr
    _ = 2 ^ num.log2 := hpow
    _ ≤ num := hle

/-- A quotient has fewer than 53 bits at an exponent just if it is less than `2 ^ 53` units. -/
theorem scaled_div_lt_iff (num : Nat) (hden : 0 < den) (e : Int) :
    (scaled num den e).1 / (scaled num den e).2 < 2 ^ 53 ↔ (num : ℚ) / den < 2 ^ 53 * 2 ^ e := by
  have hpos : (0 : ℚ) < (scaled num den e).2 := by exact_mod_cast scaled_snd_pos num hden e
  rw [← div_lt_iff₀ (by positivity : (0 : ℚ) < 2 ^ e), ← scaled_div, div_lt_iff₀ hpos,
    Nat.div_lt_iff_lt_mul (scaled_snd_pos num hden e)]
  exact_mod_cast Iff.rfl

/-- **At its exponent a quotient is less than `2 ^ 53` units.** -/
theorem div_lt_exponentOf (num : Nat) (hden : 0 < den) :
    (num : ℚ) / den < 2 ^ 53 * 2 ^ exponentOf num den := by
  have hlt := div_lt_two_zpow num hden
  unfold exponentOf
  simp only [Nat.pow_eq]
  split
  · rename_i hsmall
    refine ((scaled_div_lt_iff num hden _).1 hsmall).trans_le ?_
    gcongr
    · norm_num
    · exact le_max_right ..
  · refine hlt.trans_le ?_
    rw [show (2 : ℚ) ^ 53 = 2 ^ (53 : Int) by norm_num, ← zpow_add₀ two_ne_zero]
    refine zpow_le_zpow_right₀ one_le_two ?_
    omega

/-- …and at least `2 ^ 52` units, unless the exponent is the least one. -/
theorem exponentOf_le_div (hnum : 0 < num) (hden : 0 < den)
    (h : minExponent < exponentOf num den) :
    (2 : ℚ) ^ 52 * 2 ^ exponentOf num den ≤ num / den := by
  have hle := two_zpow_le_div hnum hden
  unfold exponentOf at h ⊢
  simp only [Nat.pow_eq] at h ⊢
  rw [max_eq_right (by omega)]
  split
  · refine le_trans (le_of_eq ?_) hle
    rw [show (2 : ℚ) ^ 52 = 2 ^ (52 : Int) by norm_num, ← zpow_add₀ two_ne_zero]
    congr 1
    ring
  · rename_i hlarge
    have hge := not_lt.1 (mt (scaled_div_lt_iff num hden _).2 hlarge)
    refine le_trans (le_of_eq ?_) hge
    rw [zpow_add₀ two_ne_zero]
    norm_num
    ring

/-- The mantissa at that exponent, before a carry is taken out. -/
def mantissaOf (num den : Nat) : Nat :=
  roundDiv (scaled num den (exponentOf num den)).1 (scaled num den (exponentOf num den)).2

theorem mantissaOf_le (num : Nat) (hden : 0 < den) : mantissaOf num den ≤ 2 ^ 53 := by
  have hpos := scaled_snd_pos num hden (exponentOf num den)
  have hlt := (scaled_div_lt_iff num hden _).2 (div_lt_exponentOf num hden)
  rw [Nat.div_lt_iff_lt_mul hpos] at hlt
  refine Nat.lt_succ_iff.1 (roundDiv_lt hpos ?_)
  rw [Nat.succ_eq_add_one, Nat.mul_add, Nat.mul_assoc 2, Nat.mul_comm _ (2 ^ 53)]
  omega

theorem ofRatio_of_pos (negative : Bool) (hnum : 0 < num) :
    ofRatio negative num den =
      if mantissaOf num den = 2 ^ 53 then
        if maxExponent < exponentOf num den + 1 then .infinite negative
        else .finite negative (2 ^ 52) (exponentOf num den + 1)
      else if maxExponent < exponentOf num den then .infinite negative
      else .finite negative (mantissaOf num den) (exponentOf num den) := by
  unfold ofRatio mantissaOf
  rw [if_neg hnum.ne']
  simp only [Nat.pow_eq]
  by_cases hcarry : roundDiv (scaled num den (exponentOf num den)).1
      (scaled num den (exponentOf num den)).2 = 2 ^ 53
  · simp only [hcarry, if_true]
  · simp only [hcarry, if_false]

end Exponent

/-! ## The nearest double -/

/-- **A finite result has the mantissa and the exponent of a double.** -/
theorem ofRatio_representable {negative s : Bool} {num den m : Nat} {e : Int} (hden : 0 < den)
    (h : ofRatio negative num den = .finite s m e) : Representable m e := by
  rcases Nat.eq_zero_or_pos num with rfl | hnum
  · simp only [ofRatio, if_pos, zero, Binary64.finite.injEq] at h
    obtain ⟨-, rfl, rfl⟩ := h
    decide
  · have hle := mantissaOf_le num hden
    rw [ofRatio_of_pos negative hnum] at h
    split at h
    · split at h
      · contradiction
      · obtain ⟨-, rfl, rfl⟩ := Binary64.finite.inj h
        exact ⟨by decide, by omega⟩
    · split at h
      · contradiction
      · obtain ⟨-, rfl, rfl⟩ := Binary64.finite.inj h
        exact ⟨by omega, by omega⟩

/-- The exponent of a quotient below the overflow threshold. -/
theorem exponentOf_le_maxExponent {num den : Nat} (hnum : 0 < num) (hden : 0 < den)
    (h : num < den * overflow) : exponentOf num den ≤ maxExponent := by
  by_contra hlarge
  simp only [maxExponent, not_le] at hlarge
  have hmin : minExponent < exponentOf num den := by
    simp only [minExponent]
    omega
  have hlt : (num : ℚ) / den < overflow := by
    rw [div_lt_iff₀ (by exact_mod_cast hden), mul_comm]
    exact_mod_cast h
  have hbound : (overflow : ℚ) ≤ (2 ^ 52 * 2 ^ 972 : Nat) := by
    exact_mod_cast (by decide +kernel : overflow ≤ 2 ^ 52 * 2 ^ 972)
  refine lt_irrefl (overflow : ℚ) ?_
  calc (overflow : ℚ) ≤ (2 ^ 52 * 2 ^ 972 : Nat) := hbound
    _ = 2 ^ 52 * 2 ^ ((972 : Nat) : Int) := by
      rw [zpow_natCast, Nat.cast_mul, Nat.cast_pow, Nat.cast_pow, Nat.cast_ofNat]
    _ ≤ 2 ^ 52 * 2 ^ exponentOf num den := by
      refine mul_le_mul_of_nonneg_left (zpow_le_zpow_right₀ one_le_two ?_) (by positivity)
      omega
    _ ≤ num / den := exponentOf_le_div hnum hden hmin
    _ < overflow := hlt

theorem mantissaOf_lt {num den : Nat} (hden : 0 < den) (h : num < den * overflow)
    (hexponent : exponentOf num den = maxExponent) : mantissaOf num den < 2 ^ 53 := by
  rw [mantissaOf, hexponent, scaled, if_pos (by decide), Nat.pow_eq]
  generalize hunit : 2 ^ maxExponent.toNat = unit
  have hpos : 0 < unit := hunit ▸ Nat.two_pow_pos _
  have hoverflow : 2 * (unit * 2 ^ 53) = 2 * overflow + unit := by
    have hexponent : maxExponent.toNat = 970 + 1 := rfl
    rw [overflow_eq, ← hunit, hexponent, pow_succ']
    generalize 2 ^ 970 = half
    omega
  refine roundDiv_lt (Nat.mul_pos hden hpos) ?_
  calc 2 * num + den * unit < 2 * (den * overflow) + den * unit :=
      Nat.add_lt_add_right (Nat.mul_lt_mul_of_pos_left h two_pos) _
    _ = den * (2 * overflow + unit) := by ring
    _ = den * (2 * (unit * 2 ^ 53)) := by rw [hoverflow]
    _ = 2 * (den * unit) * 2 ^ 53 := by ring

/-- **Below the overflow threshold the result is finite.** -/
theorem ofRatio_eq_finite (negative : Bool) {num den : Nat} (hden : 0 < den)
    (h : num < den * overflow) : ∃ m e, ofRatio negative num den = .finite negative m e := by
  rcases Nat.eq_zero_or_pos num with rfl | hnum
  · exact ⟨0, minExponent, rfl⟩
  · have hle := exponentOf_le_maxExponent hnum hden h
    rw [ofRatio_of_pos negative hnum]
    split
    · rename_i hcarry
      have hne : exponentOf num den ≠ maxExponent := by
        intro hexponent
        exact (mantissaOf_lt hden h hexponent).ne hcarry
      rw [if_neg (by omega)]
      exact ⟨_, _, rfl⟩
    · rw [if_neg (by omega)]
      exact ⟨_, _, rfl⟩

/-- A carry does not change what mantissa and exponent stand for. -/
theorem ofRatio_value {negative s : Bool} {num den m : Nat} {e : Int} (hnum : 0 < num)
    (h : ofRatio negative num den = .finite s m e) :
    (m : ℚ) * 2 ^ e = mantissaOf num den * 2 ^ exponentOf num den := by
  rw [ofRatio_of_pos negative hnum] at h
  split at h
  · rename_i hcarry
    split at h
    · contradiction
    · obtain ⟨-, rfl, rfl⟩ := Binary64.finite.inj h
      rw [hcarry, zpow_add₀ two_ne_zero]
      push_cast
      ring
  · split at h
    · contradiction
    · obtain ⟨-, rfl, rfl⟩ := Binary64.finite.inj h
      rfl

/-- The mantissa of a natural number that has no more than 53 bits is exact. -/
theorem mantissaOf_natural_of_nonpos {n : Nat} (h : exponentOf n 1 ≤ 0) :
    (mantissaOf n 1 : ℚ) * 2 ^ exponentOf n 1 = n := by
  obtain ⟨k, hk⟩ : ∃ k : Nat, exponentOf n 1 = -k := ⟨(-exponentOf n 1).toNat, by omega⟩
  have hmantissa : mantissaOf n 1 = n * 2 ^ k := by
    rw [mantissaOf, hk]
    rcases Nat.eq_zero_or_pos k with rfl | hpos
    · simp [scaled, roundDiv_one]
    · rw [scaled, if_neg (by omega), Int.neg_neg, Int.toNat_natCast, Nat.pow_eq, roundDiv_one]
  rw [hmantissa, hk, zpow_neg, zpow_natCast]
  push_cast
  field_simp

/-- **A natural number rounds up by half a unit at most.** -/
theorem ofRatio_natural_le {negative s : Bool} {n m : Nat} {e : Int} (hn : 0 < n)
    (h : ofRatio negative n 1 = .finite s m e) :
    (m : ℚ) * 2 ^ e ≤ (n + 2 ^ (n.log2 - 52) / 2 : Nat) := by
  rw [ofRatio_value hn h]
  rcases le_or_gt (exponentOf n 1) 0 with hnonpos | hpos
  · rw [mantissaOf_natural_of_nonpos hnonpos]
    exact_mod_cast Nat.le_add_right ..
  · obtain ⟨k, hk⟩ : ∃ k : Nat, exponentOf n 1 = (k + 1 : Nat) :=
      ⟨(exponentOf n 1).toNat - 1, by omega⟩
    have hlog : k + 1 ≤ n.log2 - 52 := by
      have hle := exponentOf_le_div hn one_pos (by rw [hk, minExponent]; omega)
      rw [hk, zpow_natCast, Nat.cast_one, div_one, ← pow_add] at hle
      have hpow : 2 ^ (52 + (k + 1)) ≤ n := by exact_mod_cast hle
      have := (Nat.le_log2 hn.ne').2 hpow
      omega
    have hround := roundDiv_le n (Nat.pow_pos two_pos : 0 < 2 ^ (k + 1))
    have hmantissa : mantissaOf n 1 = roundDiv n (2 ^ (k + 1)) := by
      rw [mantissaOf, hk, scaled, if_pos (by omega), Int.toNat_natCast, Nat.pow_eq, one_mul]
    have hmono : 2 ^ (k + 1) ≤ 2 ^ (n.log2 - 52) := Nat.pow_le_pow_right two_pos hlog
    rw [hmantissa, hk, zpow_natCast]
    have hnat : roundDiv n (2 ^ (k + 1)) * 2 ^ (k + 1) ≤ n + 2 ^ (n.log2 - 52) / 2 := by
      have hcomm : 2 * 2 ^ (k + 1) * roundDiv n (2 ^ (k + 1))
          = 2 * (roundDiv n (2 ^ (k + 1)) * 2 ^ (k + 1)) := by ring
      omega
    exact_mod_cast hnat

end RamlExpress.Binary64
