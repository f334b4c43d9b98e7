import Mathlib.Data.Nat.Cast.Order.Field
import RamlExpress.Number.Shortest
import RamlExpress.Proofs.Number.Rounding

/-!
# Proofs/Number/Shortest — the digits of a double

The shortest decimal of a double is found on a decimal grid, next to the double and not above the
upper end of its interval.  So it has at most seventeen digits, and does not exceed the double by
more than half a unit.

* `Binary64.shortest_spec` — …for every double but zero.
-/

namespace RamlExpress.Binary64

/-! ## Grid points -/

/-- Of the multiples of `unit` next to `mid`, the one in an interval. -/
def neighbour? (closed : Bool) (low mid high unit : Nat) : Option Nat :=
  let inside (n : Nat) : Bool :=
    if closed then low ≤ n * unit && n * unit ≤ high else low < n * unit && n * unit < high
  let below := mid / unit
  let above := below + 1
  match inside below, inside above with
  | true, true =>
    let down := mid - below * unit
    let rise := above * unit - mid
    if down < rise || (down == rise && below % 2 == 0) then some below else some above
  | true, false => some below
  | false, true => some above
  | false, false => none

theorem neighbour?_eq_some {closed : Bool} {low mid high unit n : Nat}
    (h : neighbour? closed low mid high unit = some n) :
    low ≤ n * unit ∧ n * unit ≤ high ∧ n ≤ mid / unit + 1 := by
  have hinside : ∀ k, (if closed then (low ≤ k * unit && k * unit ≤ high : Bool)
      else (low < k * unit && k * unit < high : Bool)) = true →
      low ≤ k * unit ∧ k * unit ≤ high := by
    intro k hk
    cases closed <;> simp at hk <;> omega
  simp only [neighbour?] at h
  split at h
  · rename_i hbelow habove
    split at h
    · obtain rfl := Option.some.inj h
      exact ⟨(hinside _ hbelow).1, (hinside _ hbelow).2, Nat.le_succ _⟩
    · obtain rfl := Option.some.inj h
      exact ⟨(hinside _ habove).1, (hinside _ habove).2, Nat.le_refl _⟩
  · rename_i hbelow _
    obtain rfl := Option.some.inj h
    exact ⟨(hinside _ hbelow).1, (hinside _ hbelow).2, Nat.le_succ _⟩
  · rename_i _ habove
    obtain rfl := Option.some.inj h
    exact ⟨(hinside _ habove).1, (hinside _ habove).2, Nat.le_refl _⟩
  · contradiction

/-- The numerator of a power. -/
def powerUp (base : Nat) (e : Int) : Nat := if 0 ≤ e then Nat.pow base e.toNat else 1

/-- The denominator of a power. -/
def powerDown (base : Nat) (e : Int) : Nat := if e < 0 then Nat.pow base (-e).toNat else 1

theorem powerUp_pos {base : Nat} (h : 0 < base) (e : Int) : 0 < powerUp base e := by
  unfold powerUp
  split
  · exact Nat.pow_pos h
  · exact one_pos

theorem powerDown_pos {base : Nat} (h : 0 < base) (e : Int) : 0 < powerDown base e := by
  unfold powerDown
  split
  · exact Nat.pow_pos h
  · exact one_pos

theorem powerUp_div_powerDown (base : Nat) (e : Int) :
    (powerUp base e : ℚ) / powerDown base e = (base : ℚ) ^ e := by
  unfold powerUp powerDown
  rcases le_or_gt 0 e with h | h
  · rw [if_pos h, if_neg (not_lt.2 h)]
    obtain ⟨k, rfl⟩ := Int.eq_ofNat_of_zero_le h
    simp
  · rw [if_neg (not_le.2 h), if_pos h]
    obtain ⟨k, rfl⟩ : ∃ k : Nat, e = -k := ⟨(-e).toNat, by omega⟩
    simp

theorem onGrid?_eq (mantissa : Nat) (exponent scale : Int) :
    onGrid? mantissa exponent scale =
      neighbour? (mantissa % 2 == 0)
        ((quarters mantissa exponent).1 * powerUp 2 (exponent - 2) * powerDown 10 scale)
        ((quarters mantissa exponent).2.1 * powerUp 2 (exponent - 2) * powerDown 10 scale)
        ((quarters mantissa exponent).2.2 * powerUp 2 (exponent - 2) * powerDown 10 scale)
        (powerUp 10 scale * powerDown 2 (exponent - 2)) := rfl

theorem quarters_fst_pos {mantissa : Nat} (h : 0 < mantissa) (exponent : Int) :
    0 < (quarters mantissa exponent).1 := by
  simp only [quarters]
  split <;> omega

/-- **A grid point that is chosen lies in the interval**, and is next to the number. -/
theorem onGrid?_eq_some {mantissa n : Nat} {exponent scale : Int} (hm : 0 < mantissa)
    (h : onGrid? mantissa exponent scale = some n) :
    0 < n ∧ (n : ℚ) * 10 ^ scale ≤ (4 * mantissa + 2) * 2 ^ (exponent - 2) ∧
      (n : ℚ) ≤ mantissa * 2 ^ exponent / 10 ^ scale + 1 := by
  rw [onGrid?_eq] at h
  obtain ⟨hlow, hhigh, hnear⟩ := neighbour?_eq_some h
  have htwo := powerUp_pos two_pos (exponent - 2)
  have hup := powerDown_pos two_pos (exponent - 2)
  have hten := powerUp_pos (by decide : 0 < 10) scale
  have hacross := powerDown_pos (by decide : 0 < 10) scale
  have hq := quarters_fst_pos hm exponent
  have hpow2 : (2 : ℚ) ^ (exponent - 2)
      = powerUp 2 (exponent - 2) / powerDown 2 (exponent - 2) := by
    rw [powerUp_div_powerDown, Nat.cast_ofNat]
  have hpow10 : (10 : ℚ) ^ scale = powerUp 10 scale / powerDown 10 scale := by
    rw [powerUp_div_powerDown, Nat.cast_ofNat]
  have hquarter : (2 : ℚ) ^ exponent = 4 * 2 ^ (exponent - 2) := by
    rw [zpow_sub₀ two_ne_zero]
    norm_num
    ring
  refine ⟨?_, ?_, ?_⟩
  · have hpos := Nat.mul_pos (Nat.mul_pos hq htwo) hacross
    exact Nat.pos_of_mul_pos_right (hpos.trans_le hlow)
  · rw [hpow10, hpow2, mul_div_assoc', mul_div_assoc',
      div_le_div_iff₀ (by positivity) (by positivity)]
    have hcast : (n : ℚ) * (powerUp 10 scale * powerDown 2 (exponent - 2))
        ≤ (4 * mantissa + 2) * powerUp 2 (exponent - 2) * powerDown 10 scale := by
      exact_mod_cast hhigh
    linarith
  · have hmid : ((4 * mantissa * powerUp 2 (exponent - 2) * powerDown 10 scale : Nat) : ℚ)
        / (powerUp 10 scale * powerDown 2 (exponent - 2) : Nat)
        = mantissa * 2 ^ exponent / 10 ^ scale := by
      rw [hpow10, hquarter, hpow2]
      push_cast
      field_simp
    calc (n : ℚ) ≤ ((quarters mantissa exponent).2.1 * powerUp 2 (exponent - 2) * powerDown 10 scale
          / (powerUp 10 scale * powerDown 2 (exponent - 2)) + 1 : Nat) := by exact_mod_cast hnear
      _ ≤ mantissa * 2 ^ exponent / 10 ^ scale + 1 := by
        rw [← hmid, Nat.cast_add, Nat.cast_one]
        exact add_le_add_left Nat.cast_div_le 1


/-! ## Digits and scale -/

theorem lt_ten_pow_digitCount (n : Nat) : n < 10 ^ digitCount n :=
  (Nat.length_toDigits_le_iff (by decide) Nat.length_toDigits_pos).1 (Nat.le_refl _)

/-- A number lies below the power of ten that its digits up to some place give. -/
theorem lt_ten_zpow_digitCount (places mantissa : Nat) (exponent : Int) :
    (mantissa : ℚ) * 2 ^ exponent <
      10 ^ ((digitCount ((scaled (mantissa * Nat.pow 10 places) 1 (-exponent)).1
        / (scaled (mantissa * Nat.pow 10 places) 1 (-exponent)).2) : Int) - places) := by
  have hscaled := scaled_div (mantissa * Nat.pow 10 places) 1 (-exponent)
  have hpos := scaled_snd_pos (mantissa * Nat.pow 10 places) one_pos (-exponent)
  generalize scaled (mantissa * Nat.pow 10 places) 1 (-exponent) = quotient at hscaled hpos ⊢
  have hfloor : (quotient.1 : ℚ) / quotient.2 < (quotient.1 / quotient.2 + 1 : Nat) := by
    rw [div_lt_iff₀ (by exact_mod_cast hpos)]
    exact_mod_cast (Nat.div_lt_iff_lt_mul hpos).1 (Nat.lt_succ_self _)
  have hdigits : ((quotient.1 / quotient.2 + 1 : Nat) : ℚ)
      ≤ 10 ^ digitCount (quotient.1 / quotient.2) := by
    exact_mod_cast lt_ten_pow_digitCount _
  rw [zpow_sub₀ (by norm_num), zpow_natCast, zpow_natCast, lt_div_iff₀ (by positivity)]
  calc (mantissa : ℚ) * 2 ^ exponent * 10 ^ places = quotient.1 / quotient.2 := by
        rw [hscaled, zpow_neg, Nat.pow_eq]
        push_cast
        field_simp
    _ < (quotient.1 / quotient.2 + 1 : Nat) := hfloor
    _ ≤ 10 ^ digitCount (quotient.1 / quotient.2) := hdigits

/-- **A number lies below the power of ten above its magnitude.** -/
theorem lt_ten_zpow_magnitude (mantissa : Nat) (exponent : Int) :
    (mantissa : ℚ) * 2 ^ exponent < 10 ^ (magnitude mantissa exponent + 1) := by
  obtain ⟨places, hmagnitude⟩ : ∃ places : Nat, magnitude mantissa exponent =
      digitCount ((scaled (mantissa * Nat.pow 10 places) 1 (-exponent)).1
        / (scaled (mantissa * Nat.pow 10 places) 1 (-exponent)).2) - 1 - places :=
    ⟨330, rfl⟩
  refine (lt_ten_zpow_digitCount places mantissa exponent).trans_eq ?_
  rw [hmagnitude]
  congr 1
  omega

theorem neg_le_magnitude (mantissa : Nat) (exponent : Int) :
    -330 ≤ magnitude mantissa exponent := by
  have hpos : ∀ n, 1 ≤ digitCount n := fun n => Nat.length_toDigits_pos
  have := hpos ((scaled (mantissa * Nat.pow 10 330) 1 (-exponent)).1
    / (scaled (mantissa * Nat.pow 10 330) 1 (-exponent)).2)
  simp only [magnitude]
  omega

/-- Zeros move from the digits into the scale, and nothing else changes. -/
theorem dropZeros_spec (fuel : Nat) {d : Decimal} (h : 0 < d.digits) :
    0 < (dropZeros fuel d).digits ∧ (dropZeros fuel d).digits ≤ d.digits ∧
      d.scale ≤ (dropZeros fuel d).scale ∧
      ((dropZeros fuel d).digits : ℚ) * 10 ^ (dropZeros fuel d).scale
        = d.digits * 10 ^ d.scale := by
  induction fuel generalizing d with
  | zero => exact ⟨h, Nat.le_refl _, le_refl _, rfl⟩
  | succ fuel ih =>
    rw [dropZeros]
    split
    · rename_i hzero
      obtain ⟨hne, hmod⟩ : d.digits ≠ 0 ∧ d.digits % 10 = 0 := by simpa using hzero
      obtain ⟨hpos, hle, hscale, hvalue⟩ :=
        ih (d := ⟨d.digits / 10, d.scale + 1⟩) (by dsimp only; omega)
      dsimp only at hle hscale hvalue
      refine ⟨hpos, by omega, by omega, hvalue.trans ?_⟩
      have hten : (d.digits : ℚ) = (d.digits / 10 : Nat) * 10 := by
        exact_mod_cast (Nat.div_mul_cancel (Nat.dvd_of_mod_eq_zero hmod)).symm
      rw [hten, zpow_add₀ (by norm_num)]
      ring
    · exact ⟨h, Nat.le_refl _, le_refl _, rfl⟩

/-- What is known of the digits that are written for a double. -/
structure Decimal.Bounded (d : Decimal) (mantissa : Nat) (exponent : Int) : Prop where
  digits_pos : 0 < d.digits
  digits_le : d.digits ≤ 10 ^ 17
  le_scale : -346 ≤ d.scale
  value_le : (d.digits : ℚ) * 10 ^ d.scale ≤ (4 * mantissa + 2) * 2 ^ (exponent - 2)

theorem bounded_of_onGrid? {mantissa n more : Nat} {exponent : Int} (hm : 0 < mantissa)
    (hmore : more < 17)
    (h : onGrid? mantissa exponent (magnitude mantissa exponent - more) = some n) :
    (dropZeros 20 ⟨n, magnitude mantissa exponent - more⟩).Bounded mantissa exponent := by
  obtain ⟨hn, hvalue, hnear⟩ := onGrid?_eq_some hm h
  obtain ⟨hpos, hle, hscale, heq⟩ := dropZeros_spec 20
    (d := ⟨n, magnitude mantissa exponent - more⟩) hn
  have hmagnitude := neg_le_magnitude mantissa exponent
  have hlt : (n : ℚ) < (10 ^ (more + 1) + 1 : Nat) := by
    have hpow : (10 : ℚ) ^ (more + 1) * 10 ^ (magnitude mantissa exponent - more)
        = 10 ^ (magnitude mantissa exponent + 1) := by
      rw [← zpow_natCast, ← zpow_add₀ (by norm_num)]
      congr 1
      push_cast
      ring
    have hdiv : (mantissa : ℚ) * 2 ^ exponent / 10 ^ (magnitude mantissa exponent - more)
        < 10 ^ (more + 1) := by
      rw [div_lt_iff₀ (by positivity), hpow]
      exact lt_ten_zpow_magnitude mantissa exponent
    push_cast
    linarith
  have hdigits : n ≤ 10 ^ (more + 1) := Nat.lt_succ_iff.1 (by exact_mod_cast hlt)
  have hpow : 10 ^ (more + 1) ≤ 10 ^ 17 := Nat.pow_le_pow_right (by decide) hmore
  exact ⟨hpos, hle.trans (hdigits.trans hpow), by dsimp only at hscale; omega, heq.trans_le hvalue⟩

/-- **The digits that are written for a double.** -/
theorem shortest_spec {mantissa : Nat} (hm : 0 < mantissa) (exponent : Int) :
    shortest mantissa exponent = ⟨0, 0⟩
      ∨ (shortest mantissa exponent).Bounded mantissa exponent := by
  unfold shortest
  simp only
  generalize hfound : List.findSome? _ (List.range 17) = found
  cases found with
  | none => exact .inl rfl
  | some d =>
    obtain ⟨more, hmore, hd⟩ := List.exists_of_findSome?_eq_some hfound
    obtain ⟨n, hn, rfl⟩ := Option.map_eq_some_iff.1 hd
    exact .inr (bounded_of_onGrid? hm (List.mem_range.1 hmore) hn)

end RamlExpress.Binary64
