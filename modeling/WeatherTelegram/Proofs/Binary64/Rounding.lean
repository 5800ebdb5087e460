import Mathlib.Algebra.Order.Floor.Semifield
import Mathlib.Data.Nat.Cast.Order.Field
import Mathlib.Data.Rat.Floor
import Mathlib.Tactic.FieldSimp
import Mathlib.Tactic.Linarith
import Mathlib.Tactic.Positivity
import Mathlib.Tactic.Ring
import WeatherTelegram.Binary64.Basic

/-!
# `Proofs.Binary64.Rounding` — how far rounding moves a quotient, and that it keeps order

All statements compare step counts with the exact quotient as rational numbers. A rounded magnitude is
within half a unit in the last place of the quotient, larger quotients round to no smaller magnitudes,
and a quotient that has at most 53 binary places is not moved at all.

## Contents
- **One integer.** `abs_roundHalfEven_sub_le`, `roundHalfEven_eq_of_abs_lt`, `roundHalfEven_mono`.
- **One magnitude.** `steps_of_nearest?`, `exists_nearest?`, `abs_steps_sub_le`, `steps_le_of_le`.
- **Exactness.** `exists_nearest?_exact`.
-/

namespace WeatherTelegram

/-! ## Rounding a quotient to an integer -/

/-- The quotient as its whole part and a proper fraction. -/
theorem quotient_eq_div_add (num : ℕ) {den : ℕ} (hden : 0 < den) :
    (num : ℚ) / den = (num / den : ℕ) + ((num % den : ℕ) : ℚ) / den := by
  have hpos : (0 : ℚ) < den := by exact_mod_cast hden
  have hdiv : (num : ℚ) = (num / den : ℕ) * den + (num % den : ℕ) := by
    exact_mod_cast (Nat.div_add_mod' num den).symm
  rw [hdiv]
  field_simp

/-- Rounding keeps the whole part when the fraction is at most one half and else goes one up. -/
theorem roundHalfEven_cases (num den : ℕ) :
    (roundHalfEven num den = num / den ∧ 2 * (num % den) ≤ den) ∨
      (roundHalfEven num den = num / den + 1 ∧ den ≤ 2 * (num % den)) := by
  unfold roundHalfEven
  split
  · exact .inl ⟨rfl, by omega⟩
  · split
    · exact .inr ⟨rfl, by omega⟩
    · rcases Nat.mod_two_eq_zero_or_one (num / den) with h | h
      · exact .inl ⟨by omega, by omega⟩
      · exact .inr ⟨by omega, by omega⟩

/-- The quotient lies within one half of its rounding. -/
theorem abs_roundHalfEven_sub_le (num : ℕ) {den : ℕ} (hden : 0 < den) :
    |(roundHalfEven num den : ℚ) - num / den| ≤ 1 / 2 := by
  have hpos : (0 : ℚ) < den := by exact_mod_cast hden
  have hlt : ((num % den : ℕ) : ℚ) / den < 1 := by
    rw [div_lt_one hpos]
    exact_mod_cast Nat.mod_lt num hden
  have hnonneg : 0 ≤ ((num % den : ℕ) : ℚ) / den := by positivity
  rw [quotient_eq_div_add num hden]
  rcases roundHalfEven_cases num den with ⟨hr, h⟩ | ⟨hr, h⟩
  · have hle : ((num % den : ℕ) : ℚ) / den ≤ 1 / 2 := by
      rw [div_le_iff₀ hpos]
      have : (2 : ℚ) * (num % den : ℕ) ≤ den := by exact_mod_cast h
      linarith
    rw [hr, abs_le]
    constructor <;> linarith
  · have hle : 1 / 2 ≤ ((num % den : ℕ) : ℚ) / den := by
      rw [le_div_iff₀ hpos]
      have : (den : ℚ) ≤ 2 * (num % den : ℕ) := by exact_mod_cast h
      linarith
    rw [hr, abs_le]
    push_cast
    constructor <;> linarith

/-- An integer less than one half away from the quotient is its rounding. -/
theorem roundHalfEven_eq_of_abs_lt {num den n : ℕ} (hden : 0 < den)
    (h : |(n : ℚ) - num / den| < 1 / 2) : roundHalfEven num den = n := by
  have hr := abs_le.mp (abs_roundHalfEven_sub_le num hden)
  have hn := abs_lt.mp h
  have hlt : (roundHalfEven num den : ℚ) < n + 1 := by linarith
  have hgt : (n : ℚ) < roundHalfEven num den + 1 := by linarith
  have hlt' : roundHalfEven num den < n + 1 := by exact_mod_cast hlt
  have hgt' : n < roundHalfEven num den + 1 := by exact_mod_cast hgt
  omega

/-- A quotient exactly between two integers goes to the even one. -/
theorem roundHalfEven_even_of_tie {num den : ℕ} (hden : 0 < den)
    (h : |(roundHalfEven num den : ℚ) - num / den| = 1 / 2) : roundHalfEven num den % 2 = 0 := by
  have hpos : (0 : ℚ) < den := by exact_mod_cast hden
  rw [quotient_eq_div_add num hden] at h
  have hne : (den : ℚ) ≠ 0 := ne_of_gt hpos
  have htie : 2 * (num % den) = den := by
    rcases roundHalfEven_cases num den with ⟨hr, _⟩ | ⟨hr, _⟩
    · rw [hr, sub_add_cancel_left, abs_neg, abs_of_nonneg (by positivity), div_eq_iff hne] at h
      have : (2 : ℚ) * (num % den : ℕ) = den := by linarith
      exact_mod_cast this
    · have hlt : ((num % den : ℕ) : ℚ) / den < 1 := by
        rw [div_lt_one hpos]
        exact_mod_cast Nat.mod_lt num hden
      rw [hr] at h
      push_cast at h
      rw [add_sub_add_left_eq_sub, abs_of_nonneg (by linarith), sub_eq_iff_eq_add,
        ← sub_eq_iff_eq_add', eq_comm, div_eq_iff hne] at h
      have : (2 : ℚ) * (num % den : ℕ) = den := by linarith
      exact_mod_cast this
  unfold roundHalfEven
  rw [if_neg (by omega), if_neg (by omega)]
  omega

/-- Larger quotients round to no smaller integers. -/
theorem roundHalfEven_mono {num den num' den' : ℕ} (hden : 0 < den) (hden' : 0 < den')
    (h : (num : ℚ) / den ≤ num' / den') : roundHalfEven num den ≤ roundHalfEven num' den' := by
  by_contra hlt
  have hlt' : roundHalfEven num' den' + 1 ≤ roundHalfEven num den := by omega
  have hcast : (roundHalfEven num' den' : ℚ) + 1 ≤ roundHalfEven num den := by exact_mod_cast hlt'
  have hr := abs_le.mp (abs_roundHalfEven_sub_le num hden)
  have hr' := abs_le.mp (abs_roundHalfEven_sub_le num' hden')
  -- both quotients sit on the one tie between the two integers, which must then both be even
  have htie : (roundHalfEven num den : ℚ) - num / den = 1 / 2 := by linarith
  have htie' : (roundHalfEven num' den' : ℚ) - num' / den' = -(1 / 2) := by linarith
  have heven := roundHalfEven_even_of_tie hden (by rw [htie]; norm_num)
  have heven' := roundHalfEven_even_of_tie hden' (by rw [htie']; norm_num)
  have hsucc : (roundHalfEven num den : ℚ) = roundHalfEven num' den' + 1 := by linarith
  have hsucc' : roundHalfEven num den = roundHalfEven num' den' + 1 := by exact_mod_cast hsucc
  omega

/-! ## Rounding to a magnitude -/

namespace Magnitude

/-- The steps of a rounded quotient, with and without a carry to the next scale. -/
theorem steps_of_nearest? {num den : ℕ} {m : Magnitude} (h : nearest? num den = some m) :
    m.steps = roundedSignificand num den * 2 ^ scaleFor (num / den) := by
  unfold nearest? at h
  by_cases hc : roundedSignificand num den = 2 ^ precision
  · by_cases hs : scaleFor (num / den) + 1 ≤ 2045
    · rw [dif_pos hc, dif_pos hs] at h
      cases h
      rw [hc]
      simp only [steps, precision]
      rw [← pow_add, ← pow_add]
      congr 1
      omega
    · rw [dif_pos hc, dif_neg hs] at h
      cases h
  · by_cases hs : scaleFor (num / den) ≤ 2045
    · rw [dif_neg hc, dif_pos hs] at h
      cases h
      rfl
    · rw [dif_neg hc, dif_neg hs] at h
      cases h

/-- Quotients below the last binade are within range. -/
theorem exists_nearest? {num den : ℕ} (h : num / den < 2 ^ (precision + 2044)) :
    ∃ m, nearest? num den = some m := by
  have hlog : (num / den).log2 < precision + 2044 := by
    by_cases h0 : num / den = 0
    · rw [h0]
      decide
    · exact (Nat.log2_lt h0).mpr h
  have hs : scaleFor (num / den) + 1 ≤ 2045 := by
    unfold scaleFor precision
    unfold precision at hlog
    omega
  unfold nearest?
  by_cases hc : roundedSignificand num den = 2 ^ precision
  · rw [dif_pos hc, dif_pos hs]
    exact ⟨_, rfl⟩
  · rw [dif_neg hc, dif_pos (by omega)]
    exact ⟨_, rfl⟩

/-- The whole part of a quotient has less than 53 binary places above its scale. -/
theorem lt_pow_scaleFor (q : ℕ) : q < 2 ^ (precision + scaleFor q) := by
  have h := div_lt_of_scaleFor q
  rw [Nat.div_lt_iff_lt_mul (Nat.two_pow_pos _)] at h
  rwa [pow_add]

/-- Above the least scale the whole part of a quotient fills 53 binary places. -/
theorem pow_scaleFor_le {q : ℕ} (h : 0 < scaleFor q) : 2 ^ (precision - 1 + scaleFor q) ≤ q := by
  have h' := le_div_of_scaleFor_pos h
  rw [Nat.le_div_iff_mul_le (Nat.two_pow_pos _)] at h'
  rwa [pow_add]

theorem scaleFor_mono {q q' : ℕ} (h : q ≤ q') : scaleFor q ≤ scaleFor q' := by
  by_contra hlt
  have hpos : 0 < scaleFor q := by omega
  have hle := (pow_scaleFor_le hpos).trans h
  have hlt' := hle.trans_lt (lt_pow_scaleFor q')
  have := (Nat.pow_lt_pow_iff_right (by decide : 1 < 2)).mp hlt'
  unfold precision at this
  omega

/-- A quotient of naturals over a scaled denominator, as a rational. -/
theorem cast_div_scaled (num den k : ℕ) :
    (num : ℚ) / (den * 2 ^ k : ℕ) = num / den / 2 ^ k := by
  push_cast
  rw [div_div]

/-- One unit in the last place is one step, or at most the quotient divided by `2 ^ 52`. -/
theorem pow_scaleFor_le_max (num den : ℕ) :
    (2 : ℚ) ^ scaleFor (num / den) ≤ num / den / 2 ^ 52 + 1 := by
  rcases Nat.eq_zero_or_pos (scaleFor (num / den)) with h | h
  · rw [h, pow_zero]
    have : (0 : ℚ) ≤ num / den / 2 ^ 52 := by positivity
    linarith
  · have hle : ((2 ^ (52 + scaleFor (num / den)) : ℕ) : ℚ) ≤ (num / den : ℕ) := by
      exact_mod_cast pow_scaleFor_le h
    have hdiv : ((num / den : ℕ) : ℚ) ≤ num / den := Nat.cast_div_le
    have hmul : (2 : ℚ) ^ scaleFor (num / den) * 2 ^ 52 ≤ num / den := by
      rw [← pow_add, add_comm]
      push_cast at hle
      exact hle.trans hdiv
    have := (le_div_iff₀ (by positivity : (0 : ℚ) < 2 ^ 52)).mpr hmul
    linarith

/-- The rounded magnitude is off by at most half a unit at the scale of the quotient. -/
theorem abs_steps_sub_le_scaleFor {num den : ℕ} (hden : 0 < den) {m : Magnitude}
    (h : nearest? num den = some m) :
    |(m.steps : ℚ) - num / den| ≤ 2 ^ scaleFor (num / den) / 2 := by
  have hscaled : 0 < den * 2 ^ scaleFor (num / den) := Nat.mul_pos hden (Nat.two_pow_pos _)
  have hround := abs_roundHalfEven_sub_le num hscaled
  rw [cast_div_scaled] at hround
  have hpow : (0 : ℚ) < 2 ^ scaleFor (num / den) := by positivity
  have hsteps : (m.steps : ℚ) - num / den
      = (roundedSignificand num den - num / den / 2 ^ scaleFor (num / den))
        * 2 ^ scaleFor (num / den) := by
    rw [steps_of_nearest? h]
    push_cast
    field_simp
  calc |(m.steps : ℚ) - num / den|
      = |(roundedSignificand num den : ℚ) - num / den / 2 ^ scaleFor (num / den)|
          * 2 ^ scaleFor (num / den) := by rw [hsteps, abs_mul, abs_of_pos hpow]
    _ ≤ 1 / 2 * 2 ^ scaleFor (num / den) := mul_le_mul_of_nonneg_right hround hpow.le
    _ = 2 ^ scaleFor (num / den) / 2 := by ring

/-- **The error of one rounding.** The rounded magnitude is off by half a unit in the last place. -/
theorem abs_steps_sub_le {num den : ℕ} (hden : 0 < den) {m : Magnitude}
    (h : nearest? num den = some m) :
    |(m.steps : ℚ) - num / den| ≤ num / den / 2 ^ 53 + 1 / 2 := by
  have herr := abs_steps_sub_le_scaleFor hden h
  have hunit := pow_scaleFor_le_max num den
  linarith

/-- **Rounding keeps order.** -/
theorem steps_mono {num den num' den' : ℕ} (hden : 0 < den) (hden' : 0 < den') {m m' : Magnitude}
    (h : nearest? num den = some m) (h' : nearest? num' den' = some m')
    (hle : (num : ℚ) / den ≤ num' / den') : m.steps ≤ m'.steps := by
  have hfloor : num / den ≤ num' / den' := by
    have := Nat.floor_le_floor hle
    rwa [Nat.floor_div_eq_div, Nat.floor_div_eq_div] at this
  rw [steps_of_nearest? h, steps_of_nearest? h']
  rcases (scaleFor_mono hfloor).eq_or_lt with hs | hs
  · rw [hs]
    apply Nat.mul_le_mul_right
    unfold roundedSignificand
    rw [hs]
    apply roundHalfEven_mono (Nat.mul_pos hden (Nat.two_pow_pos _))
      (Nat.mul_pos hden' (Nat.two_pow_pos _))
    rw [cast_div_scaled, cast_div_scaled]
    exact div_le_div_of_nonneg_right hle (by positivity)
  · -- a whole binade lies between the two results
    have hfull := (full_roundedSignificand num' den').resolve_left (by omega)
    calc roundedSignificand num den * 2 ^ scaleFor (num / den)
        ≤ 2 ^ precision * 2 ^ scaleFor (num / den) :=
          Nat.mul_le_mul_right _ (roundedSignificand_le num den)
      _ = 2 ^ (precision - 1) * 2 ^ (scaleFor (num / den) + 1) := by
          rw [← pow_add, ← pow_add]
          congr 1
          unfold precision
          omega
      _ ≤ 2 ^ (precision - 1) * 2 ^ scaleFor (num' / den') :=
          Nat.mul_le_mul_left _ (Nat.pow_le_pow_right (by decide) hs)
      _ ≤ roundedSignificand num' den' * 2 ^ scaleFor (num' / den') := Nat.mul_le_mul_right _ hfull

/-- **Exactness.** A quotient of at most 53 binary places is a magnitude and is not moved. -/
theorem exists_nearest?_exact {n k den : ℕ} (hden : 0 < den) (hn : n < 2 ^ precision)
    (hk : k ≤ 2044) : ∃ m, nearest? (n * 2 ^ k * den) den = some m ∧ m.steps = n * 2 ^ k := by
  have hquot : n * 2 ^ k * den / den = n * 2 ^ k := Nat.mul_div_cancel _ hden
  have hbound : n * 2 ^ k < 2 ^ (precision + k) := by
    rw [pow_add]
    exact Nat.mul_lt_mul_of_pos_right hn (Nat.two_pow_pos _)
  have hrange : n * 2 ^ k * den / den < 2 ^ (precision + 2044) := by
    rw [hquot]
    exact hbound.trans_le (Nat.pow_le_pow_right (by decide) (by omega))
  obtain ⟨m, hm⟩ := exists_nearest? hrange
  refine ⟨m, hm, ?_⟩
  -- the scale divides the quotient, so that nothing is cut off
  have hscale : scaleFor (n * 2 ^ k) ≤ k := by
    by_contra hlt
    have hle := (pow_scaleFor_le (q := n * 2 ^ k) (by omega)).trans_lt hbound
    have := (Nat.pow_lt_pow_iff_right (by decide : 1 < 2)).mp hle
    unfold precision at this
    omega
  have hsplit : n * 2 ^ k = n * 2 ^ (k - scaleFor (n * 2 ^ k)) * 2 ^ scaleFor (n * 2 ^ k) := by
    rw [Nat.mul_assoc, ← pow_add, Nat.sub_add_cancel hscale]
  have hround : roundedSignificand (n * 2 ^ k * den) den = n * 2 ^ (k - scaleFor (n * 2 ^ k)) := by
    unfold roundedSignificand
    rw [hquot]
    apply roundHalfEven_eq_of_abs_lt (Nat.mul_pos hden (Nat.two_pow_pos _))
    have hne : (den : ℚ) ≠ 0 := by exact_mod_cast hden.ne'
    have hsplit' : (n : ℚ) * 2 ^ k
        = n * 2 ^ (k - scaleFor (n * 2 ^ k)) * 2 ^ scaleFor (n * 2 ^ k) := by exact_mod_cast hsplit
    rw [cast_div_scaled]
    push_cast
    rw [mul_div_cancel_right₀ _ hne, hsplit', mul_div_cancel_right₀ _ (by positivity), sub_self,
      abs_zero]
    norm_num
  rw [steps_of_nearest? hm, hquot, hround, ← hsplit]

/-- A quotient that does not exceed a magnitude's steps does not round above them. -/
theorem steps_le_of_le {num den n k : ℕ} (hden : 0 < den) {m : Magnitude}
    (h : nearest? num den = some m) (hn : n < 2 ^ precision) (hk : k ≤ 2044)
    (hle : (num : ℚ) / den ≤ (n * 2 ^ k : ℕ)) : m.steps ≤ n * 2 ^ k := by
  obtain ⟨m', hm', hsteps⟩ := exists_nearest?_exact Nat.one_pos hn hk
  rw [← hsteps]
  apply steps_mono hden Nat.one_pos h hm'
  rw [Nat.mul_one, Nat.cast_one, div_one]
  exact hle

end Magnitude

end WeatherTelegram
