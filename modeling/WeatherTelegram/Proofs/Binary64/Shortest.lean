import WeatherTelegram.Binary64.Shortest
import WeatherTelegram.Proofs.Binary64.Literal

/-!
# `Proofs.Binary64.Shortest` — the shortest decimal reads back

The search for a decimal only takes what reads back, so that all depends on the count at which it ends.
Seventeen digits are off by half a unit of the last of them, which is less than a quarter of the distance
to any other double, wherever the power of ten lies in its binade. So they always read back.

## Contents
- **One rounding.** `nearest?_congr`, `nearestDecimal?_congr`: a number is rounded alike however it is
  written.
- **Near a magnitude.** `nearest?_of_near`, `nearestDecimal?_of_near`.
- **The search.** `scaledBy_spec`, `ten_pow_leadingExponent_le`, `readsBack_of_shortestAt?`,
  `readsBack_seventeen`, `nearestDecimal?_shortest`.
-/

namespace WeatherTelegram

-- one is far too many steps to be counted out, so that no proof below may look at their number
attribute [local irreducible] stepsPerUnit

namespace Magnitude

/-! ## One rounding -/

theorem roundHalfEven_congr {num den num' den' : ℕ} (hden : 0 < den) (hden' : 0 < den')
    (h : (num : ℚ) / den = num' / den') : roundHalfEven num den = roundHalfEven num' den' :=
  Nat.le_antisymm (roundHalfEven_mono hden hden' h.le) (roundHalfEven_mono hden' hden h.ge)

/-- Equal quotients are rounded alike. -/
theorem nearest?_congr {num den num' den' : ℕ} (hden : 0 < den) (hden' : 0 < den')
    (h : (num : ℚ) / den = num' / den') : nearest? num den = nearest? num' den' := by
  have hfloor : num / den = num' / den' := by
    rw [← Nat.floor_div_eq_div (K := ℚ), ← Nat.floor_div_eq_div (K := ℚ), h]
  have hround : roundedSignificand num den = roundedSignificand num' den' := by
    unfold roundedSignificand
    rw [hfloor]
    apply roundHalfEven_congr (Nat.mul_pos hden (Nat.two_pow_pos _)) (Nat.mul_pos hden' (Nat.two_pow_pos _))
    rw [cast_div_scaled, cast_div_scaled, h]
  unfold nearest?
  simp only [hfloor, hround]

/-- **A decimal is rounded alike** with all its digits and without the zeros at their end. -/
theorem nearestDecimal?_congr {digits digits' : ℕ} {e e' : ℤ}
    (h : (digits : ℚ) * 10 ^ e = digits' * 10 ^ e') :
    nearestDecimal? digits e = nearestDecimal? digits' e' := by
  obtain ⟨num, den, hden, hq, heq⟩ := exists_nearestDecimal?_eq digits e
  obtain ⟨num', den', hden', hq', heq'⟩ := exists_nearestDecimal?_eq digits' e'
  rw [heq, heq']
  apply nearest?_congr hden hden'
  rw [hq, hq', h]

/-! ## Near a magnitude -/

/-- Half a unit is more than the `2 ^ 54`th part of a magnitude. -/
theorem steps_div_lt (m : Magnitude) : (m.steps : ℚ) / 2 ^ 54 < 2 ^ m.scale / 2 := by
  have hlt : (m.steps : ℚ) < 2 ^ (precision + m.scale) := by exact_mod_cast m.steps_lt
  rw [pow_add] at hlt
  unfold precision at hlt
  linarith

/-- The least magnitude of its binade. -/
theorem significand_eq_of_lt {m : Magnitude} (h : m.steps < 2 ^ (precision - 1 + m.scale) + 2 ^ m.scale)
    (hscale : m.scale ≠ 0) : m.significand = 2 ^ (precision - 1) := by
  have hle := m.full_or_least.resolve_left hscale
  have hlt : m.significand * 2 ^ m.scale < (2 ^ (precision - 1) + 1) * 2 ^ m.scale := by
    rw [Nat.succ_mul, ← pow_add]
    exact h
  have := lt_of_mul_lt_mul_right hlt (Nat.zero_le _)
  omega

theorem div_lt_iff_cast {num den n : ℕ} (hden : 0 < den) : num / den < n ↔ (num : ℚ) / den < n := by
  have hpos : (0 : ℚ) < den := by exact_mod_cast hden
  rw [Nat.div_lt_iff_lt_mul hden, div_lt_iff₀ hpos]
  exact_mod_cast Iff.rfl

/-- A quotient just below a binade is carried to the first magnitude of it. -/
theorem nearest?_of_near_below {num den k : ℕ} (hden : 0 < den) {m : Magnitude} (hscale : m.scale = k + 1)
    (hlt : num / den < 2 ^ (precision - 1 + m.scale))
    (h : |(m.steps : ℚ) - num / den| < m.steps / 2 ^ 54) : nearest? num den = some m := by
  have hunit := m.steps_div_lt
  obtain ⟨_, habove⟩ := abs_lt.mp h
  have hlt' := (div_lt_iff_cast hden).mp hlt
  have hleast : m.significand = 2 ^ (precision - 1) := by
    apply significand_eq_of_lt _ (by omega)
    have hsum : (m.steps : ℚ) < (2 ^ (precision - 1 + m.scale) + 2 ^ m.scale : ℕ) := by
      push_cast at hlt' ⊢
      have : (0 : ℚ) < 2 ^ m.scale := by positivity
      linarith
    exact_mod_cast hsum
  have hsteps : (m.steps : ℚ) = 2 ^ 53 * 2 ^ k := by
    rw [steps, hleast, hscale]
    push_cast
    unfold precision
    ring
  have hpow : (0 : ℚ) < 2 ^ k := by positivity
  rw [hsteps] at h habove
  -- half the unit of the magnitude, and the rounding carries
  have hfloor : 2 ^ (precision - 1 + k) ≤ num / den := by
    by_contra hless
    have hless' := (div_lt_iff_cast hden).mp (not_le.mp hless)
    rw [pow_add] at hless'
    unfold precision at hless'
    push_cast at hless'
    linarith
  have hbinade : scaleFor (num / den) = k := by
    apply scaleFor_eq (.inr hfloor)
    rw [hscale] at hlt
    exact hlt.trans_le (Nat.pow_le_pow_right (by decide) (by unfold precision; omega))
  have hcarry : roundedSignificand num den = 2 ^ precision := by
    unfold roundedSignificand
    rw [hbinade]
    apply roundHalfEven_eq_of_abs_lt (Nat.mul_pos hden (Nat.two_pow_pos _))
    have hunits : ((2 ^ precision : ℕ) : ℚ) - num / den / 2 ^ k = (2 ^ 53 * 2 ^ k - num / den) / 2 ^ k := by
      push_cast
      unfold precision
      field_simp
    rw [cast_div_scaled, hunits, abs_div, abs_of_pos hpow, div_lt_iff₀ hpow]
    linarith
  unfold nearest?
  rw [dif_pos hcarry, dif_pos (by rw [hbinade, ← hscale]; exact m.scale_le)]
  cases m
  simp only [Option.some.injEq, mk.injEq]
  exact ⟨hleast.symm, by rw [hbinade]; exact hscale.symm⟩

/-- **What is near a magnitude is rounded to it**: nearer than a quarter of its last binary place at the
    most, so that the next magnitude below is farther away even where a binade starts. -/
theorem nearest?_of_near {num den : ℕ} (hden : 0 < den) {m : Magnitude}
    (h : |(m.steps : ℚ) - num / den| < m.steps / 2 ^ 54) : nearest? num den = some m := by
  have hunit := m.steps_div_lt
  obtain ⟨hbelow, _⟩ := abs_lt.mp h
  by_cases hbinade : m.scale = 0 ∨ 2 ^ (precision - 1 + m.scale) ≤ num / den
  · apply nearest?_eq hden (scaleFor_eq hbinade _) (h.trans hunit)
    have hnext : (m.steps : ℚ) + 2 ^ m.scale ≤ (2 ^ (precision + m.scale) : ℕ) := by
      exact_mod_cast m.steps_add_unit_le
    have : (0 : ℚ) < 2 ^ m.scale := by positivity
    exact (div_lt_iff_cast hden).mpr (by linarith)
  · obtain ⟨hscale, hlt⟩ := not_or.mp hbinade
    obtain ⟨k, hk⟩ := Nat.exists_eq_succ_of_ne_zero hscale
    exact nearest?_of_near_below hden hk (not_le.mp hlt) h

theorem nearestDecimal?_of_near {m : Magnitude} {digits : ℕ} {e : ℤ}
    (h : |m.value - digits * 10 ^ e| < m.value / 2 ^ 54) : nearestDecimal? digits e = some m := by
  obtain ⟨num, den, hden, hq, heq⟩ := exists_nearestDecimal?_eq digits e
  have hunit := cast_stepsPerUnit_pos
  rw [heq]
  apply nearest?_of_near hden
  rw [hq, ← m.value_mul_stepsPerUnit, ← sub_mul, abs_mul, abs_of_pos hunit, mul_div_right_comm]
  exact mul_lt_mul_of_pos_right h hunit

/-! ## The search -/

/-- The magnitude in units of a power of ten. -/
theorem scaledBy_spec (m : Magnitude) (e : ℤ) :
    0 < (m.scaledBy e).2 ∧ ((m.scaledBy e).1 : ℚ) / (m.scaledBy e).2 = m.value / 10 ^ e := by
  unfold scaledBy
  split
  · rename_i hnonneg
    obtain ⟨n, rfl⟩ := Int.eq_ofNat_of_zero_le hnonneg
    refine ⟨Nat.mul_pos stepsPerUnit_pos (Nat.pow_pos (by decide)), ?_⟩
    rw [Int.toNat_natCast, zpow_natCast, value, div_div]
    push_cast
    rfl
  · rename_i hneg
    obtain ⟨n, hn⟩ := Int.eq_ofNat_of_zero_le (show 0 ≤ -e by omega)
    obtain rfl : e = -n := by omega
    refine ⟨stepsPerUnit_pos, ?_⟩
    rw [neg_neg, Int.toNat_natCast, zpow_neg, zpow_natCast, div_inv_eq_mul, value, div_mul_eq_mul_div]
    push_cast
    rfl

theorem lt_ten_pow_decimalLength (n : ℕ) : n < 10 ^ decimalLength n :=
  (length_ofNat_le_iff (List.length_pos_of_ne_nil (ofNat_ne_nil n))).mp le_rfl

theorem ten_pow_decimalLength_le {n : ℕ} (h : n ≠ 0) : 10 ^ (decimalLength n - 1) ≤ n := by
  rcases Nat.eq_zero_or_pos (decimalLength n - 1) with hone | hmore
  · rw [hone]
    exact Nat.one_le_iff_ne_zero.mpr h
  · by_contra hlt
    have := (length_ofNat_le_iff hmore).mpr (not_le.mp hlt)
    unfold decimalLength Text.ofNat at *
    omega

/-- **The first significant digit** stands at its power of ten. -/
theorem ten_pow_leadingExponent_le {m : Magnitude} (h : m.steps ≠ 0) :
    (10 : ℚ) ^ m.leadingExponent ≤ m.value := by
  have hunit := cast_stepsPerUnit_pos
  unfold leadingExponent
  split
  · rename_i hone
    have hne : m.steps / stepsPerUnit ≠ 0 := (Nat.div_pos hone stepsPerUnit_pos).ne'
    have hlength : (decimalLength (m.steps / stepsPerUnit) : ℤ) - 1 =
        (decimalLength (m.steps / stepsPerUnit) - 1 : ℕ) := by
      have := List.length_pos_of_ne_nil (ofNat_ne_nil (m.steps / stepsPerUnit))
      unfold decimalLength Text.ofNat at *
      omega
    rw [hlength, zpow_natCast]
    calc (10 : ℚ) ^ (decimalLength (m.steps / stepsPerUnit) - 1)
        ≤ (m.steps / stepsPerUnit : ℕ) := by exact_mod_cast ten_pow_decimalLength_le hne
      _ ≤ m.value := Nat.cast_div_le
  · have hless := lt_ten_pow_decimalLength ((stepsPerUnit - 1) / m.steps)
    rw [Nat.div_lt_iff_lt_mul (Nat.pos_of_ne_zero h)] at hless
    have hle : stepsPerUnit ≤ 10 ^ decimalLength ((stepsPerUnit - 1) / m.steps) * m.steps := by omega
    have hle' : (stepsPerUnit : ℚ) ≤ 10 ^ decimalLength ((stepsPerUnit - 1) / m.steps) * m.steps := by
      exact_mod_cast hle
    rw [zpow_neg, zpow_natCast, value, inv_le_iff_one_le_mul₀ (by positivity), div_mul_eq_mul_div,
      le_div_iff₀ hunit, one_mul, mul_comm]
    exact hle'

theorem readsBack_iff {m : Magnitude} {digits : ℕ} {e : ℤ} :
    m.readsBack digits e = true ↔ nearestDecimal? digits e = some m := by
  unfold readsBack
  rw [beq_iff_eq]

/-- Only what reads back is found. -/
theorem readsBack_of_shortestAt? {m : Magnitude} {count digits : ℕ} {e : ℤ}
    (h : m.shortestAt? count = some (digits, e)) : nearestDecimal? digits e = some m := by
  rw [← readsBack_iff]
  unfold shortestAt? at h
  dsimp only at h
  split at h
  · rename_i hlower hupper
    cases h
    rcases roundHalfEven_cases (m.scaledBy (m.leadingExponent + 1 - count)).1
      (m.scaledBy (m.leadingExponent + 1 - count)).2 with ⟨hround, _⟩ | ⟨hround, _⟩
    · rw [hround]
      exact hlower
    · rw [hround]
      exact hupper
  · rename_i hlower _
    cases h
    exact hlower
  · rename_i _ hupper
    cases h
    exact hupper
  · cases h

/-- **Seventeen digits always read back.** -/
theorem readsBack_seventeen {m : Magnitude} (h : m.steps ≠ 0) :
    nearestDecimal? (roundHalfEven (m.scaledBy (m.leadingExponent - 16)).1
      (m.scaledBy (m.leadingExponent - 16)).2) (m.leadingExponent - 16) = some m := by
  obtain ⟨hden, hscaled⟩ := m.scaledBy_spec (m.leadingExponent - 16)
  have hround := abs_roundHalfEven_sub_le (m.scaledBy (m.leadingExponent - 16)).1 hden
  have hlead := ten_pow_leadingExponent_le h
  have hsplit : (10 : ℚ) ^ m.leadingExponent = 10 ^ (m.leadingExponent - 16) * 10 ^ 16 := by
    rw [zpow_sub₀ (by norm_num)]
    field_simp
  rw [hscaled] at hround
  rw [hsplit] at hlead
  have hpow : (0 : ℚ) < 10 ^ (m.leadingExponent - 16) := zpow_pos (by norm_num) _
  apply nearestDecimal?_of_near
  -- half a unit of the last digit, of which there are ten to the sixteenth in the magnitude
  calc _ = |(roundHalfEven _ _ : ℚ) - m.value / 10 ^ (m.leadingExponent - 16)| *
        10 ^ (m.leadingExponent - 16) := by
        rw [abs_sub_comm, ← abs_of_pos hpow, ← abs_mul, abs_of_pos hpow, sub_mul,
          div_mul_cancel₀ _ hpow.ne']
    _ ≤ 1 / 2 * 10 ^ (m.leadingExponent - 16) := mul_le_mul_of_nonneg_right hround hpow.le
    _ < m.value / 2 ^ 54 := by linarith

/-- **The shortest decimal reads back.** -/
theorem nearestDecimal?_shortest {m : Magnitude} (h : m.steps ≠ 0) :
    nearestDecimal? m.shortest.1 m.shortest.2 = some m := by
  unfold shortest
  split
  · rename_i decimal hfound
    obtain ⟨i, _, hi⟩ := List.exists_of_findSome?_eq_some hfound
    exact readsBack_of_shortestAt? hi
  · exact readsBack_seventeen h

end Magnitude

end WeatherTelegram
