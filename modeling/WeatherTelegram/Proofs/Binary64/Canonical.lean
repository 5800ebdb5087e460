import WeatherTelegram.Proofs.Binary64.Value

/-!
# `Proofs.Binary64.Canonical` — one form for each number

A magnitude has a full significand unless its scale is zero, so its steps tell its scale, and with it the
whole magnitude. What lies less than half a unit in the last place away, at the same scale, rounds to it;
so does the magnitude itself, whatever it is divided by. Division by one therefore changes nothing, and
doubles of the same value are the same double but for the sign of zero.

## Contents
- **Scales.** `scaleFor_eq`, `le_steps`, `steps_lt`, `scaleFor_le_scale`.
- **Rounding to a magnitude.** `nearest?_eq`, `nearest?_self`, `steps_injective`, `abs_steps_sub_le_scale`.
- **Doubles.** `div_one_eq`, `eq_of_sameValue`.
-/

namespace WeatherTelegram

namespace Magnitude

/-! ## Scales -/

/-- The binade of a quotient decides its scale. -/
theorem scaleFor_eq {q s : ℕ} (hleast : s = 0 ∨ 2 ^ (precision - 1 + s) ≤ q)
    (hmost : q < 2 ^ (precision + s)) : scaleFor q = s := by
  have hupper : scaleFor q ≤ s := by
    by_contra hlt
    have hpow := (pow_scaleFor_le (q := q) (by omega)).trans_lt hmost
    have := (Nat.pow_lt_pow_iff_right (by decide : 1 < 2)).mp hpow
    unfold precision at this
    omega
  rcases hleast with rfl | hle
  · omega
  · have hpow := hle.trans_lt (lt_pow_scaleFor q)
    have := (Nat.pow_lt_pow_iff_right (by decide : 1 < 2)).mp hpow
    unfold precision at this
    omega

theorem le_steps (m : Magnitude) : m.scale = 0 ∨ 2 ^ (precision - 1 + m.scale) ≤ m.steps := by
  refine m.full_or_least.imp_right fun h => ?_
  rw [pow_add]
  exact Nat.mul_le_mul_right _ h

/-- Up to the next binade there is room for one more unit. -/
theorem steps_add_unit_le (m : Magnitude) : m.steps + 2 ^ m.scale ≤ 2 ^ (precision + m.scale) := by
  calc m.steps + 2 ^ m.scale = (m.significand + 1) * 2 ^ m.scale := (Nat.succ_mul _ _).symm
    _ ≤ 2 ^ precision * 2 ^ m.scale := Nat.mul_le_mul_right _ m.significand_lt
    _ = 2 ^ (precision + m.scale) := (pow_add ..).symm

theorem steps_lt (m : Magnitude) : m.steps < 2 ^ (precision + m.scale) :=
  (Nat.lt_add_of_pos_right (Nat.two_pow_pos _)).trans_le m.steps_add_unit_le

/-- Rounding may carry a quotient to the next scale, but never to a lower one. -/
theorem scaleFor_le_scale {num den : ℕ} {m : Magnitude} (h : nearest? num den = some m) :
    scaleFor (num / den) ≤ m.scale := by
  unfold nearest? at h
  split at h
  · split at h
    · cases h
      exact Nat.le_succ _
    · cases h
  · split at h
    · cases h
      exact Nat.le_refl _
    · cases h

/-! ## Rounding to a magnitude -/

/-- A quotient at the scale of a magnitude, less than half a unit away from it, rounds to it. -/
theorem nearest?_eq {num den : ℕ} (hden : 0 < den) {m : Magnitude}
    (hscale : scaleFor (num / den) = m.scale)
    (h : |(m.steps : ℚ) - num / den| < 2 ^ m.scale / 2) : nearest? num den = some m := by
  have hpow : (0 : ℚ) < 2 ^ m.scale := by positivity
  have hround : roundedSignificand num den = m.significand := by
    unfold roundedSignificand
    rw [hscale]
    apply roundHalfEven_eq_of_abs_lt (Nat.mul_pos hden (Nat.two_pow_pos _))
    have hunits : (m.significand : ℚ) - num / den / 2 ^ m.scale = (m.steps - num / den) / 2 ^ m.scale := by
      unfold steps
      push_cast
      field_simp
    rw [cast_div_scaled, hunits, abs_div, abs_of_pos hpow, div_lt_iff₀ hpow]
    linarith
  unfold nearest?
  rw [dif_neg (by rw [hround]; exact m.significand_lt.ne), dif_pos (by rw [hscale]; exact m.scale_le)]
  cases m
  simp only [Option.some.injEq, mk.injEq]
  exact ⟨hround, hscale⟩

/-- **A magnitude is not moved.** -/
theorem nearest?_self (m : Magnitude) {den : ℕ} (hden : 0 < den) :
    nearest? (m.steps * den) den = some m := by
  have hne : (den : ℚ) ≠ 0 := by exact_mod_cast hden.ne'
  apply nearest?_eq hden
  · rw [Nat.mul_div_cancel _ hden]
    exact scaleFor_eq m.le_steps m.steps_lt
  · push_cast
    rw [mul_div_cancel_right₀ _ hne, sub_self, abs_zero]
    positivity

/-- **The steps are the magnitude.** -/
theorem steps_injective {m n : Magnitude} (h : m.steps = n.steps) : m = n := by
  have hm := m.nearest?_self Nat.one_pos
  rw [h, n.nearest?_self Nat.one_pos] at hm
  exact (Option.some.inj hm).symm

/-- The rounded magnitude is off by at most half a unit at its own scale. -/
theorem abs_steps_sub_le_scale {num den : ℕ} (hden : 0 < den) {m : Magnitude}
    (h : nearest? num den = some m) : |(m.steps : ℚ) - num / den| ≤ 2 ^ m.scale / 2 := by
  have herr := abs_steps_sub_le_scaleFor hden h
  have hpow : (2 : ℚ) ^ scaleFor (num / den) ≤ 2 ^ m.scale :=
    pow_le_pow_right₀ (by norm_num) (scaleFor_le_scale h)
  linarith

end Magnitude

/-! ## Doubles -/

namespace Binary64

-- one is far too many steps to be counted out, so that no proof below may look at their number
attribute [local irreducible] stepsPerUnit

theorem one_eq : ∃ n : Magnitude, (1 : Binary64) = .finite false n ∧ n.steps = stepsPerUnit := by
  obtain ⟨n, hn, hvalue⟩ := ofRatio_natural false (n := 1) (by decide)
  refine ⟨n, hn, ?_⟩
  have hsteps := n.value_mul_stepsPerUnit
  rw [hvalue, Nat.cast_one, one_mul] at hsteps
  exact_mod_cast hsteps.symm

/-- **Division by one changes nothing.** -/
theorem div_one_eq (x : Binary64) : x / 1 = x := by
  obtain ⟨n, hn, hsteps⟩ := one_eq
  have hpos : n.steps ≠ 0 := by
    rw [hsteps]
    exact stepsPerUnit_pos.ne'
  rw [hn]
  cases x with
  | nan => rfl
  | infinite s =>
    show Binary64.infinite (s != false) = .infinite s
    rw [Bool.bne_false]
  | finite s m =>
    show (if n.steps = 0 then _ else ofSteps (s != false) (m.steps * stepsPerUnit) n.steps) = .finite s m
    rw [if_neg hpos, Bool.bne_false, hsteps]
    exact ofSteps_eq s (m.nearest?_self stepsPerUnit_pos)

/-- A double of the value of a positive one is that double. -/
theorem eq_of_sameValue {x : Binary64} {n : Magnitude} (hn : 0 < n.steps)
    (h : x.sameValue (.finite false n) = true) : x = .finite false n := by
  cases x with
  | nan => cases h
  | infinite s => cases h
  | finite s m =>
    have hsteps : signedSteps s m = signedSteps false n := by simpa [sameValue] using h
    cases s with
    | true =>
      simp only [signedSteps, if_true, Bool.false_eq_true, if_false] at hsteps
      omega
    | false =>
      simp only [signedSteps, Bool.false_eq_true, if_false] at hsteps
      rw [Magnitude.steps_injective (Int.ofNat.inj hsteps)]

end Binary64

end WeatherTelegram
