import WeatherTelegram.Binary64.Arithmetic
import WeatherTelegram.Proofs.Binary64.Rounding

/-!
# `Proofs.Binary64.Value` — doubles as rational numbers, and the error of each operation

The value of a finite double is its signed step count over the steps of one. Each operation on finite
doubles is the exact rational operation followed by one rounding, so its error is at most half a unit in
the last place of the exact result, or half a step near zero.

## Contents
- **Values.** `Magnitude.value`, `Binary64.value`, `lt_finite_iff`, `le_finite_iff`.
- **Approximation.** `Magnitude.Approximates` and its two bounds.
- **Operations.** `ofRatio_approximates`, `mul_approximates`, `div_approximates`, `add_approximates`.
- **Exact results.** `ofRatio_natural`, `value_le_natural`, `natural_le_value`; `Rounds`, `ofRatio_rounds`,
  `div_rounds`.
-/

namespace WeatherTelegram

/-! ## Values -/

/-- The value of a magnitude. -/
def Magnitude.value (m : Magnitude) : ℚ := m.steps / stepsPerUnit

/-- Half of the smallest step. -/
def halfStep : ℚ := 1 / 2 / stepsPerUnit

theorem stepsPerUnit_eq : stepsPerUnit = 2 ^ stepExponent := rfl

theorem stepsPerUnit_pos : 0 < stepsPerUnit := Nat.two_pow_pos _

theorem cast_stepsPerUnit_pos : (0 : ℚ) < stepsPerUnit := by exact_mod_cast stepsPerUnit_pos

/-- Half a step is far below every error that matters on the wire. -/
theorem halfStep_le : halfStep ≤ 1 / 2 ^ 60 := by
  have hle : (2 ^ 60 : ℕ) ≤ stepsPerUnit := Nat.pow_le_pow_right (by decide) (by decide)
  have hcast : (2 : ℚ) ^ 60 ≤ stepsPerUnit := by exact_mod_cast hle
  unfold halfStep
  rw [div_le_div_iff₀ cast_stepsPerUnit_pos (by positivity)]
  linarith

-- one is far too many steps to be counted out, so that no proof below may look at their number
attribute [local irreducible] stepsPerUnit

namespace Magnitude

theorem value_nonneg (m : Magnitude) : 0 ≤ m.value :=
  div_nonneg (Nat.cast_nonneg _) cast_stepsPerUnit_pos.le

theorem value_mul_stepsPerUnit (m : Magnitude) : m.value * stepsPerUnit = m.steps :=
  div_mul_cancel₀ _ cast_stepsPerUnit_pos.ne'

end Magnitude

namespace Binary64

/-- The value of a finite double. -/
def value : Binary64 → ℚ
  | .finite negative m => if negative then -m.value else m.value
  | _ => 0

@[simp] theorem value_finite_false (m : Magnitude) : value (.finite false m) = m.value := rfl

@[simp] theorem value_finite_true (m : Magnitude) : value (.finite true m) = -m.value := rfl

theorem exists_finite {x : Binary64} (h : x.isFinite = true) : ∃ s m, x = .finite s m := by
  cases x with
  | finite s m => exact ⟨s, m, rfl⟩
  | nan => cases h
  | infinite s => cases h

theorem signedSteps_eq (s : Bool) (m : Magnitude) :
    (signedSteps s m : ℚ) = value (.finite s m) * stepsPerUnit := by
  cases s
  · simp [signedSteps, value, m.value_mul_stepsPerUnit]
  · simp [signedSteps, value, m.value_mul_stepsPerUnit]

theorem lt_finite_iff (s t : Bool) (m n : Magnitude) :
    lt (.finite s m) (.finite t n) = true ↔ value (.finite s m) < value (.finite t n) := by
  rw [← mul_lt_mul_iff_left₀ cast_stepsPerUnit_pos, ← signedSteps_eq, ← signedSteps_eq, Int.cast_lt]
  simp [lt]

theorem sameValue_finite_iff (s t : Bool) (m n : Magnitude) :
    sameValue (.finite s m) (.finite t n) = true ↔ value (.finite s m) = value (.finite t n) := by
  rw [← mul_left_inj' cast_stepsPerUnit_pos.ne', ← signedSteps_eq, ← signedSteps_eq, Int.cast_inj]
  simp [sameValue]

theorem le_finite_iff (s t : Bool) (m n : Magnitude) :
    Binary64.finite s m ≤ .finite t n ↔ value (.finite s m) ≤ value (.finite t n) := by
  rw [le_iff_lt_or_eq, ← lt_finite_iff, ← sameValue_finite_iff, ← Bool.or_eq_true]
  rfl

end Binary64

/-! ## Approximation -/

/-- The magnitude is off from `q` by at most half a unit in the last place, or half a step. -/
def Magnitude.Approximates (m : Magnitude) (q : ℚ) : Prop := |m.value - q| ≤ q / 2 ^ 53 + halfStep

theorem Magnitude.Approximates.le {m : Magnitude} {q : ℚ} (h : m.Approximates q) :
    m.value ≤ q + q / 2 ^ 53 + 1 / 2 ^ 60 := by
  have := (abs_le.mp h).2
  linarith [halfStep_le]

theorem Magnitude.Approximates.ge {m : Magnitude} {q : ℚ} (h : m.Approximates q) :
    q - q / 2 ^ 53 - 1 / 2 ^ 60 ≤ m.value := by
  have := (abs_le.mp h).1
  linarith [halfStep_le]

/-- Below the last binade, so that rounding does not leave the range of finite doubles. -/
def InRange (q : ℚ) : Prop := ∃ e : ℕ, e ≤ 1023 ∧ q < 2 ^ e

theorem inRange_of_le {q : ℚ} (h : q ≤ 10 ^ 60) : InRange q :=
  ⟨200, by norm_num, h.trans_lt (by norm_num)⟩

namespace Binary64

theorem ofSteps_eq (s : Bool) {num den : ℕ} {m : Magnitude} (h : Magnitude.nearest? num den = some m) :
    ofSteps s num den = .finite s m := by
  unfold ofSteps
  rw [h]

/-- Quotients of steps in range round to finite doubles close to them. -/
theorem ofSteps_approximates (s : Bool) {num den : ℕ} (hden : 0 < den) {q : ℚ}
    (hq : (num : ℚ) / den = q * stepsPerUnit) (hlt : InRange q) :
    ∃ m, ofSteps s num den = .finite s m ∧ m.Approximates q := by
  obtain ⟨e, he, hlt⟩ := hlt
  have hrange : num / den < 2 ^ (precision + 2044) := by
    have hfloor : ((num / den : ℕ) : ℚ) < (2 ^ e * stepsPerUnit : ℕ) := by
      calc ((num / den : ℕ) : ℚ) ≤ num / den := Nat.cast_div_le
        _ = q * stepsPerUnit := hq
        _ < 2 ^ e * stepsPerUnit := mul_lt_mul_of_pos_right hlt cast_stepsPerUnit_pos
        _ = (2 ^ e * stepsPerUnit : ℕ) := by push_cast; rfl
    have hfloor' : num / den < 2 ^ e * 2 ^ stepExponent := by
      rw [← stepsPerUnit_eq]
      exact_mod_cast hfloor
    rw [← pow_add] at hfloor'
    exact hfloor'.trans_le (Nat.pow_le_pow_right (by decide) (by unfold precision stepExponent; omega))
  obtain ⟨m, hm⟩ := Magnitude.exists_nearest? hrange
  refine ⟨m, ofSteps_eq s hm, ?_⟩
  have herr := Magnitude.abs_steps_sub_le hden hm
  rw [hq, ← m.value_mul_stepsPerUnit, ← sub_mul, abs_mul, abs_of_pos cast_stepsPerUnit_pos] at herr
  unfold Magnitude.Approximates halfStep
  rw [← mul_le_mul_iff_left₀ cast_stepsPerUnit_pos, add_mul,
    div_mul_cancel₀ _ cast_stepsPerUnit_pos.ne']
  linarith

theorem ofRatio_approximates (s : Bool) (num : ℕ) {den : ℕ} (hden : 0 < den)
    (hlt : InRange ((num : ℚ) / den)) :
    ∃ m, ofRatio s num den = .finite s m ∧ m.Approximates (num / den) := by
  apply ofSteps_approximates s hden _ hlt
  push_cast
  ring

theorem mul_approximates (s t : Bool) (m n : Magnitude) (hlt : InRange (m.value * n.value)) :
    ∃ p, Binary64.finite s m * .finite t n = .finite (s != t) p ∧
      p.Approximates (m.value * n.value) := by
  apply ofSteps_approximates (s != t) stepsPerUnit_pos _ hlt
  push_cast
  rw [← m.value_mul_stepsPerUnit, ← n.value_mul_stepsPerUnit,
    div_eq_iff cast_stepsPerUnit_pos.ne']
  ring

theorem steps_pos {n : Magnitude} (hn : 0 < n.value) : 0 < n.steps := by
  rw [← Nat.cast_pos (α := ℚ), ← n.value_mul_stepsPerUnit]
  exact mul_pos hn cast_stepsPerUnit_pos

theorem div_eq_ofSteps (s t : Bool) (m : Magnitude) {n : Magnitude} (hn : 0 < n.value) :
    Binary64.finite s m / .finite t n = ofSteps (s != t) (m.steps * stepsPerUnit) n.steps := by
  show (if n.steps = 0 then _ else _) = _
  rw [if_neg (steps_pos hn).ne']

/-- The quotient of steps that a division rounds. -/
theorem div_steps_eq (m : Magnitude) {n : Magnitude} (hn : 0 < n.value) :
    ((m.steps * stepsPerUnit : ℕ) : ℚ) / n.steps = m.value / n.value * stepsPerUnit := by
  push_cast
  rw [← m.value_mul_stepsPerUnit, ← n.value_mul_stepsPerUnit]
  have hu := cast_stepsPerUnit_pos.ne'
  field_simp

theorem div_approximates (s t : Bool) (m : Magnitude) {n : Magnitude} (hn : 0 < n.value)
    (hlt : InRange (m.value / n.value)) :
    ∃ p, Binary64.finite s m / .finite t n = .finite (s != t) p ∧
      p.Approximates (m.value / n.value) := by
  rw [div_eq_ofSteps s t m hn]
  exact ofSteps_approximates (s != t) (steps_pos hn) (div_steps_eq m hn) hlt

/-- A sum that is not negative is one rounding of the steps that it comes to. -/
theorem add_of_signedSteps {s t : Bool} (hsign : (s && t) = false) {m n : Magnitude} {k : ℕ}
    (h : signedSteps s m + signedSteps t n = k) :
    Binary64.finite s m + .finite t n = ofSteps false k 1 := by
  show (if signedSteps s m + signedSteps t n = 0 then Binary64.finite (s && t) .zero
    else ofSteps (decide (signedSteps s m + signedSteps t n < 0))
      (signedSteps s m + signedSteps t n).natAbs 1) = _
  rw [h, hsign]
  by_cases hzero : k = 0
  · rw [if_pos (by exact_mod_cast hzero), hzero]
    decide
  · rw [if_neg (by exact_mod_cast hzero), decide_eq_false (by omega), Int.natAbs_natCast]

theorem add_eq_ofSteps (m n : Magnitude) :
    Binary64.finite false m + .finite false n = ofSteps false (m.steps + n.steps) 1 :=
  add_of_signedSteps rfl rfl

theorem add_approximates (m n : Magnitude) (hlt : InRange (m.value + n.value)) :
    ∃ p, Binary64.finite false m + .finite false n = .finite false p ∧
      p.Approximates (m.value + n.value) := by
  rw [add_eq_ofSteps]
  apply ofSteps_approximates false Nat.one_pos _ hlt
  push_cast
  rw [← m.value_mul_stepsPerUnit, ← n.value_mul_stepsPerUnit]
  ring

/-! ## Exact results -/

/-- A quotient of naturals whose steps have at most 53 binary places is exact. -/
theorem ofRatio_exact (s : Bool) {num den n k : ℕ} (hden : 0 < den) (hn : n < 2 ^ precision)
    (hk : k ≤ 2044) (h : num * stepsPerUnit = n * 2 ^ k * den) :
    ∃ m, ofRatio s num den = .finite s m ∧ m.value = num / den := by
  obtain ⟨m, hm, hsteps⟩ := Magnitude.exists_nearest?_exact hden hn hk
  refine ⟨m, by rw [ofRatio, h, ofSteps_eq s hm], ?_⟩
  have hcast : (num : ℚ) * stepsPerUnit = m.steps * den := by
    rw [hsteps]
    exact_mod_cast h
  have hne : (den : ℚ) ≠ 0 := by exact_mod_cast hden.ne'
  unfold Magnitude.value
  rw [div_eq_div_iff cast_stepsPerUnit_pos.ne' hne, ← hcast]

/-- Whole numbers below `2 ^ 53` are doubles. -/
theorem ofRatio_natural (s : Bool) {n : ℕ} (hn : n < 2 ^ precision) :
    ∃ m, ofRatio s n 1 = .finite s m ∧ m.value = n := by
  have hsteps : n * stepsPerUnit = n * 2 ^ stepExponent * 1 := by rw [stepsPerUnit_eq, Nat.mul_one]
  obtain ⟨m, hm, hv⟩ := ofRatio_exact s Nat.one_pos hn (by decide) hsteps
  refine ⟨m, hm, ?_⟩
  rw [hv, Nat.cast_one, div_one]

theorem nearest?_of_ofSteps {s t : Bool} {num den : ℕ} {m : Magnitude}
    (h : ofSteps s num den = .finite t m) : Magnitude.nearest? num den = some m := by
  unfold ofSteps at h
  split at h
  · cases h
    assumption
  · cases h

/-- A quotient of steps that a whole number bounds does not round above that number. -/
theorem value_le_natural {s : Bool} {num den : ℕ} (hden : 0 < den) {m : Magnitude} {n : ℕ}
    (h : ofSteps s num den = .finite s m) (hn : n < 2 ^ precision)
    (hle : (num : ℚ) / den ≤ n * stepsPerUnit) : m.value ≤ n := by
  have hm := nearest?_of_ofSteps h
  have hle' : (num : ℚ) / den ≤ (n * 2 ^ stepExponent : ℕ) := by
    rw [← stepsPerUnit_eq, Nat.cast_mul]
    exact hle
  have hsteps := Magnitude.steps_le_of_le hden hm hn (by decide) hle'
  rw [← stepsPerUnit_eq] at hsteps
  have hcast : (m.steps : ℚ) ≤ n * stepsPerUnit := by exact_mod_cast hsteps
  unfold Magnitude.value
  rwa [div_le_iff₀ cast_stepsPerUnit_pos]

/-- A quotient of steps that a whole number bounds from below does not round below that number. -/
theorem natural_le_value {s : Bool} {num den : ℕ} (hden : 0 < den) {m : Magnitude} {n : ℕ}
    (h : ofSteps s num den = .finite s m) (hn : n < 2 ^ precision)
    (hle : (n : ℚ) * stepsPerUnit ≤ num / den) : n ≤ m.value := by
  obtain ⟨m', hm', hvalue⟩ := ofRatio_natural s hn
  have hsteps := Magnitude.steps_mono Nat.one_pos hden (nearest?_of_ofSteps hm') (nearest?_of_ofSteps h)
    (by push_cast; rwa [div_one])
  have hcast : (m'.steps : ℚ) ≤ m.steps := by exact_mod_cast hsteps
  rw [← hvalue]
  exact div_le_div_of_nonneg_right hcast cast_stepsPerUnit_pos.le

/-- What one rounding of a quotient keeps to: it is close, and it does not pass a whole number. -/
structure Rounds (m : Magnitude) (q : ℚ) : Prop where
  approximates : m.Approximates q
  le_natural : ∀ n : ℕ, n < 2 ^ precision → q ≤ n → m.value ≤ n
  natural_le : ∀ n : ℕ, n < 2 ^ precision → (n : ℚ) ≤ q → n ≤ m.value

theorem ofSteps_rounds (s : Bool) {num den : ℕ} (hden : 0 < den) {q : ℚ}
    (hq : (num : ℚ) / den = q * stepsPerUnit) (hlt : InRange q) :
    ∃ m, ofSteps s num den = .finite s m ∧ Rounds m q := by
  obtain ⟨m, hm, happ⟩ := ofSteps_approximates s hden hq hlt
  have hscaled : ∀ {a b : ℚ}, a ≤ b → a * stepsPerUnit ≤ b * stepsPerUnit := fun h =>
    mul_le_mul_of_nonneg_right h cast_stepsPerUnit_pos.le
  refine ⟨m, hm, happ, ?_, ?_⟩
  · intro n hn hle
    exact value_le_natural hden hm hn (by rw [hq]; exact hscaled hle)
  · intro n hn hle
    exact natural_le_value hden hm hn (by rw [hq]; exact hscaled hle)

theorem ofRatio_rounds (s : Bool) (num : ℕ) {den : ℕ} (hden : 0 < den)
    (hlt : InRange ((num : ℚ) / den)) : ∃ m, ofRatio s num den = .finite s m ∧ Rounds m (num / den) := by
  apply ofSteps_rounds s hden _ hlt
  push_cast
  ring

theorem div_rounds (s t : Bool) (m : Magnitude) {n : Magnitude} (hn : 0 < n.value)
    (hlt : InRange (m.value / n.value)) :
    ∃ p, Binary64.finite s m / .finite t n = .finite (s != t) p ∧ Rounds p (m.value / n.value) := by
  rw [div_eq_ofSteps s t m hn]
  exact ofSteps_rounds (s != t) (steps_pos hn) (div_steps_eq m hn) hlt

end Binary64

end WeatherTelegram
