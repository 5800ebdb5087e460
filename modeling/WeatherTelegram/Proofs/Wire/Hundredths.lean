import WeatherTelegram.Proofs.Binary64.Value
import WeatherTelegram.Wire.Number

/-!
# `Proofs.Wire.Hundredths` — rounding to hundredths in double arithmetic

Rounding counts hundredths in doubles: a product, a sum with one half, a floor. The count is off from
the exact number of hundredths by one half and the error of the two roundings before the floor. On the
doubles nearest to a whole number of hundredths that is less than one, so these are left as they are.

## Contents
- `hundredths`: the double nearest to a number of hundredths, under a sign.
- `roundToHundredths_finite`: the count of any finite double in range, with its error.
- `roundToHundredths_hundredths`: the grid of hundredths is left alone up to `10 ^ 15`.
-/

namespace WeatherTelegram

open Binary64

/-- The double nearest to a number of hundredths, under a sign. -/
def hundredths (negative : Bool) (count : ℕ) : Binary64 := ofRatio negative count 100

theorem hundredths_approximates (s : Bool) {c : ℕ} (hc : c ≤ 10 ^ 50) :
    ∃ m, hundredths s c = .finite s m ∧ m.Approximates (c / 100) := by
  have hc' : (c : ℚ) ≤ 10 ^ 50 := by exact_mod_cast hc
  obtain ⟨m, hm, happ⟩ := ofRatio_approximates s c (show 0 < 100 by decide)
    (inRange_of_le (by push_cast; linarith))
  exact ⟨m, hm, by exact_mod_cast happ⟩

/-- Two naturals less than one apart are equal. -/
theorem natCast_eq_of_abs_sub_lt_one {a b : ℕ} (h : |(a : ℚ) - b| < 1) : a = b := by
  obtain ⟨hl, hr⟩ := abs_lt.mp h
  have hlt : (a : ℚ) < b + 1 := by linarith
  have hgt : (b : ℚ) < a + 1 := by linarith
  have hlt' : a < b + 1 := by exact_mod_cast hlt
  have hgt' : b < a + 1 := by exact_mod_cast hgt
  omega

/-! ## One rounding -/

/-- A nearest double takes the sign it is given. -/
theorem ofSteps_copySign (s t : Bool) (num den : ℕ) (m : Magnitude) :
    (ofSteps t num den).copySign (.finite s m) = ofSteps s num den := by
  unfold ofSteps
  cases Magnitude.nearest? num den with
  | some n => rfl
  | none => rfl

theorem half_eq : ∃ m, half = .finite false m ∧ m.value = 1 / 2 := by
  have hexp : stepExponent - 1 + 1 = stepExponent := rfl
  have hsteps : 1 * stepsPerUnit = 1 * 2 ^ (stepExponent - 1) * 2 := by
    rw [stepsPerUnit_eq, Nat.one_mul, Nat.one_mul, ← pow_succ, hexp]
  obtain ⟨m, hm, hv⟩ := ofRatio_exact false (by decide) (by decide) (by decide) hsteps
  exact ⟨m, hm, by exact_mod_cast hv⟩

theorem hundred_eq : ∃ m, (100 : Binary64) = .finite false m ∧ m.value = 100 := by
  obtain ⟨m, hm, hv⟩ := ofRatio_natural false (n := 100) (by decide)
  exact ⟨m, hm, by exact_mod_cast hv⟩

/-- The floor of a positive double is a count of whole units not above it. -/
theorem floor?_finite (p : Magnitude) :
    ∃ c : ℕ, floor? (.finite false p) = .ok c ∧ (c : ℚ) ≤ p.value ∧ p.value < c + 1 := by
  refine ⟨p.steps / stepsPerUnit, rfl, ?_, ?_⟩
  · exact Nat.cast_div_le
  · unfold Magnitude.value
    rw [div_lt_iff₀ cast_stepsPerUnit_pos]
    exact_mod_cast Nat.lt_mul_of_div_lt (Nat.lt_succ_self _) stepsPerUnit_pos

/-- The floor is the count of hundredths. -/
theorem roundToHundredths_of_floor? {s : Bool} {m : Magnitude} {c : ℕ}
    (h : ((Binary64.finite s m).abs * 100 + half).floor? = .ok c) :
    (Binary64.finite s m).roundToHundredths = .ok (hundredths s c) := by
  have hgrid : ofIntRatio (c : ℤ) 100 = ofRatio false c 100 := by
    unfold ofIntRatio
    rw [Int.natAbs_natCast, decide_eq_false (by omega)]
  rw [Binary64.roundToHundredths, h]
  show Except.ok ((ofIntRatio (c : ℤ) 100).copySign (.finite s m)) = _
  rw [hgrid, ofRatio, ofSteps_copySign]
  rfl

/-- **One rounding to hundredths.** The count is off by one half and the errors of a product and a
    sum. -/
theorem roundToHundredths_finite (s : Bool) {m : Magnitude} (hm : m.value ≤ 10 ^ 50) :
    ∃ c : ℕ, (Binary64.finite s m).roundToHundredths = .ok (hundredths s c) ∧
      |(c : ℚ) - 100 * m.value| ≤ 1 / 2 + (300 * m.value + 3) / 2 ^ 53 := by
  have hnonneg := m.value_nonneg
  obtain ⟨h, hh, hhalf⟩ := half_eq
  obtain ⟨w, hw, hhundred⟩ := hundred_eq
  -- the product with one hundred
  obtain ⟨p, hp, happ⟩ := mul_approximates false false m w
    (inRange_of_le (by rw [hhundred]; linarith))
  rw [hhundred] at happ
  have hple := happ.le
  have hpge := happ.ge
  -- the sum with one half
  obtain ⟨r, hr, happ'⟩ := add_approximates p h
    (inRange_of_le (by rw [hhalf]; linarith))
  rw [hhalf] at happ'
  have hrle := happ'.le
  have hrge := happ'.ge
  -- the floor
  obtain ⟨c, hc, hcle, hclt⟩ := floor?_finite r
  refine ⟨c, ?_, ?_⟩
  · apply roundToHundredths_of_floor?
    show (Binary64.finite false m * 100 + half).floor? = .ok c
    rw [hh, hw, hp]
    show (Binary64.finite false p + Binary64.finite false h).floor? = .ok c
    rw [hr, hc]
  · rw [abs_le]
    constructor <;> linarith

/-- **The grid of hundredths is left alone.** -/
theorem roundToHundredths_hundredths (s : Bool) {c : ℕ} (hc : c ≤ 10 ^ 15) :
    (hundredths s c).roundToHundredths = .ok (hundredths s c) := by
  have hc' : (c : ℚ) ≤ 10 ^ 15 := by exact_mod_cast hc
  obtain ⟨m, hm, happ⟩ := hundredths_approximates s (hc.trans (by norm_num))
  have hle := happ.le
  have hge := happ.ge
  obtain ⟨c', hround, herr⟩ := roundToHundredths_finite s (m := m) (by linarith)
  obtain ⟨hl, hr⟩ := abs_le.mp herr
  have heq : c' = c := by
    apply natCast_eq_of_abs_sub_lt_one
    rw [abs_lt]
    constructor <;> linarith
  rw [hm, hround, heq, ← hm]

end WeatherTelegram
