import WeatherTelegram.Proofs.Binary64.Value
import WeatherTelegram.Random.Source

/-!
# `Proofs.Random.Source` — the draws of a source lie in their ranges

A unit number of a fair source is a finite double below one, and zero under either sign at the least. The
twister makes its unit numbers of 53 bits, which a double holds exactly, so it is fair.

## Contents
- `exists_unit`: a unit number as sign and magnitude.
- `Twister.fair`: the twister is fair.
-/

namespace WeatherTelegram

open Binary64

/-- A double from zero up to but not including one. -/
theorem exists_unit {u : Binary64} (hleast : 0 ≤ u) (hmost : u < 1) :
    ∃ s m, u = .finite s m ∧ m.value < 1 ∧ (s = true → m.value = 0) := by
  obtain ⟨z, hz, hzero⟩ := ofRatio_natural false (n := 0) (by decide)
  obtain ⟨o, ho, hone⟩ := ofRatio_natural false (n := 1) (by decide)
  have hz' : (0 : Binary64) = .finite false z := hz
  have ho' : (1 : Binary64) = .finite false o := ho
  rw [hz'] at hleast
  rw [ho'] at hmost
  cases u with
  | nan => cases hmost
  | infinite s =>
    cases s with
    | false => cases hmost
    | true => cases hleast
  | finite s m =>
    have hlower := (le_finite_iff false s z m).mp hleast
    have hupper := (lt_finite_iff s false m o).mp hmost
    rw [value_finite_false, hzero] at hlower
    rw [value_finite_false, hone] at hupper
    push_cast at hlower hupper
    refine ⟨s, m, rfl, ?_, ?_⟩
    · cases s with
      | false => exact hupper
      | true =>
        rw [value_finite_true] at hlower
        linarith
    · rintro rfl
      rw [value_finite_true] at hlower
      linarith [m.value_nonneg]

namespace Twister

/-- Fifty-three bits over their number are a double of exactly that value. -/
theorem ofRatio_unitCount {n : ℕ} (hn : n < unitCount) :
    ∃ m, ofRatio false n unitCount = .finite false m ∧ m.value = n / unitCount := by
  have hcount : unitCount = 2 ^ 53 := by decide
  have hsteps : n * stepsPerUnit = n * 2 ^ (stepExponent - 53) * unitCount := by
    rw [hcount, stepsPerUnit_eq, Nat.mul_assoc, ← pow_add, Nat.sub_add_cancel (by decide)]
  exact ofRatio_exact false (by decide) hn (by decide) hsteps

/-- The high bits of two words make up at most 53 bits. -/
theorem bits_lt (high low : UInt32) :
    (high >>> 5).toNat * 67108864 + (low >>> 6).toNat < unitCount := by
  have hhigh : (high >>> 5).toNat = high.toNat / 2 ^ 5 := by
    rw [UInt32.toNat_shiftRight, Nat.shiftRight_eq_div_pow]
    rfl
  have hlow : (low >>> 6).toNat = low.toNat / 2 ^ 6 := by
    rw [UInt32.toNat_shiftRight, Nat.shiftRight_eq_div_pow]
    rfl
  have := high.toNat_lt
  have := low.toNat_lt
  rw [hhigh, hlow]
  unfold unitCount
  omega

theorem unit_fair (t : Twister) : 0 ≤ t.unit.1 ∧ t.unit.1 < 1 := by
  obtain ⟨m, hm, hvalue⟩ := ofRatio_unitCount (bits_lt t.next.1 t.next.2.next.1)
  have hunit : t.unit.1 = .finite false m := hm
  obtain ⟨z, hz, hzero⟩ := ofRatio_natural false (n := 0) (by decide)
  obtain ⟨o, ho, hone⟩ := ofRatio_natural false (n := 1) (by decide)
  have hz' : (0 : Binary64) = .finite false z := hz
  have ho' : (1 : Binary64) = .finite false o := ho
  rw [hunit, hz', ho']
  constructor
  · apply (le_finite_iff false false z m).mpr
    rw [value_finite_false, value_finite_false, hzero]
    exact_mod_cast m.value_nonneg
  · apply (lt_finite_iff false false m o).mpr
    rw [value_finite_false, value_finite_false, hone, hvalue]
    push_cast
    rw [div_lt_one (by norm_num [unitCount])]
    exact_mod_cast bits_lt _ _

/-- **The twister is fair.** -/
theorem fair : RandomSource.Fair Twister := fun t =>
  ⟨t.unit_fair.1, t.unit_fair.2, percentWithin_le percentTries t⟩

end Twister

end WeatherTelegram
