import WeatherTelegram.Proofs.Wire.Order

/-!
# `Proofs.Wire.Single` — which numbers fit single precision

A token is lost if the double nearest to what it says is beyond single precision. What is kept is not that
double but what rounding and the unit make of it, and nothing looks at the range again. Neither step reverses
an order, so what is kept of any number that fits is bounded by what is kept of the widest. Rounding leaves
the widest number where it is, and the factor of speeds is below one. The factor of rain is not: above a
threshold, which is a double like any other, what is kept no longer fits, and that in the case of every number.

## Contents
- **Keeping.** `Binary64.FitsSingle`, `WireUnit.keep`, `WireUnit.exists_literal_of_read`.
- **Sign and order.** `WireUnit.keep_abs`, `WireUnit.value_keep_mono`, `WireUnit.abs_keep_le`.
- **Range.** `WireUnit.abs_keep_le_widest`, `WireUnit.fitsSingle_of_keep`.
- **Rain.** `fitsSingle_rain_iff`.
-/

namespace WeatherTelegram

open Binary64

-- one is far too many steps to be counted out, so that no proof below may look at their number
attribute [local irreducible] stepsPerUnit

/-! ## Keeping -/

/-- Whether a double is finite and not beyond single precision. -/
def Binary64.FitsSingle (x : Binary64) : Prop := x.isFinite = true ∧ x.abs ≤ singleLimit

instance (x : Binary64) : Decidable x.FitsSingle := inferInstanceAs (Decidable (_ ∧ _))

theorem isFinite_singleLimit : singleLimit.isFinite = true := by
  obtain ⟨m, hm, _⟩ := value_singleLimit
  rw [hm]
  rfl

theorem abs_singleLimit : singleLimit.abs = singleLimit := by
  obtain ⟨m, hm, _⟩ := value_singleLimit
  rw [hm]
  rfl

/-- **What is kept of a number**: its rounding, and in another unit the rounding of the product with that. -/
def WireUnit.keep (u : WireUnit) (x : Binary64) : Except NonFinite Binary64 :=
  match u with
  | .asKept => x.roundToHundredths
  | .kilometresPerHour | .tipsPerInterval =>
    x.roundToHundredths.bind fun y => (y * u.factor).roundToHundredths

theorem WireUnit.keep_of_ne {u : WireUnit} (hu : u ≠ .asKept) (x : Binary64) :
    u.keep x = x.roundToHundredths.bind fun y => (y * u.factor).roundToHundredths := by
  cases u with
  | asKept => exact absurd rfl hu
  | kilometresPerHour => rfl
  | tipsPerInterval => rfl

/-- What is kept went through one rounding, and through a second one behind the factor. -/
theorem WireUnit.keep_eq_ok_iff {u : WireUnit} {x z : Binary64} :
    u.keep x = .ok z ↔ ∃ y, x.roundToHundredths = .ok y ∧
      if u = .asKept then y = z else (y * u.factor).roundToHundredths = .ok z := by
  by_cases hu : u = .asKept
  · subst hu
    simp [WireUnit.keep]
  · rw [WireUnit.keep_of_ne hu]
    cases x.roundToHundredths with
    | error cause => simp [Except.bind]
    | ok y => simp [Except.bind, hu]

/-- What is not lost fits. -/
theorem fitsSingle_of_not_isLost {keepsMark : Bool} {l : DecimalLiteral}
    (h : ¬ IsLost keepsMark l.toBinary64) : l.toBinary64.FitsSingle := by
  obtain ⟨n, hn, _⟩ := value_singleLimit
  have hfits : ¬ singleLimit < l.toBinary64.abs := fun hwide => h (.inr hwide)
  rcases toBinary64_cases l with ⟨s, m, hl⟩ | ⟨s, hl⟩
  · rw [hl, hn] at hfits
    rw [hl]
    refine ⟨rfl, ?_⟩
    rw [hn]
    exact (le_finite_iff false false m n).mpr
      (not_lt.mp fun hlt => hfits ((lt_finite_iff false false n m).mpr hlt))
  · rw [hl, hn] at hfits
    exact absurd rfl hfits

/-- **What a token is read as** in any unit is what is kept of a literal that fits. -/
theorem WireUnit.exists_literal_of_read {u : WireUnit} {keepsMark : Bool} {t : Text} {z : Binary64}
    (h : u.read keepsMark t = .ok (some z)) :
    ∃ l, DecimalLiteral.parse? t = some l ∧ l.toBinary64.FitsSingle ∧ u.keep l.toBinary64 = .ok z := by
  by_cases hu : u = .asKept
  · subst hu
    obtain ⟨l, hl, hkept, hround⟩ := readNumber_eq_some_iff.mp h
    exact ⟨l, hl, fitsSingle_of_not_isLost hkept, hround⟩
  · rw [WireUnit.read_of_ne hu] at h
    obtain ⟨y, hy, hround⟩ := exists_number_of_readScaledNumber h
    obtain ⟨l, hl, hkept, hfirst⟩ := readNumber_eq_some_iff.mp hy
    refine ⟨l, hl, fitsSingle_of_not_isLost hkept, WireUnit.keep_eq_ok_iff.mpr ⟨y, hfirst, ?_⟩⟩
    rwa [if_neg hu]

/-! ## Sign and order -/

theorem isFinite_abs (x : Binary64) : x.abs.isFinite = x.isFinite := by
  cases x <;> rfl

theorem le_trans_of_isFinite {x y z : Binary64} (hx : x.isFinite = true) (hy : y.isFinite = true)
    (hz : z.isFinite = true) (hxy : x ≤ y) (hyz : y ≤ z) : x ≤ z := by
  rw [le_iff_value_le hx hy] at hxy
  rw [le_iff_value_le hy hz] at hyz
  exact (le_iff_value_le hx hz).mpr (hxy.trans hyz)

/-- Rounding does not look at the sign. -/
theorem round_abs {x z : Binary64} (h : x.roundToHundredths = .ok z) : x.abs.roundToHundredths = .ok z.abs := by
  have habs : x.abs.abs = x.abs := by cases x <;> rfl
  have hsign : ∀ y : Binary64, (y.copySign x).abs = y.copySign x.abs := by
    intro y
    cases y <;> cases x <;> rfl
  unfold Binary64.roundToHundredths at h ⊢
  rw [habs]
  cases hcount : (x.abs * 100 + half).floor? with
  | error cause =>
    rw [hcount] at h
    cases h
  | ok count =>
    rw [hcount] at h
    cases h
    exact congrArg Except.ok (hsign _).symm

theorem abs_ofSteps (s : Bool) (num den : ℕ) : (ofSteps s num den).abs = ofSteps false num den := by
  unfold ofSteps
  cases Magnitude.nearest? num den <;> rfl

theorem abs_finite (s : Bool) (m : Magnitude) : (Binary64.finite s m).abs = .finite false m := rfl

/-- A factor that is not negative does not look at the sign. -/
theorem abs_mul_finite {x : Binary64} (hx : x.isFinite = true) (f : Magnitude) :
    (x * .finite false f).abs = x.abs * .finite false f := by
  obtain ⟨s, m, rfl⟩ := exists_finite hx
  rw [abs_finite, finite_mul_finite, finite_mul_finite, abs_ofSteps, bne_self_eq_false]

namespace WireUnit

variable {u : WireUnit} {x y z w : Binary64}

/-- **Keeping does not look at the sign.** -/
theorem keep_abs (h : u.keep x = .ok z) : u.keep x.abs = .ok z.abs := by
  obtain ⟨y, hy, hz⟩ := keep_eq_ok_iff.mp h
  refine keep_eq_ok_iff.mpr ⟨y.abs, round_abs hy, ?_⟩
  split
  · rename_i hu
    rw [if_pos hu] at hz
    rw [hz]
  · rename_i hu
    rw [if_neg hu] at hz
    obtain ⟨f, hf, _⟩ := factor_near u
    rw [hf] at hz ⊢
    rw [← abs_mul_finite (isFinite_of_round hy).2]
    exact round_abs hz

theorem isFinite_of_keep (h : u.keep x = .ok z) : z.isFinite = true := by
  obtain ⟨y, hy, hz⟩ := keep_eq_ok_iff.mp h
  split at hz
  · exact hz ▸ (isFinite_of_round hy).2
  · exact (isFinite_of_round hz).2

/-- **Keeping keeps order.** -/
theorem value_keep_mono (hx : u.keep x = .ok z) (hy : u.keep y = .ok w) (h : x.value ≤ y.value) :
    z.value ≤ w.value := by
  obtain ⟨a, ha, hz⟩ := keep_eq_ok_iff.mp hx
  obtain ⟨b, hb, hw⟩ := keep_eq_ok_iff.mp hy
  have hround := value_round_mono ha hb h
  by_cases hu : u = .asKept
  · rw [if_pos hu] at hz hw
    rwa [← hz, ← hw]
  · obtain ⟨f, hf, _⟩ := factor_near u
    rw [if_neg hu, hf] at hz hw
    exact value_round_mono hz hw (value_mul_mono (isFinite_of_round ha).2 (isFinite_of_round hb).2
      (isFinite_of_round hz).1 (isFinite_of_round hw).1 hround)

/-- **What is kept is no farther from zero** than what is kept of a number that is no nearer to zero. -/
theorem abs_keep_le (hx : u.keep x = .ok z) (hy : u.keep y = .ok w) (hxf : x.isFinite = true)
    (hyf : y.isFinite = true) (h : x.abs ≤ y.abs) : z.abs ≤ w.abs := by
  have hx' := keep_abs hx
  have hy' := keep_abs hy
  rw [le_iff_value_le ((isFinite_abs x).trans hxf) ((isFinite_abs y).trans hyf)] at h
  rw [le_iff_value_le (isFinite_of_keep hx') (isFinite_of_keep hy')]
  exact value_keep_mono hx' hy' h

/-! ## Range -/

/-- What is kept of the widest number that fits. -/
def widest : WireUnit → Binary64
  | .asKept => singleLimit
  | .kilometresPerHour => ofRatio false (5003999287705600 * 2 ^ 74) 1
  | .tipsPerInterval => ofRatio false (5404319230722049 * 2 ^ 76) 1

/-- Only the factor of rain leads out of single precision. -/
theorem widest_spec (u : WireUnit) :
    u.keep singleLimit = .ok u.widest ∧ (u ≠ .tipsPerInterval → u.widest ≤ singleLimit) := by
  cases u <;> decide +kernel

theorem keep_singleLimit (u : WireUnit) : u.keep singleLimit = .ok u.widest := u.widest_spec.1

/-- Nothing that is kept is farther from zero than what is kept of the widest number. -/
theorem abs_keep_le_widest (hx : x.FitsSingle) (h : u.keep x = .ok z) : z.abs ≤ u.widest := by
  have hwidest := keep_abs u.keep_singleLimit
  rw [abs_singleLimit, keep_singleLimit] at hwidest
  rw [Except.ok.inj hwidest]
  exact abs_keep_le h u.keep_singleLimit hx.1 isFinite_singleLimit (abs_singleLimit.symm ▸ hx.2)

/-- **What is kept fits** in every unit but that of the rain. -/
theorem fitsSingle_of_keep (hu : u ≠ .tipsPerInterval) (hx : x.FitsSingle) (h : u.keep x = .ok z) :
    z.FitsSingle := by
  have hz := isFinite_of_keep h
  exact ⟨hz, le_trans_of_isFinite ((isFinite_abs z).trans hz) (isFinite_of_keep u.keep_singleLimit)
    isFinite_singleLimit (abs_keep_le_widest hx h) (u.widest_spec.2 hu)⟩

end WireUnit

/-! ## Rain -/

/-- The widest number of tips whose rain rate fits single precision: `7505998931558399 * 2 ^ 75`. -/
def widestTips : Binary64 := .finite false ⟨7505998931558399, 1149, by decide, by decide, .inr (by decide)⟩

/-- The next double. -/
def nextTips : Binary64 := .finite false ⟨7505998931558400, 1149, by decide, by decide, .inr (by decide)⟩

/-- The rain rate of the one is the widest number that fits, that of the other does not fit. -/
theorem keep_tips : WireUnit.keep .tipsPerInterval widestTips = .ok singleLimit ∧
    ∃ z, WireUnit.keep .tipsPerInterval nextTips = .ok z ∧ ¬ z.abs ≤ singleLimit :=
  ⟨by decide +kernel, ofRatio false (9007198717870081 * 2 ^ 75) 1, by decide +kernel⟩

/-- No double lies between the two. -/
theorem nextTips_le {x : Binary64} (hx : x.isFinite = true) (h : ¬ x.abs ≤ widestTips) : nextTips ≤ x.abs := by
  obtain ⟨s, n, rfl⟩ := exists_finite hx
  refine next_le ?_ ?_ h
  · rfl
  · rfl

/-- **A rain rate fits** if the number of tips is not above the threshold. -/
theorem fitsSingle_rain_iff {x z : Binary64} (hx : x.isFinite = true)
    (h : WireUnit.keep .tipsPerInterval x = .ok z) : z.FitsSingle ↔ x.abs ≤ widestTips := by
  obtain ⟨hwidest, w, hw, hbeyond⟩ := keep_tips
  constructor
  · rintro ⟨hz, hfits⟩
    by_contra hwide
    have hle := WireUnit.abs_keep_le hw h rfl hx (nextTips_le hx hwide)
    exact hbeyond (le_trans_of_isFinite ((isFinite_abs w).trans (WireUnit.isFinite_of_keep hw))
      ((isFinite_abs z).trans hz) isFinite_singleLimit hle hfits)
  · intro hle
    have hz := WireUnit.abs_keep_le h hwidest hx rfl hle
    rw [abs_singleLimit] at hz
    exact ⟨WireUnit.isFinite_of_keep h, hz⟩

end WeatherTelegram
