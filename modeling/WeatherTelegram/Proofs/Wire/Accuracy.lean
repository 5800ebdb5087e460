import WeatherTelegram.Proofs.Binary64.Literal
import WeatherTelegram.Proofs.Wire.Written

/-!
# `Proofs.Wire.Accuracy` — how near the number of a token is to what the token says

A token has a number exactly if it is a literal whose nearest double fits single precision and is not the
mark of a silent sensor. The number is a double nearest to whole hundredths. Four roundings lie between it
and what the token says: to a double, of the product and of the sum that count the hundredths, and of their
quotient; up to ten thousand million they add a hundred-thousandth to the half hundredth of the counting.

## Contents
- **Hundredths.** `hundredths_eq_finite`, `hundredths_isNearest`, `exists_isNearest_of_round`,
  `abs_value_round_sub_le`.
- **Range.** `value_singleLimit`, `DecimalLiteral.IsAdmitted`, `isAdmitted_iff`.
- **Presence.** `exists_readNumber_iff`, `round_of_readNumber`, `WireUnit.exists_read_iff`.
- **Error.** `abs_readNumber_sub_le`, `WireUnit.abs_read_sub_le`.
- **Together.** `readNumber_denotes`.
-/

namespace WeatherTelegram

open Binary64

-- one is far too many steps to be counted out, so that no proof below may look at their number
attribute [local irreducible] stepsPerUnit

/-! ## Hundredths -/

/-- A count that rounding arrives at has one magnitude under both signs. -/
theorem hundredths_eq_finite {c : ℕ} (hc : c < 2 ^ 1024) : ∃ m, ∀ s, hundredths s c = .finite s m := by
  obtain ⟨m, hm, _⟩ := exists_nearest?_of_lt hc
  exact ⟨m, fun s => ofSteps_eq s hm⟩

/-- A count that rounding arrives at stands for the double nearest to its hundredths. -/
theorem hundredths_isNearest (s : Bool) {c : ℕ} (hc : c < 2 ^ 1024) :
    (hundredths s c).IsNearest (withSign s (c / 100)) := by
  obtain ⟨m, hm⟩ := hundredths_eq_finite hc
  have hfinite : (hundredths s c).isFinite = true := by
    rw [hm]
    rfl
  exact_mod_cast ofRatio_isNearest (by decide) hfinite

/-- What rounding arrives at is nearest to whole hundredths. -/
theorem exists_isNearest_of_round {x z : Binary64} (h : x.roundToHundredths = .ok z) :
    ∃ k : ℤ, z.IsNearest (k / 100) := by
  obtain ⟨s, _, c, _, hc, rfl⟩ := roundToHundredths_eq_ok h
  refine ⟨if s then -c else c, ?_⟩
  have hnear := hundredths_isNearest s hc
  cases s with
  | false => simpa using hnear
  | true => simpa [neg_div] using hnear

theorem abs_value_finite (s : Bool) (m : Magnitude) : |value (.finite s m)| = m.value := by
  rw [value_eq_withSign, abs_withSign, abs_of_nonneg m.value_nonneg]

/-- **The error of one rounding to hundredths.** -/
theorem abs_value_round_sub_le {x z : Binary64} (h : x.roundToHundredths = .ok z)
    (hx : |x.value| ≤ 10 ^ 45) : |z.value - x.value| ≤ 1 / 200 + 5 * |x.value| / 2 ^ 53 + 1 / 2 ^ 50 := by
  obtain ⟨s, m, _, rfl, _, _⟩ := roundToHundredths_eq_ok h
  have hnonneg := m.value_nonneg
  rw [abs_value_finite] at hx ⊢
  obtain ⟨c, hc, herr⟩ := roundToHundredths_finite s (m := m) (by linarith)
  obtain ⟨hcl, hcr⟩ := abs_le.mp herr
  obtain rfl : hundredths s c = z := Except.ok.inj (hc.symm.trans h)
  have hbound : (c : ℚ) ≤ (10 ^ 50 : ℕ) := by
    push_cast
    linarith
  obtain ⟨n, hn, happ⟩ := hundredths_approximates s (by exact_mod_cast hbound)
  have hle := happ.le
  have hge := happ.ge
  have hvalue : |value (.finite s n) - value (.finite s m)| = |n.value - m.value| :=
    abs_withSign_sub_withSign s n.value m.value
  rw [hn, hvalue, abs_le]
  constructor <;> linarith

/-! ## Range -/

/-- The widest value on the wire, exactly. -/
theorem value_singleLimit : ∃ m, singleLimit = .finite false m ∧ m.value = (2 ^ 24 - 1) * 2 ^ 104 := by
  have hlimit : 340282346638528859811704183484516925440 = (2 ^ 24 - 1) * 2 ^ 104 := by norm_num
  have hsteps : 340282346638528859811704183484516925440 * stepsPerUnit
      = (2 ^ 24 - 1) * 2 ^ (104 + stepExponent) * 1 := by
    rw [hlimit, pow_add, ← stepsPerUnit_eq, Nat.mul_one, Nat.mul_assoc]
  obtain ⟨m, hm, hvalue⟩ := ofRatio_exact false Nat.one_pos (by decide) (by decide) hsteps
  refine ⟨m, hm, hvalue.trans ?_⟩
  norm_num

theorem singleLimit_lt_abs_iff (s : Bool) (m : Magnitude) :
    singleLimit < (Binary64.finite s m).abs ↔ (2 ^ 24 - 1) * 2 ^ 104 < |value (.finite s m)| := by
  obtain ⟨n, hn, hvalue⟩ := value_singleLimit
  rw [hn, abs_value_finite, ← hvalue]
  exact lt_finite_iff false false n m

/-- **The literals that have a number**: the double nearest to what they say fits single precision, and is
    the mark of a silent sensor only where that counts. -/
def DecimalLiteral.IsAdmitted (keepsMark : Bool) (l : DecimalLiteral) : Prop :=
  ∃ v : Binary64, v.IsNearest l.value ∧ |v.value| ≤ (2 ^ 24 - 1) * 2 ^ 104 ∧
    (keepsMark = false → v ≠ silentMark)

/-- What is nearest to a number beyond the last double is beyond single precision. -/
theorem lt_abs_value_of_isNearest {v : Binary64} {q : ℚ} (hv : v.IsNearest q) (hq : 2 ^ 1023 ≤ |q|) :
    (2 ^ 24 - 1) * 2 ^ 104 < |v.value| := by
  obtain ⟨m, hm, happ⟩ := ofRatio_approximates false (10 ^ 40) Nat.one_pos
    (inRange_of_le (by push_cast; norm_num))
  have hle := happ.le
  have hge := happ.ge
  push_cast at hle hge
  have hfar : (10 : ℚ) ^ 41 ≤ 2 ^ 1023 :=
    (show (10 : ℚ) ^ 41 ≤ 2 ^ 140 by norm_num).trans (pow_le_pow_right₀ (by norm_num) (by norm_num))
  have hbetween : ∀ {v : Binary64} {q : ℚ}, v.IsNearest q → 2 ^ 1023 ≤ q → m.value ≤ v.value :=
    fun hv hq => (isNearest_self (x := .finite false m) rfl).mono hv
      ((show m.value ≤ 10 ^ 41 by linarith).trans (hfar.trans hq))
  have hvalue : m.value ≤ |v.value| := by
    rcases abs_cases q with ⟨habs, _⟩ | ⟨habs, _⟩
    · exact (hbetween hv (habs ▸ hq)).trans (le_abs_self _)
    · have hneg := hbetween hv.neg (habs ▸ hq)
      rw [value_neg] at hneg
      exact hneg.trans (neg_le_abs _)
  linarith

/-- A double of the value of the mark is the mark. -/
theorem eq_silentMark_of_value {v : Binary64} (hfinite : v.isFinite = true)
    (h : v.value = silentMark.value) : v = silentMark := by
  obtain ⟨s, m, rfl⟩ := exists_finite hfinite
  obtain ⟨n, hn, _⟩ := silentMark_pos
  rw [← sameValue_silentMark_iff, hn, sameValue_finite_iff, h, hn]

/-- The literals that have a number are those that the reader does not lose. -/
theorem isAdmitted_iff {keepsMark : Bool} {l : DecimalLiteral}
    (hdigits : ∀ d ∈ l.whole ++ l.fraction, d < 10) : l.IsAdmitted keepsMark ↔ ¬ IsLost keepsMark l.toBinary64 := by
  rcases DecimalLiteral.toBinary64_cases hdigits with ⟨m, hm, hnear⟩ | ⟨hinfinite, hlarge⟩
  · unfold IsLost
    rw [not_or, not_and]
    constructor
    · rintro ⟨v, hv, hlimit, hmark⟩
      have hvalue := hv.value_eq hnear
      refine ⟨fun hkeeps heq => hmark hkeeps (eq_silentMark_of_value hv.isFinite (by rw [hvalue, heq])), ?_⟩
      rw [hvalue, hm] at hlimit
      rw [hm, singleLimit_lt_abs_iff]
      exact not_lt.mpr hlimit
    · rintro ⟨hmark, hlimit⟩
      refine ⟨l.toBinary64, hnear, ?_, hmark⟩
      rw [hm, singleLimit_lt_abs_iff] at hlimit
      rw [hm]
      exact not_lt.mp hlimit
  · constructor
    · rintro ⟨v, hv, hlimit, _⟩
      exact absurd hlimit (not_le.mpr (lt_abs_value_of_isNearest hv hlarge))
    · intro hnot
      refine absurd (.inr ?_) hnot
      obtain ⟨n, hn, _⟩ := value_singleLimit
      rw [hinfinite, hn]
      exact rfl

/-! ## Presence -/

/-- **Which tokens have a number.** -/
theorem exists_readNumber_iff (keepsMark : Bool) (token : Text) :
    (∃ z, readNumber keepsMark token = .ok (some z)) ↔
      ∃ l : DecimalLiteral, l.Spells token ∧ l.IsAdmitted keepsMark := by
  constructor
  · rintro ⟨z, hz⟩
    obtain ⟨l, hl, hkept, _⟩ := readNumber_eq_some_iff.mp hz
    have hspells := DecimalLiteral.parse?_eq_some_iff.mp hl
    exact ⟨l, hspells, (isAdmitted_iff hspells.digit_lt).mpr hkept⟩
  · rintro ⟨l, hspells, hadmitted⟩
    have hl := DecimalLiteral.parse?_eq_some_iff.mpr hspells
    have hround := (readNumber_of_parse? keepsMark hl).2 ((isAdmitted_iff hspells.digit_lt).mp hadmitted)
    rcases readNumber_cases keepsMark token with hnone | ⟨s, c, _, hsome⟩
    · exact absurd (hround.symm.trans hnone) (map_some_ne_none _)
    · exact ⟨_, hsome⟩

/-- The number of a token is the rounding of the double nearest to what the token says. -/
theorem round_of_readNumber {keepsMark : Bool} {token : Text} {l : DecimalLiteral} {z : Binary64}
    (hspells : l.Spells token) (hz : readNumber keepsMark token = .ok (some z)) :
    l.toBinary64.IsNearest l.value ∧ l.toBinary64.roundToHundredths = .ok z := by
  obtain ⟨l', hl', _, hround⟩ := readNumber_eq_some_iff.mp hz
  obtain rfl := hspells.unique (DecimalLiteral.parse?_eq_some_iff.mp hl')
  rcases DecimalLiteral.toBinary64_cases hspells.digit_lt with ⟨_, _, hnear⟩ | ⟨hinfinite, _⟩
  · exact ⟨hnear, hround⟩
  · obtain ⟨s, m, _, hfinite, _⟩ := roundToHundredths_eq_ok hround
    rw [hinfinite] at hfinite
    cases hfinite

theorem readNumber_eq_none_iff (keepsMark : Bool) (token : Text) :
    readNumber keepsMark token = .ok none ↔ ¬ ∃ z, readNumber keepsMark token = .ok (some z) := by
  rcases readNumber_cases keepsMark token with hnone | ⟨s, c, _, hsome⟩
  · simp [hnone]
  · simp [hsome]

/-- A conversion neither finds a number nor loses one. -/
theorem WireUnit.exists_read_iff (u : WireUnit) (keepsMark : Bool) (token : Text) :
    (∃ z, u.read keepsMark token = .ok (some z)) ↔ ∃ z, readNumber keepsMark token = .ok (some z) := by
  rcases u.read_cases keepsMark token with hnone | ⟨s, j, k, _, hnumber, hread, _⟩
  · have hnumber := (u.read_eq_none_iff keepsMark token).mp hnone
    simp [hnone, hnumber]
  · simp [hnumber, hread]

/-! ## Error -/

/-- **The error of a number.** -/
theorem abs_readNumber_sub_le {keepsMark : Bool} {token : Text} {l : DecimalLiteral} {z : Binary64}
    (hspells : l.Spells token) (hz : readNumber keepsMark token = .ok (some z)) (hq : |l.value| ≤ 10 ^ 10) :
    |z.value - l.value| ≤ 501 / 100000 := by
  obtain ⟨hnear, hround⟩ := round_of_readNumber hspells hz
  have herr := hnear.abs_sub_le (hq.trans (by norm_num))
  have hsize := abs_sub_abs_le_abs_sub l.toBinary64.value l.value
  have hhalf := halfStep_le
  have herr' := abs_value_round_sub_le hround (by linarith)
  have htriangle := abs_sub_le z.value l.toBinary64.value l.value
  linarith

namespace WireUnit

/-- **The error of a number in another unit.** -/
theorem abs_read_sub_le (u : WireUnit) {keepsMark : Bool} {token : Text} {l : DecimalLiteral} {w : Binary64}
    (hspells : l.Spells token) (hw : u.read keepsMark token = .ok (some w)) (hq : |l.value| ≤ 10 ^ 10) :
    |w.value - l.value * u.ratio| ≤ 1 / 200 + u.ratio * (516 / 100000) := by
  rcases u.read_cases keepsMark token with hnone | ⟨s, j, k, hj, hnumber, hread, _, herr⟩
  · rw [hw] at hnone
    cases hnone
  obtain rfl : w = hundredths s k := Option.some.inj (Except.ok.inj (hw.symm.trans hread))
  obtain ⟨herrl, herrr⟩ := abs_le.mp herr
  have hnear := abs_readNumber_sub_le hspells hnumber hq
  -- the number in the travelling unit
  obtain ⟨m, hm, happ⟩ := hundredths_approximates s (hj.trans (by norm_num))
  have hle := happ.le
  have hge := happ.ge
  rw [hm] at hnear
  have hsize := abs_sub_abs_le_abs_sub (value (.finite s m)) l.value
  rw [abs_value_finite] at hsize
  -- the number in the unit it is kept in
  have hk : (k : ℚ) ≤ (10 ^ 50 : ℕ) := by
    push_cast
    cases u <;> simp only [WireUnit.ratio] at herrr <;> linarith
  obtain ⟨n, hn, happ'⟩ := hundredths_approximates s (by exact_mod_cast hk)
  have hle' := happ'.le
  have hge' := happ'.ge
  have hconverted : |n.value - m.value * u.ratio| ≤ 1 / 200 + u.ratio * (15 / 100000) := by
    rw [abs_le]
    cases u <;> simp only [WireUnit.ratio] at herrl herrr ⊢ <;> constructor <;> linarith
  have hsplit : value (.finite s n) - l.value * u.ratio
      = (withSign s n.value - withSign s (m.value * u.ratio))
        + (value (.finite s m) - l.value) * u.ratio := by
    rw [value_eq_withSign, value_eq_withSign, ← withSign_mul]
    ring
  have hratio : 0 ≤ u.ratio := by linarith [(ratio_bounds u).1]
  have hscaled := mul_le_mul_of_nonneg_right hnear hratio
  rw [hn, hsplit]
  refine (abs_add_le _ _).trans ?_
  rw [abs_withSign_sub_withSign, abs_mul, abs_of_nonneg hratio]
  linarith

end WireUnit

/-! ## Together -/

/-- **What a token is read as.** Reading never fails, and a token has a number exactly if it spells a literal
    that is admitted. The number is the double nearest to whole hundredths, and up to ten thousand million it
    is off by little more than half a hundredth. A conversion finds a number in the same tokens; its error is
    that of the number in the new unit and a second half hundredth. -/
theorem readNumber_denotes (keepsMark : Bool) (token : Text) :
    ((∃ z, readNumber keepsMark token = .ok (some z)) ↔
      ∃ l : DecimalLiteral, l.Spells token ∧ l.IsAdmitted keepsMark) ∧
    (readNumber keepsMark token = .ok none ↔ ¬ ∃ z, readNumber keepsMark token = .ok (some z)) ∧
    (∀ z, readNumber keepsMark token = .ok (some z) → ∃ k : ℤ, z.IsNearest (k / 100)) ∧
    (∀ l z, DecimalLiteral.Spells l token → |l.value| ≤ 10 ^ 10 →
      readNumber keepsMark token = .ok (some z) → |z.value - l.value| ≤ 501 / 100000) ∧
    (∀ u : WireUnit, u ≠ .asKept →
      ((∃ z, readScaledNumber u.factor keepsMark token = .ok (some z)) ↔
        ∃ z, readNumber keepsMark token = .ok (some z)) ∧
      (readScaledNumber u.factor keepsMark token = .ok none ↔ readNumber keepsMark token = .ok none)) ∧
    ∀ l z, DecimalLiteral.Spells l token → |l.value| ≤ 10 ^ 10 →
      (readScaledNumber (WireUnit.factor .kilometresPerHour) keepsMark token = .ok (some z) →
        |z.value - l.value / (36 / 10)| ≤ 65 / 10000) ∧
      (readScaledNumber (WireUnit.factor .tipsPerInterval) keepsMark token = .ok (some z) →
        |z.value - 12 / 10 * l.value| ≤ 112 / 10000) := by
  refine ⟨exists_readNumber_iff keepsMark token, readNumber_eq_none_iff keepsMark token, fun z hz => ?_,
    fun l z hspells hq hz => abs_readNumber_sub_le hspells hz hq, fun u hu => ?_,
    fun l z hspells hq => ⟨fun hz => ?_, fun hz => ?_⟩⟩
  · obtain ⟨l, _, _, hround⟩ := readNumber_eq_some_iff.mp hz
    exact exists_isNearest_of_round hround
  · rw [← WireUnit.read_of_ne hu]
    exact ⟨u.exists_read_iff keepsMark token, u.read_eq_none_iff keepsMark token⟩
  · have herr := WireUnit.abs_read_sub_le .kilometresPerHour hspells hz hq
    rw [WireUnit.ratio] at herr
    have hunit : l.value / (36 / 10) = l.value * (5 / 18) := by ring
    rw [hunit]
    linarith
  · have herr := WireUnit.abs_read_sub_le .tipsPerInterval hspells hz hq
    rw [WireUnit.ratio] at herr
    have hunit : 12 / 10 * l.value = l.value * (6 / 5) := by ring
    rw [hunit]
    linarith

/-- A sign, digits of two scripts and an exponent. -/
theorem readNumber_denotes_mixed :
    ∃ l z w, DecimalLiteral.Spells l (Text.ofString "-1٢34.565e-1") ∧ l.value = -1234565 / 10000 ∧
      l.IsAdmitted false ∧ readNumber false (Text.ofString "-1٢34.565e-1") = .ok (some z) ∧
      |z.value - l.value| ≤ 501 / 100000 ∧
      readScaledNumber (WireUnit.factor .tipsPerInterval) false (Text.ofString "-1٢34.565e-1")
        = .ok (some w) ∧
      |w.value - 12 / 10 * l.value| ≤ 112 / 10000 := by
  obtain ⟨hpresent, hnone, _, herr, hunits, hconverted⟩ :=
    readNumber_denotes false (Text.ofString "-1٢34.565e-1")
  have hspells : DecimalLiteral.Spells ⟨true, [1, 2, 3, 4], [5, 6, 5], -1⟩ (Text.ofString "-1٢34.565e-1") :=
    DecimalLiteral.parse?_eq_some_iff.mp (by decide +kernel)
  have hvalue : DecimalLiteral.value ⟨true, [1, 2, 3, 4], [5, 6, 5], -1⟩ = -1234565 / 10000 := by
    norm_num [DecimalLiteral.value, valueOf, zpow_neg]
  have hq : |DecimalLiteral.value ⟨true, [1, 2, 3, 4], [5, 6, 5], -1⟩| ≤ 10 ^ 10 := by
    rw [hvalue]
    norm_num
  have hnotNone : readNumber false (Text.ofString "-1٢34.565e-1") ≠ .ok none := by decide +kernel
  obtain ⟨z, hz⟩ := not_not.mp (mt hnone.mpr hnotNone)
  obtain ⟨l, hl, hadmitted⟩ := hpresent.mp ⟨z, hz⟩
  obtain rfl := hl.unique hspells
  obtain ⟨w, hw⟩ := (hunits .tipsPerInterval (by decide)).1.mpr ⟨z, hz⟩
  exact ⟨_, z, w, hspells, hvalue, hadmitted, hz, herr _ z hspells hq hz, hw,
    (hconverted _ w hspells hq).2 hw⟩

end WeatherTelegram
