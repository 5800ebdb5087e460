import WeatherTelegram.Proofs.Wire.Accuracy

/-!
# `Proofs.Wire.Grid` — rounding, writing and reading on the grid of hundredths

The double nearest to a whole number of hundredths is one only, whatever it was made from, so that rounding
leaves it alone wherever it comes from. Up to ten million millions what a double rounds to is shown exactly
by two decimal places, and these are read as what it rounds to, sign included.

## Contents
- **The grid.** `eq_hundredths_of_isNearest`, `round_of_isNearest`.
- **Off the grid.** `exists_count_of_abs_le`: what a double rounds to, under its own sign.
- **On the wire.** `spells_hundredthsText`, `hundredths_eq_silentMark_iff`, `readNumber_hundredthsText_cases`.
- **Together.** `round_write_read_agree`.
-/

namespace WeatherTelegram

open Binary64

-- one is far too many steps to be counted out, so that no proof below may look at their number
attribute [local irreducible] stepsPerUnit

/-! ## The grid -/

theorem withSign_natAbs (k : ℤ) : withSign (decide (k < 0)) ((k.natAbs : ℚ) / 100) = k / 100 := by
  have hcast : (k.natAbs : ℚ) = |(k : ℚ)| := by rw [Nat.cast_natAbs, Int.cast_abs]
  have hsign : decide (k < 0) = decide ((k : ℚ) < 0) := by simp only [Int.cast_lt_zero]
  rw [div_eq_mul_inv, ← withSign_mul, hcast, hsign, withSign_abs, div_eq_mul_inv]

/-- A whole number of hundredths has a nearest double. -/
theorem isNearest_hundredths {k : ℤ} (hk : k.natAbs < 2 ^ 1024) :
    (hundredths (decide (k < 0)) k.natAbs).IsNearest (k / 100) := by
  have hnear := hundredths_isNearest (decide (k < 0)) hk
  rwa [withSign_natAbs] at hnear

/-- **What is nearest to whole hundredths is their double**, but for the sign of zero. -/
theorem eq_hundredths_of_isNearest {x : Binary64} {k : ℤ} (hk : k.natAbs < 2 ^ 1024)
    (h : x.IsNearest (k / 100)) : ∃ s, x = hundredths s k.natAbs := by
  obtain ⟨s, m, rfl⟩ := exists_finite h.isFinite
  obtain ⟨n, hn⟩ := hundredths_eq_finite hk
  have hvalue := h.value_eq (isNearest_hundredths hk)
  rw [hn] at hvalue
  obtain ⟨rfl, _⟩ := eq_of_value_eq hvalue
  exact ⟨s, (hn s).symm⟩

theorem natAbs_le_of_abs_le {k : ℤ} (hk : |k| ≤ 10 ^ 15) : k.natAbs ≤ 10 ^ 15 := by
  rw [Int.abs_eq_natAbs] at hk
  exact_mod_cast hk

/-- **Rounding leaves whole hundredths alone.** -/
theorem round_of_isNearest {x : Binary64} {k : ℤ} (hk : |k| ≤ 10 ^ 15) (h : x.IsNearest (k / 100)) :
    x.roundToHundredths = .ok x := by
  have hcount := natAbs_le_of_abs_le hk
  obtain ⟨s, rfl⟩ := eq_hundredths_of_isNearest (by omega) h
  exact roundToHundredths_hundredths s hcount

/-! ## Off the grid -/

/-- **What a double rounds to**, up to ten million millions. -/
theorem exists_count_of_abs_le {x : Binary64} (hfinite : x.isFinite = true) (hx : |x.value| ≤ 10 ^ 13) :
    ∃ c ≤ 10 ^ 15, x.roundToHundredths = .ok (hundredths x.isNegative c) := by
  obtain ⟨s, m, rfl⟩ := exists_finite hfinite
  rw [abs_value_finite] at hx
  obtain ⟨c, hround, herr⟩ := roundToHundredths_finite s (m := m) (by linarith)
  have hcount := (abs_le.mp herr).2
  have hlt : (c : ℚ) < 10 ^ 15 + 1 := by linarith
  exact ⟨c, Nat.lt_succ_iff.mp (by exact_mod_cast hlt), hround⟩

theorem isNegative_hundredths (s : Bool) {c : ℕ} (hc : c < 2 ^ 1024) :
    (hundredths s c).isNegative = s := by
  obtain ⟨m, hm⟩ := hundredths_eq_finite hc
  rw [hm]
  rfl

/-! ## On the wire -/

/-- **The token of a count says its hundredths**, with two decimal places. -/
theorem spells_hundredthsText (s : Bool) (c : ℕ) : ∃ l : DecimalLiteral, l.Spells (hundredthsText s c) ∧
    l.fraction.length = 2 ∧ l.exponent = 0 ∧ l.value = withSign s (c / 100) := by
  have hfraction : (digitValues (Text.padded 2 (c % 100))).length = 2 := by
    rw [length_digitValues, length_padded_two]
  refine ⟨_, DecimalLiteral.parse?_eq_some_iff.mp (parse?_hundredthsText s c), hfraction, rfl, ?_⟩
  simp only [DecimalLiteral.value, hfraction, valueOf_pointed]
  norm_num [div_eq_mul_inv, zpow_neg]

/-- The mark of a silent sensor is one count of hundredths. -/
theorem hundredths_eq_silentMark_iff {s : Bool} {c : ℕ} (hc : c ≤ 10 ^ 15) :
    hundredths s c = silentMark ↔ s = false ∧ c = 99990 := by
  constructor
  · exact fun h => eq_of_sameValue_silentMark hc ((sameValue_silentMark_iff _).mpr h)
  · rintro ⟨rfl, rfl⟩
    exact hundredths_silentMark

/-- **What is read from the token of a count.** -/
theorem readNumber_hundredthsText_cases (s : Bool) {c : ℕ} (hc : c ≤ 10 ^ 15) :
    readNumber true (hundredthsText s c) = .ok (some (hundredths s c)) ∧
      (readNumber false (hundredthsText s c) = .ok none ↔ hundredths s c = silentMark) ∧
      (hundredths s c ≠ silentMark →
        readNumber false (hundredthsText s c) = .ok (some (hundredths s c))) := by
  have hloud : hundredths s c ≠ silentMark →
      readNumber false (hundredthsText s c) = .ok (some (hundredths s c)) := fun hne =>
    readNumber_hundredthsText hc (.inr (mt (hundredths_eq_silentMark_iff hc).mpr hne))
  refine ⟨readNumber_hundredthsText hc (.inl rfl), ⟨fun hnone => ?_, fun hmark => ?_⟩, hloud⟩
  · by_contra hne
    rw [hloud hne] at hnone
    cases hnone
  · obtain ⟨rfl, rfl⟩ := (hundredths_eq_silentMark_iff hc).mp hmark
    exact (readNumber_count_eq_none_iff false false (by decide)).mpr (.inl ⟨rfl, hmark⟩)

/-! ## Together -/

/-- **Rounding, writing and reading agree.** Rounding leaves the double nearest to whole hundredths alone, up
    to ten million millions, and each zero. A finite double in that range is written as the whole hundredths
    that it rounds to, with two decimal places and under its own sign. Reading gives what it rounds to, the
    sign of a zero included; where the mark of a silent sensor does not count as a value, it gives nothing
    exactly if the double rounds to the mark. -/
theorem round_write_read_agree :
    (∀ k : ℤ, |k| ≤ 10 ^ 15 → (∃ x : Binary64, x.IsNearest (k / 100)) ∧
      ∀ x : Binary64, x.IsNearest (k / 100) → x.roundToHundredths = .ok x) ∧
    (∀ s, (Binary64.finite s .zero).roundToHundredths = .ok (.finite s .zero)) ∧
    ∀ x : Binary64, x.isFinite = true → |x.value| ≤ 10 ^ 13 → ∃ (c : ℕ) (z : Binary64),
      x.roundToHundredths = .ok z ∧ z.IsNearest (withSign x.isNegative (c / 100)) ∧
      z.isNegative = x.isNegative ∧
      writeNumber (some x) = .ok (hundredthsText x.isNegative c) ∧
      (∃ l : DecimalLiteral, l.Spells (hundredthsText x.isNegative c) ∧ l.fraction.length = 2 ∧
        l.exponent = 0 ∧ l.value = withSign x.isNegative (c / 100)) ∧
      readNumber true (hundredthsText x.isNegative c) = .ok (some z) ∧
      (readNumber false (hundredthsText x.isNegative c) = .ok none ↔ z = silentMark) ∧
      (z ≠ silentMark → readNumber false (hundredthsText x.isNegative c) = .ok (some z)) := by
  refine ⟨fun k hk => ⟨?_, fun x hx => round_of_isNearest hk hx⟩, fun s => ?_, fun x hfinite hx => ?_⟩
  · have hcount := natAbs_le_of_abs_le hk
    exact ⟨_, isNearest_hundredths (by omega)⟩
  · have hnear := isNearest_self (x := .finite s Magnitude.zero) rfl
    have hzero : value (.finite s Magnitude.zero) = (0 : ℤ) / 100 := by
      cases s <;> simp [value_eq_withSign, Magnitude.value_zero]
    rw [hzero] at hnear
    exact round_of_isNearest (by norm_num) hnear
  · obtain ⟨c, hc, hround⟩ := exists_count_of_abs_le hfinite hx
    have hlt : c < 2 ^ 1024 := by omega
    exact ⟨c, _, hround, hundredths_isNearest _ hlt, isNegative_hundredths _ hlt,
      writeNumber_of_round hc hround, spells_hundredthsText _ c, readNumber_hundredthsText_cases _ hc⟩

/-- A whole number of hundredths, and a double that is not the mark of a silent sensor but rounds to it. -/
theorem round_write_read_agree_mark :
    (∃ x : Binary64, x.IsNearest ((-123457 : ℤ) / 100) ∧ x.roundToHundredths = .ok x) ∧
    (ofRatio false 99989999 100000).isFinite = true ∧ |(ofRatio false 99989999 100000).value| ≤ 10 ^ 13 ∧
    ofRatio false 99989999 100000 ≠ silentMark ∧
    (ofRatio false 99989999 100000).roundToHundredths = .ok silentMark ∧
    writeNumber (some (ofRatio false 99989999 100000)) = .ok (Text.ofString "999.90") ∧
    readNumber true (Text.ofString "999.90") = .ok (some silentMark) ∧
    readNumber false (Text.ofString "999.90") = .ok none := by
  obtain ⟨hgrid, _, hround⟩ := round_write_read_agree
  obtain ⟨⟨x, hx⟩, hkept⟩ := hgrid (-123457) (by norm_num)
  refine ⟨⟨x, hx, hkept x hx⟩, ?_⟩
  obtain ⟨m, hm, happ⟩ := ofRatio_approximates false 99989999 (show 0 < 100000 by decide)
    (inRange_of_le (by norm_num))
  have hle := happ.le
  push_cast at hle
  have hfinite : (ofRatio false 99989999 100000).isFinite = true := by rw [hm]; rfl
  have hvalue : |(ofRatio false 99989999 100000).value| ≤ 10 ^ 13 := by
    rw [hm, abs_value_finite]
    linarith
  have hne : ofRatio false 99989999 100000 ≠ silentMark := by decide +kernel
  have htext : writeNumber (some (ofRatio false 99989999 100000)) = .ok (Text.ofString "999.90") := by
    decide +kernel
  obtain ⟨c, z, hz, _, _, hwrite, _, hread, hmark, _⟩ := hround _ hfinite hvalue
  rw [← Except.ok.inj (htext.symm.trans hwrite)] at hread hmark
  have hnone : readNumber false (Text.ofString "999.90") = .ok none := by decide +kernel
  obtain rfl := hmark.mp hnone
  exact ⟨hfinite, hvalue, hne, hz, htext, hread, hnone⟩

end WeatherTelegram
