import WeatherTelegram.Proofs.Wire.Token
import WeatherTelegram.Telegram.Decode
import WeatherTelegram.Telegram.Encode

/-!
# `Proofs.Wire.Unit` — quantities that travel in another unit

Speeds and rain are divided by a factor on the way out and multiplied by it on the way in, and both
results are rounded to hundredths. A factor below one spreads the hundredths out on the wire, so that
the second rounding undoes the first; a factor above one crowds them, and only what was read once comes
back unchanged.

## Contents
- **Factors.** `WireUnit.ratio`, the exact factors, and `factor_near`.
- **One way.** `mul_factor_round`, `div_factor_round`: the count after each conversion, with its error.
- **Reading and writing.** `WireUnit.read_cases`, `WireUnit.write_hundredths`.
- **Both ways.** `WireUnit.read_write`, `WireUnit.write_read`.
- **Present or absent.** `WireUnit.exists_read_of_write`, `WireUnit.exists_write_of_read`.
- **Within reach.** `IsWithinReach`, `WireUnit.isWithinReach_of_read`, `WireUnit.exists_write`.
-/

namespace WeatherTelegram

open Binary64

/-! ## Factors -/

/-- The exact factor from the travelling unit to the kept one. -/
def WireUnit.ratio : WireUnit → ℚ
  | .asKept => 1
  | .kilometresPerHour => 5 / 18
  | .tipsPerInterval => 6 / 5

theorem speedFactor_near :
    ∃ f, WireUnit.factor .kilometresPerHour = .finite false f ∧ |f.value - 5 / 18| ≤ 1 / 2 ^ 51 := by
  obtain ⟨n, hn, hvalue⟩ := ofRatio_natural false (n := 1) (by decide)
  obtain ⟨t, ht, happ⟩ := ofRatio_approximates false 36 (show 0 < 10 by decide)
    (inRange_of_le (by norm_num))
  have hle := happ.le
  have hge := happ.ge
  push_cast at hle hge hvalue
  have htpos : 0 < t.value := by linarith
  -- one over the rounded divisor
  have hupper : n.value / t.value ≤ 5 / 18 + 1 / 2 ^ 54 := by
    rw [div_le_iff₀ htpos, hvalue]
    linarith
  have hlower : 5 / 18 - 1 / 2 ^ 54 ≤ n.value / t.value := by
    rw [le_div_iff₀ htpos, hvalue]
    linarith
  obtain ⟨f, hf, happ'⟩ := div_approximates false false n htpos (inRange_of_le (by linarith))
  have hle' := happ'.le
  have hge' := happ'.ge
  refine ⟨f, ?_, abs_le.mpr ⟨?_, ?_⟩⟩
  · show ofRatio false 1 1 / ofRatio false 36 10 = _
    rw [hn, ht, hf]
    rfl
  · linarith
  · linarith

theorem rainFactor_near :
    ∃ f, WireUnit.factor .tipsPerInterval = .finite false f ∧ |f.value - 6 / 5| ≤ 1 / 2 ^ 51 := by
  obtain ⟨t, ht, happ⟩ := ofRatio_approximates false 2 (show 0 < 10 by decide)
    (inRange_of_le (by norm_num))
  obtain ⟨n, hn, hvalue⟩ := ofRatio_natural false (n := 6) (by decide)
  have hle := happ.le
  have hge := happ.ge
  push_cast at hle hge hvalue
  obtain ⟨f, hf, happ'⟩ := mul_approximates false false t n
    (inRange_of_le (by rw [hvalue]; linarith))
  have hle' := happ'.le
  have hge' := happ'.ge
  rw [hvalue] at hle' hge'
  refine ⟨f, ?_, abs_le.mpr ⟨?_, ?_⟩⟩
  · show ofRatio false 2 10 * ofRatio false 6 1 = _
    rw [ht, hn, hf]
    rfl
  · linarith
  · linarith

/-- The factors are the nearest doubles of their parts, combined. -/
theorem factor_near (u : WireUnit) :
    ∃ f, u.factor = .finite false f ∧ |f.value - u.ratio| ≤ 1 / 2 ^ 51 := by
  cases u with
  | asKept =>
    obtain ⟨n, hn, hvalue⟩ := ofRatio_natural false (n := 1) (by decide)
    refine ⟨n, hn, ?_⟩
    show |n.value - 1| ≤ _
    rw [hvalue, Nat.cast_one, sub_self, abs_zero]
    norm_num
  | kilometresPerHour => exact speedFactor_near
  | tipsPerInterval => exact rainFactor_near

theorem ratio_bounds (u : WireUnit) : 5 / 18 ≤ u.ratio ∧ u.ratio ≤ 6 / 5 := by
  cases u <;> norm_num [WireUnit.ratio]

theorem WireUnit.eq_asKept_of_factor {u : WireUnit} (h : u.factor = 1) : u = .asKept := by
  cases u with
  | asKept => rfl
  | kilometresPerHour => exact absurd h (by decide +kernel)
  | tipsPerInterval => exact absurd h (by decide +kernel)

/-! ## One way -/

/-- A double near a number of hundredths times a factor rounds to a count near that product. -/
theorem roundToHundredths_near (s : Bool) {p : Magnitude} {q : ℚ} (hq : q ≤ 10 ^ 48)
    (h : |100 * p.value - q| ≤ (q + 1) / 2 ^ 47) :
    ∃ k : ℕ, (Binary64.finite s p).roundToHundredths = .ok (hundredths s k) ∧
      |(k : ℚ) - q| ≤ 1 / 2 + (q + 1) / 2 ^ 46 := by
  obtain ⟨hl, hr⟩ := abs_le.mp h
  obtain ⟨k, hround, hk⟩ := roundToHundredths_finite s (m := p) (by linarith)
  obtain ⟨hkl, hkr⟩ := abs_le.mp hk
  refine ⟨k, hround, abs_le.mpr ⟨?_, ?_⟩⟩ <;> linarith

/-- **From the travelling unit.** The product with the factor, rounded to hundredths. -/
theorem mul_factor_round (u : WireUnit) (s : Bool) {j : ℕ} (hj : j ≤ 10 ^ 45) :
    ∃ k : ℕ, (hundredths s j * u.factor).roundToHundredths = .ok (hundredths s k) ∧
      |(k : ℚ) - j * u.ratio| ≤ 1 / 2 + (j * u.ratio + 1) / 2 ^ 46 := by
  have hj' : (j : ℚ) ≤ 10 ^ 45 := by exact_mod_cast hj
  have hj0 : (0 : ℚ) ≤ j := Nat.cast_nonneg j
  obtain ⟨m, hm, happ⟩ := hundredths_approximates s (hj.trans (by norm_num))
  have hle := happ.le
  have hge := happ.ge
  obtain ⟨f, hf, herr⟩ := factor_near u
  obtain ⟨herrl, herrr⟩ := abs_le.mp herr
  have hvl : m.value * (u.ratio - 1 / 2 ^ 51) ≤ m.value * f.value :=
    mul_le_mul_of_nonneg_left (by linarith) m.value_nonneg
  have hvr : m.value * f.value ≤ m.value * (u.ratio + 1 / 2 ^ 51) :=
    mul_le_mul_of_nonneg_left (by linarith) m.value_nonneg
  have hrange : InRange (m.value * f.value) := by
    apply inRange_of_le
    cases u <;> simp only [WireUnit.ratio] at hvr <;> linarith
  obtain ⟨p, hp, happ'⟩ := mul_approximates s false m f hrange
  have hple := happ'.le
  have hpge := happ'.ge
  rw [Bool.bne_false] at hp
  rw [hm, hf, hp]
  apply roundToHundredths_near
  · cases u <;> simp only [WireUnit.ratio] <;> linarith
  · rw [abs_le]
    cases u <;> simp only [WireUnit.ratio] at hvl hvr ⊢ <;> constructor <;> linarith

/-- **To the travelling unit.** The quotient by the factor, rounded to hundredths. -/
theorem div_factor_round (u : WireUnit) (s : Bool) {k : ℕ} (hk : k ≤ 10 ^ 46) :
    ∃ j : ℕ, (hundredths s k / u.factor).roundToHundredths = .ok (hundredths s j) ∧
      |(j : ℚ) - k / u.ratio| ≤ 1 / 2 + (k / u.ratio + 1) / 2 ^ 46 := by
  have hk' : (k : ℚ) ≤ 10 ^ 46 := by exact_mod_cast hk
  have hk0 : (0 : ℚ) ≤ k := Nat.cast_nonneg k
  obtain ⟨m, hm, happ⟩ := hundredths_approximates s (hk.trans (by norm_num))
  have hle := happ.le
  have hge := happ.ge
  obtain ⟨f, hf, herr⟩ := factor_near u
  obtain ⟨herrl, herrr⟩ := abs_le.mp herr
  have hfpos : 0 < f.value := by
    have := (ratio_bounds u).1
    linarith
  -- the quotient is bounded by its products with the ends of the factor's interval
  have hnonneg : 0 ≤ m.value / f.value := div_nonneg m.value_nonneg hfpos.le
  have hmul : m.value / f.value * f.value = m.value := div_mul_cancel₀ _ hfpos.ne'
  have hvl : m.value / f.value * (u.ratio - 1 / 2 ^ 51) ≤ m.value :=
    (mul_le_mul_of_nonneg_left (by linarith) hnonneg).trans_eq hmul
  have hvr : m.value ≤ m.value / f.value * (u.ratio + 1 / 2 ^ 51) :=
    hmul.ge.trans (mul_le_mul_of_nonneg_left (by linarith) hnonneg)
  have hrange : InRange (m.value / f.value) := by
    apply inRange_of_le
    cases u <;> simp only [WireUnit.ratio] at hvl <;> linarith
  obtain ⟨p, hp, happ'⟩ := div_approximates s false m hfpos hrange
  have hple := happ'.le
  have hpge := happ'.ge
  rw [Bool.bne_false] at hp
  rw [hm, hf, hp]
  apply roundToHundredths_near
  · cases u <;> simp only [WireUnit.ratio] <;> linarith
  · rw [abs_le]
    cases u <;> simp only [WireUnit.ratio] at hvl hvr ⊢ <;> constructor <;> linarith

/-! ## Reading and writing -/

/-- Two tokens of one number are read alike in every unit. -/
theorem WireUnit.read_congr (u : WireUnit) {keepsMark : Bool} {t t' : Text}
    (h : readNumber keepsMark t = readNumber keepsMark t') :
    u.read keepsMark t = u.read keepsMark t' := by
  cases u <;> simp only [WireUnit.read, readScaledNumber, h]

theorem WireUnit.read_of_ne {u : WireUnit} (hu : u ≠ .asKept) (keepsMark : Bool) (t : Text) :
    u.read keepsMark t = readScaledNumber u.factor keepsMark t := by
  cases u with
  | asKept => exact absurd rfl hu
  | kilometresPerHour => rfl
  | tipsPerInterval => rfl

theorem WireUnit.write_of_ne {u : WireUnit} (hu : u ≠ .asKept) (x : Binary64) :
    u.write (some x) = writeNumber (some (x / u.factor)) := by
  cases u with
  | asKept => exact absurd rfl hu
  | kilometresPerHour => rfl
  | tipsPerInterval => rfl

theorem WireUnit.read_eq_round {u : WireUnit} (hu : u ≠ .asKept) {keepsMark : Bool} {t : Text}
    {x y : Binary64} (h : readNumber keepsMark t = .ok (some x))
    (hround : (x * u.factor).roundToHundredths = .ok y) : u.read keepsMark t = .ok (some y) := by
  rw [WireUnit.read_of_ne hu, readScaledNumber, h]
  generalize u.factor = f at hround
  show (x * f).roundToHundredths.map some = _
  rw [hround]
  rfl

theorem WireUnit.read_of_readNumber_none (u : WireUnit) {keepsMark : Bool} {t : Text}
    (h : readNumber keepsMark t = .ok none) : u.read keepsMark t = .ok none := by
  cases u <;> simp only [WireUnit.read, readScaledNumber, h] <;> rfl

theorem WireUnit.read_of_readNumber (u : WireUnit) {keepsMark : Bool} {t : Text} {s : Bool} {j : ℕ}
    (hj : j ≤ 10 ^ 45) (h : readNumber keepsMark t = .ok (some (hundredths s j))) :
    ∃ k : ℕ, u.read keepsMark t = .ok (some (hundredths s k)) ∧ (u = .asKept → k = j) ∧
      |(k : ℚ) - j * u.ratio| ≤ 1 / 2 + (j * u.ratio + 1) / 2 ^ 46 := by
  by_cases hu : u = .asKept
  · subst hu
    refine ⟨j, h, fun _ => rfl, ?_⟩
    have : (0 : ℚ) ≤ j := Nat.cast_nonneg j
    rw [WireUnit.ratio, mul_one, sub_self, abs_zero]
    positivity
  · obtain ⟨k, hk, herr⟩ := mul_factor_round u s hj
    exact ⟨k, WireUnit.read_eq_round hu h hk, fun h => absurd h hu, herr⟩

/-- **Reading never fails**, in any unit. -/
theorem WireUnit.read_cases (u : WireUnit) (keepsMark : Bool) (t : Text) :
    u.read keepsMark t = .ok none ∨
      ∃ s j k, j ≤ 10 ^ 45 ∧ readNumber keepsMark t = .ok (some (hundredths s j)) ∧
        u.read keepsMark t = .ok (some (hundredths s k)) ∧ (u = .asKept → k = j) ∧
        |(k : ℚ) - j * u.ratio| ≤ 1 / 2 + (j * u.ratio + 1) / 2 ^ 46 := by
  rcases readNumber_cases keepsMark t with hnone | ⟨s, j, hj, hsome⟩
  · exact .inl (u.read_of_readNumber_none hnone)
  · obtain ⟨k, hk, herr⟩ := u.read_of_readNumber hj hsome
    exact .inr ⟨s, j, k, hj, hsome, hk, herr⟩

theorem WireUnit.write_none (u : WireUnit) : u.write none = .ok [] := by
  cases u <;> rfl

/-- A number of hundredths is written as one nearby in the travelling unit. -/
theorem WireUnit.write_hundredths (u : WireUnit) (s : Bool) {k : ℕ} (hk : k ≤ 10 ^ 12 + 1) :
    ∃ j : ℕ, j ≤ 4 * 10 ^ 12 ∧ u.write (some (hundredths s k)) = .ok (hundredthsText s j) ∧
      (u = .asKept → j = k) ∧ |(j : ℚ) - k / u.ratio| ≤ 56 / 100 := by
  have hk' : (k : ℚ) ≤ 10 ^ 12 + 1 := by exact_mod_cast hk
  by_cases hu : u = .asKept
  · subst hu
    refine ⟨k, by omega, ?_, fun _ => rfl, ?_⟩
    · have hgrid : k ≤ 10 ^ 15 := by omega
      exact writeNumber_of_round hgrid (roundToHundredths_hundredths s hgrid)
    · rw [WireUnit.ratio, div_one, sub_self, abs_zero]
      norm_num
  · obtain ⟨j, hj, herr⟩ := div_factor_round u s (hk.trans (by norm_num))
    obtain ⟨hl, hr⟩ := abs_le.mp herr
    have hclose : |(j : ℚ) - k / u.ratio| ≤ 56 / 100 := by
      rw [abs_le]
      cases u <;> simp only [WireUnit.ratio] at hl hr ⊢ <;> constructor <;> linarith
    have hbound : (j : ℚ) ≤ (4 * 10 ^ 12 : ℕ) := by
      have := (abs_le.mp hclose).2
      push_cast
      cases u <;> simp only [WireUnit.ratio] at this <;> linarith
    have hbound' : j ≤ 4 * 10 ^ 12 := by exact_mod_cast hbound
    refine ⟨j, hbound', ?_, fun h => absurd h hu, hclose⟩
    rw [WireUnit.write_of_ne hu]
    exact writeNumber_of_round (hbound'.trans (by norm_num)) hj

/-! ## Both ways -/

/-- Whether the token of a count would be read as the mark of a silent sensor. -/
def IsSilent (keepsMark negative : Bool) (count : ℕ) : Prop :=
  keepsMark = false ∧ negative = false ∧ count = 99990

theorem readNumber_of_not_isSilent {keepsMark s : Bool} {j : ℕ} (hj : j ≤ 10 ^ 15)
    (h : ¬ IsSilent keepsMark s j) :
    readNumber keepsMark (hundredthsText s j) = .ok (some (hundredths s j)) := by
  apply readNumber_hundredthsText hj
  cases keepsMark with
  | true => exact .inl rfl
  | false => exact .inr fun hsilent => h ⟨rfl, hsilent⟩

/-- Rain that was read once is written as the count it was read from. -/
theorem write_rain {s : Bool} {j k : ℕ} (hk : k ≤ 10 ^ 12 + 1)
    (herr : |(k : ℚ) - j * (6 / 5)| ≤ 1 / 2 + (j * (6 / 5) + 1) / 2 ^ 46) :
    WireUnit.write .tipsPerInterval (some (hundredths s k)) = .ok (hundredthsText s j) := by
  have hk' : (k : ℚ) ≤ 10 ^ 12 + 1 := by exact_mod_cast hk
  obtain ⟨hl, hr⟩ := abs_le.mp herr
  obtain ⟨i, _, hwrite, _, hclose⟩ := WireUnit.write_hundredths .tipsPerInterval s hk
  obtain ⟨hcl, hcr⟩ := abs_le.mp hclose
  simp only [WireUnit.ratio] at hcl hcr
  -- five sixths of the half hundredth lost in reading, and the one lost here, leave no room for another
  have hij : i = j := by
    apply natCast_eq_of_abs_sub_lt_one
    rw [abs_lt]
    constructor <;> linarith
  rw [hwrite, hij]

/-- **Written and read.** A quantity on the grid comes back as it was, or as a neighbour where the factor
    crowds the grid; either is written the same way again. -/
theorem WireUnit.read_write (u : WireUnit) (keepsMark s : Bool) {k : ℕ} (hk : k ≤ 10 ^ 12) :
    ∃ j : ℕ, u.write (some (hundredths s k)) = .ok (hundredthsText s j) ∧
      (¬ IsSilent keepsMark s j → ∃ k' : ℕ,
        u.read keepsMark (hundredthsText s j) = .ok (some (hundredths s k')) ∧
        (u ≠ .tipsPerInterval → k' = k) ∧ k' ≤ k + 1 ∧ k ≤ k' + 1 ∧
        u.write (some (hundredths s k')) = .ok (hundredthsText s j)) := by
  have hk' : (k : ℚ) ≤ 10 ^ 12 := by exact_mod_cast hk
  obtain ⟨j, hj, hwrite, hkept, hclose⟩ := u.write_hundredths s (hk.trans (by norm_num))
  refine ⟨j, hwrite, fun hloud => ?_⟩
  have hj' : (j : ℚ) ≤ 4 * 10 ^ 12 := by exact_mod_cast hj
  have hnumber := readNumber_of_not_isSilent (hj.trans (by norm_num)) hloud
  obtain ⟨i, hread, hkept', herr⟩ := u.read_of_readNumber (hj.trans (by norm_num)) hnumber
  obtain ⟨hcl, hcr⟩ := abs_le.mp hclose
  obtain ⟨hel, her⟩ := abs_le.mp herr
  refine ⟨i, hread, ?_⟩
  cases u with
  | asKept =>
    obtain rfl : i = k := (hkept' rfl).trans (hkept rfl)
    exact ⟨fun _ => rfl, by omega, by omega, hwrite⟩
  | kilometresPerHour =>
    -- the half hundredth lost in writing shrinks to five eighteenths of it
    simp only [WireUnit.ratio] at hcl hcr hel her
    obtain rfl : i = k := by
      apply natCast_eq_of_abs_sub_lt_one
      rw [abs_lt]
      constructor <;> linarith
    exact ⟨fun _ => rfl, by omega, by omega, hwrite⟩
  | tipsPerInterval =>
    -- the half hundredth lost in writing grows to six fifths of it, so that two counts may meet
    simp only [WireUnit.ratio] at hcl hcr hel her
    have hupper : (i : ℚ) < k + 2 := by linarith
    have hlower : (k : ℚ) < i + 2 := by linarith
    have hupper' : i < k + 2 := by exact_mod_cast hupper
    have hlower' : k < i + 2 := by exact_mod_cast hlower
    exact ⟨fun h => absurd rfl h, by omega, by omega, write_rain (by omega) herr⟩

/-- **Read and written.** What a token was read as is read again from the token it is written as. -/
theorem WireUnit.write_read (u : WireUnit) {keepsMark s : Bool} {t : Text} {j k : ℕ}
    (hnumber : readNumber keepsMark t = .ok (some (hundredths s j)))
    (hread : u.read keepsMark t = .ok (some (hundredths s k)))
    (herr : |(k : ℚ) - j * u.ratio| ≤ 1 / 2 + (j * u.ratio + 1) / 2 ^ 46) (hk : k ≤ 10 ^ 12) :
    ∃ i : ℕ, u.write (some (hundredths s k)) = .ok (hundredthsText s i) ∧
      (¬ IsSilent keepsMark s i →
        u.read keepsMark (hundredthsText s i) = .ok (some (hundredths s k))) := by
  have hk' : (k : ℚ) ≤ 10 ^ 12 := by exact_mod_cast hk
  by_cases hu : u = .tipsPerInterval
  · subst hu
    refine ⟨j, write_rain (by omega) herr, fun hloud => ?_⟩
    have hj : (j : ℚ) ≤ (10 ^ 15 : ℕ) := by
      have := (abs_le.mp herr).1
      simp only [WireUnit.ratio] at this
      push_cast
      linarith
    have hnumber' := readNumber_of_not_isSilent (by exact_mod_cast hj) hloud
    rw [← hread]
    exact WireUnit.read_congr _ (hnumber'.trans hnumber.symm)
  · obtain ⟨i, hwrite, hback⟩ := u.read_write keepsMark s hk
    refine ⟨i, hwrite, fun hloud => ?_⟩
    obtain ⟨k', hread', hsame, _⟩ := hback hloud
    rw [hread', hsame hu]

/-! ## Present or absent -/

/-- The token that a silent sensor sends in place of a number. -/
def silentText : Text := ['9', '9', '9', '.', '9', '0']

theorem not_isSilent {keepsMark s : Bool} {j : ℕ}
    (h : keepsMark = true ∨ hundredthsText s j ≠ silentText) : ¬ IsSilent keepsMark s j := by
  rintro ⟨hkeeps, rfl, rfl⟩
  rcases h with hk | hne
  · rw [hkeeps] at hk
    cases hk
  · exact hne (by decide)

/-- A number of hundredths of at most ten thousand million. -/
def OnGrid (x : Binary64) : Prop := ∃ s, ∃ k ≤ 10 ^ 12, x = hundredths s k

/-- The same number or the same absence, or a number of one hundredth more or less. -/
inductive IsNear : Option Binary64 → Option Binary64 → Prop where
  | refl (x : Option Binary64) : IsNear x x
  | off (s : Bool) {k k' : ℕ} (hmost : k' ≤ k + 1) (hleast : k ≤ k' + 1) :
      IsNear (some (hundredths s k)) (some (hundredths s k'))

theorem readNumber_nil (keepsMark : Bool) : readNumber keepsMark [] = .ok none := rfl

/-- **Written and read**, absence included. -/
theorem WireUnit.exists_read_of_write (u : WireUnit) (keepsMark : Bool) {x : Option Binary64}
    (hx : ∀ y, x = some y → OnGrid y) :
    ∃ t, u.write x = .ok t ∧ ((keepsMark = true ∨ t ≠ silentText) → ∃ x',
      u.read keepsMark t = .ok x' ∧ IsNear x x' ∧ (u ≠ .tipsPerInterval → x' = x) ∧
      u.write x' = .ok t) := by
  cases x with
  | none =>
    exact ⟨[], u.write_none, fun _ => ⟨none, u.read_of_readNumber_none (readNumber_nil keepsMark),
      .refl none, fun _ => rfl, u.write_none⟩⟩
  | some y =>
    obtain ⟨s, k, hk, rfl⟩ := hx y rfl
    obtain ⟨j, hwrite, hback⟩ := u.read_write keepsMark s hk
    refine ⟨hundredthsText s j, hwrite, fun hloud => ?_⟩
    obtain ⟨k', hread, hsame, hmost, hleast, hagain⟩ := hback (not_isSilent hloud)
    exact ⟨some (hundredths s k'), hread, .off s hmost hleast, fun hu => by rw [hsame hu], hagain⟩

/-- A number of hundredths that is not above ten thousand million. -/
theorem count_le_of_abs_le {s : Bool} {k : ℕ} (hk : k ≤ 10 ^ 50)
    (h : (hundredths s k).abs ≤ 10000000000) : k ≤ 10 ^ 12 := by
  obtain ⟨m, hm, happ⟩ := hundredths_approximates s hk
  obtain ⟨n, hn, hvalue⟩ := ofRatio_natural false (n := 10000000000) (by decide)
  have hlimit : (10000000000 : Binary64) = .finite false n := hn
  rw [hm, hlimit] at h
  have hle : m.value ≤ n.value := (le_finite_iff false false m n).mp h
  have hge := happ.ge
  rw [hvalue] at hle
  push_cast at hle
  have hlt : (k : ℚ) < (10 ^ 12 + 1 : ℕ) := by
    push_cast
    linarith
  have hlt' : k < 10 ^ 12 + 1 := by exact_mod_cast hlt
  omega

/-- **Read and written**, absence included. -/
theorem WireUnit.exists_write_of_read (u : WireUnit) {keepsMark : Bool} {t : Text}
    {x : Option Binary64} (hread : u.read keepsMark t = .ok x)
    (hx : ∀ y, x = some y → y.abs ≤ 10000000000) :
    ∃ t', u.write x = .ok t' ∧ ((keepsMark = true ∨ t' ≠ silentText) →
      u.read keepsMark t' = .ok x) := by
  rcases u.read_cases keepsMark t with hnone | ⟨s, j, k, hj, hnumber, hsome, _, herr⟩
  · rw [hread] at hnone
    cases hnone
    exact ⟨[], u.write_none, fun _ => u.read_of_readNumber_none (readNumber_nil keepsMark)⟩
  · rw [hread] at hsome
    cases hsome
    have hj' : (j : ℚ) ≤ 10 ^ 45 := by exact_mod_cast hj
    have hmost : (k : ℚ) ≤ (10 ^ 50 : ℕ) := by
      have := (abs_le.mp herr).2
      push_cast
      cases u <;> simp only [WireUnit.ratio] at this <;> linarith
    have hk := count_le_of_abs_le (by exact_mod_cast hmost) (hx _ rfl)
    obtain ⟨i, hwrite, hback⟩ := u.write_read hnumber hread herr hk
    exact ⟨hundredthsText s i, hwrite, fun hloud => hback (not_isSilent hloud)⟩

/-! ## Within reach -/

/-- A number of hundredths that is far from overflow in every unit. -/
def IsWithinReach (x : Binary64) : Prop := ∃ s, ∃ k ≤ 10 ^ 46, x = hundredths s k

/-- What is read is within reach, in whatever unit. -/
theorem WireUnit.isWithinReach_of_read (u : WireUnit) {keepsMark : Bool} {t : Text} {x : Binary64}
    (h : u.read keepsMark t = .ok (some x)) : IsWithinReach x := by
  rcases u.read_cases keepsMark t with hnone | ⟨s, j, k, hj, _, hsome, _, herr⟩
  · rw [h] at hnone
    cases hnone
  · rw [h] at hsome
    cases hsome
    have hj' : (j : ℚ) ≤ 10 ^ 45 := by exact_mod_cast hj
    have hk : (k : ℚ) ≤ (10 ^ 46 : ℕ) := by
      have := (abs_le.mp herr).2
      push_cast
      cases u <;> simp only [WireUnit.ratio] at this <;> linarith
    exact ⟨s, k, by exact_mod_cast hk, rfl⟩

theorem exists_writeNumber_of_round {x y : Binary64} (h : x.roundToHundredths = .ok y) :
    ∃ t, writeNumber (some x) = .ok t := by
  refine ⟨y.fixedText 2, ?_⟩
  show x.roundToHundredths.map (·.fixedText 2) = _
  rw [h]
  rfl

/-- What is within reach is written, in whatever unit. -/
theorem WireUnit.exists_write (u : WireUnit) {x : Option Binary64}
    (hx : ∀ y, x = some y → IsWithinReach y) : ∃ t, u.write x = .ok t := by
  cases x with
  | none => exact ⟨[], u.write_none⟩
  | some y =>
    obtain ⟨s, k, hk, rfl⟩ := hx y rfl
    by_cases hu : u = .asKept
    · subst hu
      have hk' : (k : ℚ) ≤ 10 ^ 46 := by exact_mod_cast hk
      obtain ⟨m, hm, happ⟩ := hundredths_approximates s (hk.trans (by norm_num))
      have hle := happ.le
      obtain ⟨c, hround, _⟩ := roundToHundredths_finite s (m := m) (by linarith)
      rw [← hm] at hround
      exact exists_writeNumber_of_round hround
    · obtain ⟨j, hround, _⟩ := div_factor_round u s hk
      rw [WireUnit.write_of_ne hu]
      exact exists_writeNumber_of_round hround

end WeatherTelegram
