import WeatherTelegram.Proofs.Wire.Accuracy

/-!
# `Proofs.Wire.Order` — rounding and reading keep order and sign

A hundredfold, a sum with one half, a floor and a quotient by one hundred: none of these steps reverses an
order, so that rounding does not, of magnitudes; below zero the magnitudes are ordered the other way round
and rounded alike, since the sign takes no part. What two tokens are read as is therefore ordered like what
they say, at any size, in each unit, and the token of the other sign is read as the number of the other
sign.

## Contents
- **Counting.** `Counts`, `Counts.mono`, `Counts.withSign_le`, `counts_of_round`.
- **Rounding.** `value_round_mono`, `roundToHundredths_neg`.
- **Reading.** `value_readNumber_mono`, `readNumber_neg`.
- **In any unit.** `value_mul_mono`, `value_readScaledNumber_mono`, `readScaledNumber_neg`.
- **Together.** `reading_keeps_order_and_sign`.
-/

namespace WeatherTelegram

open Binary64

-- one is far too many steps to be counted out, so that no proof below may look at their number
attribute [local irreducible] stepsPerUnit

/-! ## Counting -/

/-- **How rounding counts**: to the floor of the double nearest to a half more than the double nearest to the
    hundredfold. -/
def Counts (m : Magnitude) (c : ℕ) : Prop :=
  ∃ p r : Magnitude, (Binary64.finite false p).IsNearest (m.value * 100) ∧
    (Binary64.finite false r).IsNearest (p.value + 1 / 2) ∧ (c : ℚ) ≤ r.value ∧ r.value < c + 1

namespace Counts

/-- **No step of the count reverses an order.** -/
theorem mono {m n : Magnitude} {c d : ℕ} (hm : Counts m c) (hn : Counts n d) (h : m.value ≤ n.value) :
    c ≤ d := by
  obtain ⟨p, r, hp, hr, hc, _⟩ := hm
  obtain ⟨p', r', hp', hr', _, hd⟩ := hn
  have hproduct : p.value ≤ p'.value := hp.mono hp' (by linarith)
  have hsum : r.value ≤ r'.value := hr.mono hr' (by linarith)
  have hlt : (c : ℚ) < d + 1 := by linarith
  exact Nat.lt_succ_iff.mp (by exact_mod_cast hlt)

/-- Zero counts to zero. -/
theorem eq_zero {m : Magnitude} {c : ℕ} (hm : Counts m c) (h : m.value = 0) : c = 0 := by
  obtain ⟨p, r, hp, hr, hc, _⟩ := hm
  obtain ⟨o, _, ho⟩ := half_eq
  have hzero : p.value = 0 := by
    have hnear := isNearest_self (x := zero) rfl
    rw [h, zero_mul] at hp
    rw [value_zero] at hnear
    exact (hp.value_eq hnear).trans value_zero
  have hhalf : r.value = 1 / 2 := by
    have hnear := isNearest_self (x := .finite false o) rfl
    rw [hzero, zero_add] at hr
    rw [value_finite_false, ho] at hnear
    exact (hr.value_eq hnear).trans ho
  have hlt : (c : ℚ) < 1 := by linarith
  exact Nat.lt_one_iff.mp (by exact_mod_cast hlt)

/-- **Counts under a sign are ordered** like the values that they count. -/
theorem withSign_le {s t : Bool} {m n : Magnitude} {c d : ℕ} (hm : Counts m c) (hn : Counts n d)
    (h : withSign s m.value ≤ withSign t n.value) : withSign s (c / 100) ≤ withSign t (d / 100) := by
  have hc : (0 : ℚ) ≤ c / 100 := by positivity
  have hd : (0 : ℚ) ≤ d / 100 := by positivity
  cases s <;> cases t <;> simp only [withSign_false, withSign_true] at h ⊢
  · have hle : (c : ℚ) ≤ d := by exact_mod_cast hm.mono hn h
    linarith
  · -- only a zero is not above one that is not positive
    have hmpos := m.value_nonneg
    have hnpos := n.value_nonneg
    rw [hm.eq_zero (by linarith), hn.eq_zero (by linarith)]
    norm_num
  · linarith
  · have hle : (d : ℚ) ≤ c := by exact_mod_cast hn.mono hm (neg_le_neg_iff.mp h)
    linarith

end Counts

/-- **What a double rounds to** is what its magnitude counts to, under its own sign. -/
theorem counts_of_round {x z : Binary64} (h : x.roundToHundredths = .ok z) :
    ∃ s m c, x = .finite s m ∧ Counts m c ∧ z.IsNearest (withSign s (c / 100)) := by
  obtain ⟨s, m, p, r, c, rfl, hp, hr, hfloor, hlt, rfl⟩ := exists_floor_of_round h
  obtain ⟨o, ho, hhalf⟩ := half_eq
  obtain ⟨w, hw, hhundred⟩ := hundred_eq
  refine ⟨s, m, c, rfl, ⟨p, r, ?_, ?_, ?_⟩, hundredths_isNearest s hlt⟩
  · have hproduct : Binary64.finite false m * .finite false w = .finite false p := by
      rw [← hw]
      exact hp
    have hnear := mul_isNearest (s := false) (t := false) (m := m) (n := w) (by rw [hproduct]; rfl)
    rwa [hproduct, value_finite_false, value_finite_false, hhundred] at hnear
  · rw [ho] at hr
    have hnear := add_isNearest (m := p) (n := o) (by rw [hr]; rfl)
    rwa [hr, hhalf] at hnear
  · obtain ⟨c', hc', hbounds⟩ := floor?_finite r
    obtain rfl : c' = c := Int.ofNat.inj (Except.ok.inj (hc'.symm.trans hfloor))
    exact hbounds

/-! ## Rounding -/

/-- Only a finite double can be rounded, and it is rounded to a finite one. -/
theorem isFinite_of_round {x z : Binary64} (h : x.roundToHundredths = .ok z) :
    x.isFinite = true ∧ z.isFinite = true := by
  obtain ⟨_, _, _, rfl, _, hnear⟩ := counts_of_round h
  exact ⟨rfl, hnear.isFinite⟩

/-- **Rounding keeps order.** -/
theorem value_round_mono {x y z w : Binary64} (hx : x.roundToHundredths = .ok z)
    (hy : y.roundToHundredths = .ok w) (h : x.value ≤ y.value) : z.value ≤ w.value := by
  obtain ⟨s, m, c, rfl, hm, hz⟩ := counts_of_round hx
  obtain ⟨t, n, d, rfl, hn, hw⟩ := counts_of_round hy
  rw [value_eq_withSign, value_eq_withSign] at h
  exact hz.mono hw (hm.withSign_le hn h)

theorem copySign_neg (y : Binary64) {x : Binary64} (hx : x.isFinite = true) :
    y.copySign (-x) = -y.copySign x := by
  obtain ⟨s, m, rfl⟩ := exists_finite hx
  cases y <;> rfl

/-- **Rounding keeps the sign**, where it fails too. -/
theorem roundToHundredths_neg {x : Binary64} (hx : x.isFinite = true) :
    (-x).roundToHundredths = x.roundToHundredths.map (-·) := by
  have habs : (-x).abs = x.abs := abs_neg x
  unfold Binary64.roundToHundredths
  rw [habs]
  cases (x.abs * 100 + half).floor? with
  | error cause => rfl
  | ok count => exact congrArg Except.ok (copySign_neg _ hx)

theorem round_neg_of_round {x z w : Binary64} (hx : x.roundToHundredths = .ok z)
    (hw : (-x).roundToHundredths = .ok w) : w = -z := by
  rw [roundToHundredths_neg (isFinite_of_round hx).1, hx] at hw
  exact (Except.ok.inj hw).symm

/-! ## Reading -/

theorem le_iff_value_le {x y : Binary64} (hx : x.isFinite = true) (hy : y.isFinite = true) :
    x ≤ y ↔ x.value ≤ y.value := by
  obtain ⟨s, m, rfl⟩ := exists_finite hx
  obtain ⟨t, n, rfl⟩ := exists_finite hy
  exact le_finite_iff s t m n

/-- The literal of the other sign stands for the double of the other sign. -/
theorem toBinary64_neg (l : DecimalLiteral) : l.neg.toBinary64 = -l.toBinary64 := by
  unfold DecimalLiteral.toBinary64 DecimalLiteral.neg
  dsimp only
  generalize Magnitude.ofDecimal? _ _ = magnitude
  cases magnitude <;> rfl

section

variable {keepsMark : Bool} {t t' : Text} {l l' : DecimalLiteral} {z z' : Binary64}

/-- **Numbers are ordered** like what their tokens say. -/
theorem value_readNumber_mono (hl : l.Spells t) (hl' : l'.Spells t') (h : l.value ≤ l'.value)
    (hz : readNumber keepsMark t = .ok (some z)) (hz' : readNumber keepsMark t' = .ok (some z')) :
    z.value ≤ z'.value := by
  obtain ⟨hnear, hround⟩ := round_of_readNumber hl hz
  obtain ⟨hnear', hround'⟩ := round_of_readNumber hl' hz'
  exact value_round_mono hround hround' (hnear.mono hnear' h)

/-- **The token of the other sign** is read as the number of the other sign. -/
theorem readNumber_neg (hl : l.Spells t) (hl' : l.neg.Spells t')
    (hz : readNumber keepsMark t = .ok (some z)) (hz' : readNumber keepsMark t' = .ok (some z')) :
    z' = -z := by
  have hround' := (round_of_readNumber hl' hz').2
  rw [toBinary64_neg] at hround'
  exact round_neg_of_round (round_of_readNumber hl hz).2 hround'

theorem isFinite_of_readNumber (hz : readNumber keepsMark t = .ok (some z)) : z.isFinite = true := by
  obtain ⟨_, _, _, hround⟩ := readNumber_eq_some_iff.mp hz
  exact (isFinite_of_round hround).2

end

/-! ## In any unit -/

theorem readScaledNumber_of_readNumber {factor : Binary64} {keepsMark : Bool} {t : Text} {z : Binary64}
    (hz : readNumber keepsMark t = .ok (some z)) :
    readScaledNumber factor keepsMark t = (z * factor).roundToHundredths.map some := by
  rw [readScaledNumber, hz]
  rfl

/-- A number in another unit is the rounding of a product. -/
theorem exists_number_of_readScaledNumber {factor : Binary64} {keepsMark : Bool} {t : Text} {w : Binary64}
    (h : readScaledNumber factor keepsMark t = .ok (some w)) :
    ∃ z, readNumber keepsMark t = .ok (some z) ∧ (z * factor).roundToHundredths = .ok w := by
  cases hnumber : readNumber keepsMark t with
  | error cause =>
    rw [readScaledNumber, hnumber] at h
    cases h
  | ok number =>
    cases number with
    | none =>
      rw [readScaledNumber, hnumber] at h
      cases h
    | some z =>
      refine ⟨z, rfl, ?_⟩
      rw [readScaledNumber_of_readNumber hnumber] at h
      cases hround : (z * factor).roundToHundredths with
      | error cause =>
        rw [hround] at h
        cases h
      | ok y =>
        rw [hround] at h
        cases h
        rfl

/-- **Products with a factor that is not negative keep order.** -/
theorem value_mul_mono {x y : Binary64} {f : Magnitude} (hx : x.isFinite = true) (hy : y.isFinite = true)
    (hxf : (x * .finite false f).isFinite = true) (hyf : (y * .finite false f).isFinite = true)
    (h : x.value ≤ y.value) : (x * .finite false f).value ≤ (y * .finite false f).value := by
  obtain ⟨s, m, rfl⟩ := exists_finite hx
  obtain ⟨t, n, rfl⟩ := exists_finite hy
  exact (mul_isNearest hxf).mono (mul_isNearest hyf) (mul_le_mul_of_nonneg_right h f.value_nonneg)

theorem ofSteps_not (s : Bool) (num den : ℕ) : ofSteps (!s) num den = -ofSteps s num den := by
  unfold ofSteps
  cases Magnitude.nearest? num den <;> rfl

/-- A product of finite doubles is what the product of their steps comes to, one being the unit. -/
theorem finite_mul_finite (s t : Bool) (m n : Magnitude) :
    Binary64.finite s m * .finite t n = ofSteps (s != t) (m.steps * n.steps) stepsPerUnit := by
  show Binary64.mul (.finite s m) (.finite t n) = _
  rw [Binary64.mul]

theorem neg_finite (s : Bool) (m : Magnitude) : -Binary64.finite s m = .finite (!s) m := rfl

theorem neg_mul_finite {x : Binary64} (hx : x.isFinite = true) (t : Bool) (n : Magnitude) :
    -x * .finite t n = -(x * .finite t n) := by
  obtain ⟨s, m, rfl⟩ := exists_finite hx
  rw [neg_finite, finite_mul_finite, finite_mul_finite, ← ofSteps_not, Bool.not_bne]

namespace WireUnit

variable (u : WireUnit) {keepsMark : Bool} {t t' : Text} {l l' : DecimalLiteral} {w w' : Binary64}

/-- **Numbers in any unit are ordered** like what their tokens say. -/
theorem value_readScaledNumber_mono (hl : l.Spells t) (hl' : l'.Spells t') (h : l.value ≤ l'.value)
    (hw : readScaledNumber u.factor keepsMark t = .ok (some w))
    (hw' : readScaledNumber u.factor keepsMark t' = .ok (some w')) : w.value ≤ w'.value := by
  obtain ⟨z, hz, hround⟩ := exists_number_of_readScaledNumber hw
  obtain ⟨z', hz', hround'⟩ := exists_number_of_readScaledNumber hw'
  obtain ⟨f, hf, _⟩ := factor_near u
  rw [hf] at hround hround'
  exact value_round_mono hround hround' (value_mul_mono (isFinite_of_readNumber hz)
    (isFinite_of_readNumber hz') (isFinite_of_round hround).1 (isFinite_of_round hround').1
    (value_readNumber_mono hl hl' h hz hz'))

/-- **The token of the other sign** is read as the number of the other sign, in any unit. -/
theorem readScaledNumber_neg (hl : l.Spells t) (hl' : l.neg.Spells t')
    (hw : readScaledNumber u.factor keepsMark t = .ok (some w))
    (hw' : readScaledNumber u.factor keepsMark t' = .ok (some w')) : w' = -w := by
  obtain ⟨z, hz, hround⟩ := exists_number_of_readScaledNumber hw
  obtain ⟨z', hz', hround'⟩ := exists_number_of_readScaledNumber hw'
  obtain ⟨f, hf, _⟩ := factor_near u
  obtain rfl := readNumber_neg hl hl' hz hz'
  rw [hf] at hround hround'
  rw [neg_mul_finite (isFinite_of_readNumber hz)] at hround'
  exact round_neg_of_round hround hround'

theorem isFinite_of_readScaledNumber (hw : readScaledNumber u.factor keepsMark t = .ok (some w)) :
    w.isFinite = true := by
  obtain ⟨_, _, hround⟩ := exists_number_of_readScaledNumber hw
  exact (isFinite_of_round hround).2

end WireUnit

/-! ## Together -/

/-- **Reading and rounding keep order and sign.** Of two tokens the one that says no more is read as the
    number that is no larger, wherever both have one, and the token of the other sign as the number of the
    other sign; so in each unit, and for finite doubles that can be rounded. A double can be rounded exactly
    if its negative can. -/
theorem reading_keeps_order_and_sign (keepsMark : Bool) :
    (∀ t t' l l', DecimalLiteral.Spells l t → DecimalLiteral.Spells l' t' → l.value ≤ l'.value →
      (∀ z z', readNumber keepsMark t = .ok (some z) → readNumber keepsMark t' = .ok (some z') → z ≤ z') ∧
      ∀ (u : WireUnit) w w', readScaledNumber u.factor keepsMark t = .ok (some w) →
        readScaledNumber u.factor keepsMark t' = .ok (some w') → w ≤ w') ∧
    (∀ t t' l, DecimalLiteral.Spells l t → DecimalLiteral.Spells l.neg t' →
      (∀ z z', readNumber keepsMark t = .ok (some z) → readNumber keepsMark t' = .ok (some z') → z' = -z) ∧
      ∀ (u : WireUnit) w w', readScaledNumber u.factor keepsMark t = .ok (some w) →
        readScaledNumber u.factor keepsMark t' = .ok (some w') → w' = -w) ∧
    (∀ x y z w : Binary64, x.isFinite = true → y.isFinite = true → x ≤ y →
      x.roundToHundredths = .ok z → y.roundToHundredths = .ok w → z ≤ w) ∧
    ∀ x : Binary64, x.isFinite = true → (-x).roundToHundredths = x.roundToHundredths.map (-·) := by
  refine ⟨fun t t' l l' hl hl' h => ⟨fun z z' hz hz' => ?_, fun u w w' hw hw' => ?_⟩,
    fun t t' l hl hl' => ⟨fun z z' => readNumber_neg hl hl', fun u w w' => u.readScaledNumber_neg hl hl'⟩,
    fun x y z w hx hy h hz hw => ?_, fun x hx => roundToHundredths_neg hx⟩
  · rw [le_iff_value_le (isFinite_of_readNumber hz) (isFinite_of_readNumber hz')]
    exact value_readNumber_mono hl hl' h hz hz'
  · rw [le_iff_value_le (u.isFinite_of_readScaledNumber hw) (u.isFinite_of_readScaledNumber hw')]
    exact u.value_readScaledNumber_mono hl hl' h hw hw'
  · rw [le_iff_value_le hx hy] at h
    rw [le_iff_value_le (isFinite_of_round hz).2 (isFinite_of_round hw).2]
    exact value_round_mono hz hw h

/-- Two tokens at the two ends of what has a number, and the halves of a hundredth on both sides of zero. -/
theorem reading_keeps_order_and_sign_ends :
    (∃ z z' w w', DecimalLiteral.Spells ⟨true, [3, 4], [], 37⟩ (Text.ofString "-34e37") ∧
      DecimalLiteral.Spells ⟨false, [3, 4], [], 37⟩ (Text.ofString "34e37") ∧
      readNumber false (Text.ofString "-34e37") = .ok (some z) ∧
      readNumber false (Text.ofString "34e37") = .ok (some z') ∧ z ≤ z' ∧ z' = -z ∧
      readScaledNumber (WireUnit.factor .tipsPerInterval) false (Text.ofString "-34e37") = .ok (some w) ∧
      readScaledNumber (WireUnit.factor .tipsPerInterval) false (Text.ofString "34e37") = .ok (some w') ∧
      w ≤ w' ∧ w' = -w) ∧
    (ofRatio true 1 8).roundToHundredths = .ok (ofRatio true 13 100) ∧
    (ofRatio false 1 8).roundToHundredths = .ok (ofRatio false 13 100) ∧
    ofRatio true 13 100 ≤ ofRatio false 13 100 := by
  obtain ⟨horder, hsign, hround, hneg⟩ := reading_keeps_order_and_sign false
  refine ⟨?_, ?_⟩
  · have hl : DecimalLiteral.Spells ⟨true, [3, 4], [], 37⟩ (Text.ofString "-34e37") :=
      DecimalLiteral.parse?_eq_some_iff.mp (by decide +kernel)
    have hl' : DecimalLiteral.Spells ⟨false, [3, 4], [], 37⟩ (Text.ofString "34e37") :=
      DecimalLiteral.parse?_eq_some_iff.mp (by decide +kernel)
    have hpresent : readNumber false (Text.ofString "-34e37") ≠ .ok none := by decide +kernel
    have hpresent' : readNumber false (Text.ofString "34e37") ≠ .ok none := by decide +kernel
    obtain ⟨z, hz⟩ := not_not.mp (mt (readNumber_eq_none_iff false _).mpr hpresent)
    obtain ⟨z', hz'⟩ := not_not.mp (mt (readNumber_eq_none_iff false _).mpr hpresent')
    obtain ⟨w, hw⟩ := (WireUnit.exists_read_iff .tipsPerInterval false _).mpr ⟨z, hz⟩
    obtain ⟨w', hw'⟩ := (WireUnit.exists_read_iff .tipsPerInterval false _).mpr ⟨z', hz'⟩
    have hle : DecimalLiteral.value ⟨true, [3, 4], [], 37⟩
        ≤ DecimalLiteral.value ⟨false, [3, 4], [], 37⟩ := by
      norm_num [DecimalLiteral.value, valueOf]
    exact ⟨z, z', w, w', hl, hl', hz, hz', (horder _ _ _ _ hl hl' hle).1 z z' hz hz',
      (hsign _ _ _ hl hl').1 z z' hz hz', hw, hw', (horder _ _ _ _ hl hl' hle).2 _ w w' hw hw',
      (hsign _ _ _ hl hl').2 _ w w' hw hw'⟩
  · have hpos : (ofRatio false 1 8).roundToHundredths = .ok (ofRatio false 13 100) := by decide +kernel
    have hfinite : (ofRatio false 1 8).isFinite = true := by decide +kernel
    have hfinite' : (ofRatio true 1 8).isFinite = true := by decide +kernel
    have hminus : ofRatio true 1 8 = -ofRatio false 1 8 := by decide +kernel
    have hnegative : (ofRatio true 1 8).roundToHundredths = .ok (ofRatio true 13 100) := by
      rw [hminus, hneg _ hfinite, hpos]
      decide +kernel
    exact ⟨hnegative, hpos, hround _ _ _ _ hfinite' hfinite (by decide +kernel) hnegative hpos⟩

end WeatherTelegram
