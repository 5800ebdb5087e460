import WeatherTelegram.Proofs.Text.Digit
import WeatherTelegram.Proofs.Wire.Hundredths

/-!
# `Proofs.Wire.Token` — a written number is read back

A number on the grid of hundredths is written with two decimal places, which show its count exactly.
Read as a literal these digits denote the count over one hundred, so the nearest double is the number
that was written.

## Contents
- `hundredthsText`: the token of a count of hundredths, and `writeNumber_of_round`.
- `parse?_hundredthsText`, `toBinary64_hundredths`: the literal of such a token and its double;
  `hundredthsText_injective`.
- `singleLimit_eq`, `eq_of_sameValue_silentMark`: the two tests of the reader on the grid.
- `readNumber_cases`: what the reader can make of any token.
- `readNumber_hundredthsText`: what it makes of a written one.
-/

namespace WeatherTelegram

open Binary64

/-- The token of a number of hundredths. -/
def hundredthsText (negative : Bool) (count : ℕ) : Text := signText negative ++ pointed 2 count

theorem pointed_two (n : ℕ) :
    pointed 2 n = Text.ofNat (n / 100) ++ '.' :: Text.padded 2 (n % 100) := rfl

theorem length_padded_two (n : ℕ) : (Text.padded 2 (n % 100)).length = 2 :=
  length_padded (by decide) (Nat.mod_lt n (by decide))

/-! ## Writing -/

/-- Two decimal places show a number of hundredths exactly. -/
theorem fixedText_hundredths (s : Bool) {c : ℕ} (hc : c ≤ 10 ^ 15) :
    (hundredths s c).fixedText 2 = hundredthsText s c := by
  have hc' : (c : ℚ) ≤ 10 ^ 15 := by exact_mod_cast hc
  obtain ⟨m, hm, happ⟩ := hundredths_approximates s (hc.trans (by norm_num))
  have hle := happ.le
  have hge := happ.ge
  have hcount : roundHalfEven (m.steps * 100) stepsPerUnit = c := by
    apply roundHalfEven_eq_of_abs_lt stepsPerUnit_pos
    have hvalue : ((m.steps * 100 : ℕ) : ℚ) / stepsPerUnit = m.value * 100 := by
      unfold Magnitude.value
      push_cast
      ring
    rw [hvalue, abs_lt]
    constructor <;> linarith
  rw [hm]
  show signText s ++ pointed 2 (roundHalfEven (m.steps * 100) stepsPerUnit) = _
  rw [hcount]
  rfl

/-- A number is written as the hundredths that it rounds to. -/
theorem writeNumber_of_round {x : Binary64} {s : Bool} {c : ℕ} (hc : c ≤ 10 ^ 15)
    (h : x.roundToHundredths = .ok (hundredths s c)) :
    writeNumber (some x) = .ok (hundredthsText s c) := by
  show x.roundToHundredths.map (·.fixedText 2) = _
  rw [h, ← fixedText_hundredths s hc]
  rfl

/-! ## The literal -/

theorem digitValue?_point : digitValue? '.' = none := by decide

/-- Behind the sign of a written number stand only digits and a point. -/
theorem takeSign_signText (s : Bool) {t : Text} (h : ∀ c, t.head? = some c → c.isDigit = true) :
    takeSign (signText s ++ t) = (s, t) := by
  cases s
  · cases t with
    | nil => rfl
    | cons c t =>
      have hc := h c rfl
      show takeSign (c :: t) = _
      unfold takeSign
      split
      · rename_i heq
        injection heq with heq _
        subst heq
        exact absurd hc (by decide)
      · rename_i heq
        injection heq with heq _
        subst heq
        exact absurd hc (by decide)
      · rfl
  · rfl

/-- The literal that a written number is. -/
theorem parse?_hundredthsText (s : Bool) (c : ℕ) :
    DecimalLiteral.parse? (hundredthsText s c) =
      some ⟨s, digitValues (Text.ofNat (c / 100)), digitValues (Text.padded 2 (c % 100)), 0⟩ := by
  have hsign : takeSign (hundredthsText s c)
      = (s, Text.ofNat (c / 100) ++ '.' :: Text.padded 2 (c % 100)) :=
    takeSign_signText s fun _ => isDigit_of_head?_append
  have hwhole : takeDigits (Text.ofNat (c / 100) ++ '.' :: Text.padded 2 (c % 100))
      = (digitValues (Text.ofNat (c / 100)), '.' :: Text.padded 2 (c % 100)) := by
    apply takeDigits_of_spells (isDigits_ofNat _).spells
    intro d hd
    cases hd
    exact digitValue?_point
  have hfraction : DecimalLiteral.takeFraction ('.' :: Text.padded 2 (c % 100))
      = (digitValues (Text.padded 2 (c % 100)), []) := (isDigits_padded 2 (c % 100)).spells.takeDigits_eq
  have hne : (digitValues (Text.ofNat (c / 100))).isEmpty = false := by
    rw [List.isEmpty_eq_false_iff, ← List.length_pos_iff, length_digitValues, List.length_pos_iff]
    exact ofNat_ne_nil _
  unfold DecimalLiteral.parse?
  rw [hsign]
  simp only [hwhole, hfraction, hne, Bool.false_and, Bool.false_eq_true, if_false]
  rfl

theorem valueOf_pointed (c : ℕ) :
    valueOf (digitValues (Text.ofNat (c / 100)) ++ digitValues (Text.padded 2 (c % 100))) = c := by
  rw [valueOf_append, valueOf_ofNat, valueOf_padded, length_digitValues,
    length_padded_two]
  omega

/-- Different numbers of hundredths are written differently. -/
theorem hundredthsText_injective {s t : Bool} {c d : ℕ} (h : hundredthsText s c = hundredthsText t d) :
    s = t ∧ c = d := by
  have hparse := congrArg DecimalLiteral.parse? h
  rw [parse?_hundredthsText, parse?_hundredthsText, Option.some.injEq, DecimalLiteral.mk.injEq] at hparse
  obtain ⟨hsign, hwhole, hfraction, _⟩ := hparse
  refine ⟨hsign, ?_⟩
  rw [← valueOf_pointed c, hwhole, hfraction, valueOf_pointed]

theorem nearestDecimal?_two_places (n : ℕ) :
    Magnitude.nearestDecimal? n (-2) = Magnitude.nearest? (n * stepsPerUnit) 100 := by
  unfold Magnitude.nearestDecimal?
  rw [if_neg (by decide)]
  generalize n * stepsPerUnit = k
  congr 1

/-- Digits with two of them behind the point denote their number over one hundred. -/
theorem ofDecimal?_two_places {ds : List ℕ} (hds : ds.length ≤ 311) :
    Magnitude.ofDecimal? ds (-2) = Magnitude.nearest? (valueOf ds * stepsPerUnit) 100 := by
  unfold Magnitude.ofDecimal?
  cases ds with
  | nil =>
    have hnil : valueOf [] = 0 := rfl
    rw [if_pos List.isEmpty_nil, hnil, Nat.zero_mul]
    decide
  | cons d ds =>
    rw [if_neg (by simp), if_neg (by omega), if_neg (by omega), nearestDecimal?_two_places]

/-- A literal stands for the double nearest to the quotient of steps that its digits denote. -/
theorem toBinary64_eq_ofSteps {l : DecimalLiteral} {num den : ℕ}
    (h : Magnitude.ofDecimal? ((l.whole ++ l.fraction).dropWhile (· == 0))
      (l.exponent - l.fraction.length) = Magnitude.nearest? num den) :
    l.toBinary64 = ofSteps l.negative num den := by
  unfold DecimalLiteral.toBinary64 ofSteps
  cases hm : Magnitude.nearest? num den with
  | some m => rw [h, hm]
  | none => rw [h, hm]

/-- The double nearest to a written number. -/
theorem toBinary64_hundredths (s : Bool) {c : ℕ} (hwhole : (Text.ofNat (c / 100)).length ≤ 309) :
    DecimalLiteral.toBinary64
      ⟨s, digitValues (Text.ofNat (c / 100)), digitValues (Text.padded 2 (c % 100)), 0⟩
      = hundredths s c := by
  have hfraction : (digitValues (Text.padded 2 (c % 100))).length = 2 := by
    rw [length_digitValues, length_padded_two]
  have hvalue := valueOf_pointed c
  have hlength : (digitValues (Text.ofNat (c / 100)) ++ digitValues (Text.padded 2 (c % 100))).length
      ≤ 311 := by
    rw [List.length_append, hfraction, length_digitValues]
    omega
  have hdrop := (List.dropWhile_sublist (l := digitValues (Text.ofNat (c / 100)) ++
    digitValues (Text.padded 2 (c % 100))) (· == 0)).length_le
  have hexp : (0 : ℤ) - (2 : ℕ) = -2 := rfl
  have hdecimal : Magnitude.ofDecimal? ((digitValues (Text.ofNat (c / 100)) ++
      digitValues (Text.padded 2 (c % 100))).dropWhile (· == 0))
      (0 - (digitValues (Text.padded 2 (c % 100))).length)
      = Magnitude.nearest? (c * stepsPerUnit) 100 := by
    rw [hfraction, hexp, ofDecimal?_two_places (by omega), valueOf_dropWhile_zero, hvalue]
  exact toBinary64_eq_ofSteps hdecimal

/-! ## Reading -/

theorem singleLimit_eq :
    ∃ m, singleLimit = .finite false m ∧ 10 ^ 38 ≤ m.value ∧ m.value ≤ 10 ^ 39 := by
  obtain ⟨m, hm, happ⟩ := ofRatio_approximates false 340282346638528859811704183484516925440
    Nat.one_pos (inRange_of_le (by norm_num))
  have hle := happ.le
  have hge := happ.ge
  push_cast at hle hge
  refine ⟨m, hm, ?_, ?_⟩ <;> linarith

theorem silentMark_eq : ∃ m, silentMark = .finite false m ∧ |m.value - 9999 / 10| ≤ 1 / 10 ^ 6 := by
  obtain ⟨m, hm, happ⟩ := ofRatio_approximates false 9999 (show 0 < 10 by decide)
    (inRange_of_le (by norm_num))
  have hle := happ.le
  have hge := happ.ge
  push_cast at hle hge
  refine ⟨m, hm, abs_le.mpr ⟨?_, ?_⟩⟩ <;> linarith

theorem hundredths_silentMark : hundredths false 99990 = silentMark := by decide +kernel

/-- On the grid only 999.90 is taken for the mark of a silent sensor. -/
theorem eq_of_sameValue_silentMark {s : Bool} {c : ℕ} (hc : c ≤ 10 ^ 15)
    (h : (hundredths s c).sameValue silentMark = true) : s = false ∧ c = 99990 := by
  have hc' : (c : ℚ) ≤ 10 ^ 15 := by exact_mod_cast hc
  obtain ⟨m, hm, happ⟩ := hundredths_approximates s (hc.trans (by norm_num))
  have hle := happ.le
  have hge := happ.ge
  obtain ⟨n, hn, herr⟩ := silentMark_eq
  obtain ⟨hl, hr⟩ := abs_le.mp herr
  rw [hm, hn, sameValue_finite_iff] at h
  cases s with
  | true =>
    rw [value_finite_true, value_finite_false] at h
    linarith [m.value_nonneg]
  | false =>
    rw [value_finite_false, value_finite_false] at h
    refine ⟨rfl, natCast_eq_of_abs_sub_lt_one ?_⟩
    push_cast
    rw [abs_lt]
    constructor <;> linarith

/-- **Reading never fails.** A token gives nothing, or a number of hundredths in single range. -/
theorem readNumber_cases (keepsMark : Bool) (token : Text) :
    readNumber keepsMark token = .ok none ∨
      ∃ s, ∃ c ≤ 10 ^ 45, readNumber keepsMark token = .ok (some (hundredths s c)) := by
  unfold readNumber
  cases DecimalLiteral.parse? token with
  | none => exact .inl rfl
  | some literal =>
    simp only
    generalize literal.toBinary64 = x
    by_cases hfits : (!x.isFinite || singleLimit.lt x.abs) = true
    · exact .inl (by rw [if_pos hfits])
    by_cases hmark : (!keepsMark && x.sameValue silentMark) = true
    · exact .inl (by rw [if_neg hfits, if_pos hmark])
    rw [if_neg hfits, if_neg hmark]
    rw [Bool.or_eq_true, not_or, Bool.not_eq_true', Bool.not_eq_false] at hfits
    obtain ⟨hfinite, hlimit⟩ := hfits
    obtain ⟨s, m, rfl⟩ := exists_finite hfinite
    obtain ⟨n, hn, _, hmost⟩ := singleLimit_eq
    have hle : m.value ≤ n.value := by
      rw [← not_lt]
      intro hlt
      rw [hn] at hlimit
      exact hlimit ((lt_finite_iff false false n m).mpr hlt)
    obtain ⟨c, hc, herr⟩ := roundToHundredths_finite s (m := m) (by linarith)
    have hcount := (abs_le.mp herr).2
    have hbound : (c : ℚ) ≤ (10 ^ 45 : ℕ) := by
      push_cast
      linarith
    exact .inr ⟨s, c, by exact_mod_cast hbound, by rw [hc]; rfl⟩

/-- **Reading back.** The reader gives the number that was written, unless it is the mark of a silent
    sensor. -/
theorem readNumber_hundredthsText {keepsMark s : Bool} {c : ℕ} (hc : c ≤ 10 ^ 15)
    (hmark : keepsMark = true ∨ ¬(s = false ∧ c = 99990)) :
    readNumber keepsMark (hundredthsText s c) = .ok (some (hundredths s c)) := by
  have hc' : (c : ℚ) ≤ 10 ^ 15 := by exact_mod_cast hc
  obtain ⟨m, hm, happ⟩ := hundredths_approximates s (hc.trans (by norm_num))
  have hle := happ.le
  obtain ⟨n, hn, hlimit, _⟩ := singleLimit_eq
  have hfits : (!(hundredths s c).isFinite || singleLimit.lt (hundredths s c).abs) = false := by
    rw [Bool.or_eq_false_iff, hm, hn]
    refine ⟨rfl, ?_⟩
    rw [Bool.eq_false_iff]
    intro hlt
    have hlt' : n.value < m.value := (lt_finite_iff false false n m).mp hlt
    linarith
  have hkept : (!keepsMark && (hundredths s c).sameValue silentMark) = false := by
    rw [Bool.eq_false_iff]
    intro hsame
    rw [Bool.and_eq_true, Bool.not_eq_true'] at hsame
    rcases hmark with hkeeps | hne
    · rw [hkeeps] at hsame
      exact absurd hsame.1 (by decide)
    · exact hne (eq_of_sameValue_silentMark hc hsame.2)
  have hwhole := (length_ofNat_le_iff (n := c / 100) (show 0 < 16 by decide)).mpr (by omega)
  unfold readNumber
  rw [parse?_hundredthsText]
  simp only [toBinary64_hundredths s (hwhole.trans (by decide)), hfits, hkept, Bool.false_eq_true, if_false,
    roundToHundredths_hundredths s hc]
  rfl

end WeatherTelegram
