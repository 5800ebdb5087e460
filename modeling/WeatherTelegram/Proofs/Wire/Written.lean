import WeatherTelegram.Proofs.Binary64.Canonical
import WeatherTelegram.Proofs.Wire.Unit

/-!
# `Proofs.Wire.Written` — what is read from a number of any size

A number that was rounded to hundredths is written with two decimal places of its exact value, and its
double is the one nearest to what these say. Where doubles lie closer together than hundredths this is
because the two places give back the count; where they lie farther apart the two places are off by half a
hundredth at most, and no double but the number is as near as that. So the reader meets the very number
that the writer rounded to, and finds nothing exactly when that number is the mark of a silent sensor or
does not fit single precision.

## Contents
- **Rounding.** `exists_floor_of_round`, `roundToHundredths_eq_ok`: what any double rounds to is a hundredth.
- **Writing.** `nearest?_shownCount`, `exists_count_of_round`.
- **Reading.** `IsLost`, `readNumber_eq_some_iff`, `readNumber_written_eq_none_iff`.
- **In any unit.** `WireUnit.write_some`, `WireUnit.read_written_eq_none_iff`.
-/

namespace WeatherTelegram

open Binary64

-- one is far too many steps to be counted out, so that no proof below may look at their number
attribute [local irreducible] stepsPerUnit

/-! ## Rounding -/

theorem ofSteps_cases (s : Bool) (num den : ℕ) :
    (∃ m, Magnitude.nearest? num den = some m ∧ ofSteps s num den = .finite s m) ∨
      ofSteps s num den = .infinite s := by
  unfold ofSteps
  cases Magnitude.nearest? num den with
  | none => exact .inr rfl
  | some m => exact .inl ⟨m, rfl, rfl⟩

theorem floor?_lt (r : Magnitude) : ∃ c : ℕ, floor? (.finite false r) = .ok c ∧ c < 2 ^ 1024 := by
  refine ⟨r.steps / stepsPerUnit, rfl, ?_⟩
  rw [Nat.div_lt_iff_lt_mul stepsPerUnit_pos, stepsPerUnit_eq, ← pow_add]
  have hscale := r.scale_le
  refine r.steps_lt.trans_le (Nat.pow_le_pow_right (by decide) ?_)
  unfold precision stepExponent
  omega

/-- A hundred times an absolute value: only a finite double can give a finite one. -/
theorem hundredfold_cases (x : Binary64) : x.abs * 100 = .nan ∨ x.abs * 100 = .infinite false ∨
    ∃ s m p, x = .finite s m ∧ x.abs * 100 = .finite false p := by
  obtain ⟨w, hw, _⟩ := hundred_eq
  rw [hw]
  cases x with
  | nan => exact .inl rfl
  | infinite s =>
    show (if w.steps = 0 then Binary64.nan else .infinite false) = .nan ∨
      (if w.steps = 0 then Binary64.nan else .infinite false) = .infinite false ∨ _
    split
    · exact .inl rfl
    · exact .inr (.inl rfl)
  | finite s m =>
    have hproduct : (Binary64.finite s m).abs * .finite false w
        = ofSteps false (m.steps * w.steps) stepsPerUnit := rfl
    rw [hproduct]
    rcases ofSteps_cases false (m.steps * w.steps) stepsPerUnit with ⟨p, _, hp⟩ | hp
    · exact .inr (.inr ⟨s, m, p, rfl, hp⟩)
    · exact .inr (.inl hp)

/-- **What rounding goes through**: a product, a sum and a floor, all of them finite. -/
theorem exists_floor_of_round {x z : Binary64} (h : x.roundToHundredths = .ok z) :
    ∃ (s : Bool) (m p r : Magnitude) (c : ℕ), x = .finite s m ∧
      (Binary64.finite s m).abs * 100 = .finite false p ∧
      Binary64.finite false p + half = .finite false r ∧ floor? (.finite false r) = .ok c ∧
      c < 2 ^ 1024 ∧ z = hundredths s c := by
  obtain ⟨o, ho, _⟩ := half_eq
  cases hfloor : (x.abs * 100 + half).floor? with
  | error cause =>
    rw [Binary64.roundToHundredths, hfloor] at h
    cases h
  | ok count =>
    -- an infinite product or sum has no floor
    have hsum := hfloor
    rw [ho] at hsum
    rcases hundredfold_cases x with hp | hp | ⟨s, m, p, rfl, hp⟩
    · rw [hp] at hsum
      cases hsum
    · rw [hp] at hsum
      cases hsum
    · have hadd := add_eq_ofSteps p o
      rw [hp, hadd] at hsum
      rcases ofSteps_cases false (p.steps + o.steps) 1 with ⟨r, _, hr⟩ | hr
      · rw [hr] at hsum
        obtain ⟨c, hc, hlt⟩ := floor?_lt r
        obtain rfl : (c : ℤ) = count := Except.ok.inj (hc.symm.trans hsum)
        have hz := Except.ok.inj (h.symm.trans (roundToHundredths_of_floor? hfloor))
        exact ⟨s, m, p, r, c, rfl, hp, ho ▸ hadd.trans hr, hc, hlt, hz⟩
      · rw [hr] at hsum
        cases hsum

/-- **Rounding gives a hundredth**, of a double of any size that can be rounded at all. -/
theorem roundToHundredths_eq_ok {x z : Binary64} (h : x.roundToHundredths = .ok z) :
    ∃ s m c, x = .finite s m ∧ c < 2 ^ 1024 ∧ z = hundredths s c := by
  obtain ⟨s, m, _, _, c, hx, _, _, _, hlt, hz⟩ := exists_floor_of_round h
  exact ⟨s, m, c, hx, hlt, hz⟩

/-! ## Writing -/

/-- A count that rounding arrives at has a finite double, of at most `2 ^ 1018`. -/
theorem exists_nearest?_of_lt {c : ℕ} (hc : c < 2 ^ 1024) :
    ∃ m, Magnitude.nearest? (c * stepsPerUnit) 100 = some m ∧ m.steps ≤ 2 ^ 1018 * stepsPerUnit := by
  have hunits : 2 ^ 1018 * stepsPerUnit = 2 ^ 48 * 2 ^ 2044 := by
    rw [stepsPerUnit_eq, stepExponent, ← pow_add, ← pow_add]
  have hle : c * stepsPerUnit ≤ 2 ^ 48 * 2 ^ 2044 * 100 := by
    have hcount : c ≤ 2 ^ 1018 * 100 := by omega
    calc c * stepsPerUnit ≤ 2 ^ 1018 * 100 * stepsPerUnit := Nat.mul_le_mul_right _ hcount
      _ = 2 ^ 1018 * stepsPerUnit * 100 := Nat.mul_right_comm _ _ _
      _ = 2 ^ 48 * 2 ^ 2044 * 100 := by rw [hunits]
  have hquotient : c * stepsPerUnit / 100 ≤ 2 ^ 48 * 2 ^ 2044 :=
    Nat.div_le_of_le_mul (hle.trans_eq (Nat.mul_comm _ _))
  have hbinade : ∀ k, 2 ^ 48 * 2 ^ k < 2 ^ (precision + k) := by
    intro k
    rw [pow_add]
    exact Nat.mul_lt_mul_of_pos_right (by decide) (Nat.two_pow_pos k)
  obtain ⟨m, hm⟩ := Magnitude.exists_nearest? (hquotient.trans_lt (hbinade 2044))
  have hcast : ((c * stepsPerUnit : ℕ) : ℚ) / (100 : ℕ) ≤ (2 ^ 48 * 2 ^ 2044 : ℕ) := by
    rw [div_le_iff₀ (by norm_num)]
    exact_mod_cast hle
  refine ⟨m, hm, ?_⟩
  rw [hunits]
  exact Magnitude.steps_le_of_le (by decide) hm (by decide) (by decide) hcast

/-- The count of hundredths that two decimal places of a magnitude show. -/
def shownCount (m : Magnitude) : ℕ := roundHalfEven (m.steps * 100) stepsPerUnit

theorem pow_le_stepsPerUnit {k : ℕ} (h : k ≤ stepExponent) : (2 : ℚ) ^ k ≤ stepsPerUnit := by
  rw [stepsPerUnit_eq]
  exact_mod_cast Nat.pow_le_pow_right (by decide) h

theorem stepsPerUnit_le_pow {k : ℕ} (h : stepExponent ≤ k) : (stepsPerUnit : ℚ) ≤ 2 ^ k := by
  rw [stepsPerUnit_eq]
  exact_mod_cast Nat.pow_le_pow_right (by decide) h

/-- Where doubles are closer together than hundredths, two places show the count. -/
theorem shownCount_of_fine {c : ℕ} {m : Magnitude}
    (hm : Magnitude.nearest? (c * stepsPerUnit) 100 = some m) (hscale : m.scale ≤ 1067) :
    shownCount m = c := by
  have herr := Magnitude.abs_steps_sub_le_scale (by decide) hm
  have hpos := cast_stepsPerUnit_pos
  have hunit : (2 : ℚ) ^ m.scale * 2 ^ 7 ≤ stepsPerUnit := by
    rw [← pow_add]
    exact pow_le_stepsPerUnit (by unfold stepExponent; omega)
  have hnear : |(m.steps : ℚ) - ((c * stepsPerUnit : ℕ) : ℚ) / (100 : ℕ)| ≤ stepsPerUnit / 2 ^ 8 := by
    linarith
  have hscaled : ((m.steps * 100 : ℕ) : ℚ) / stepsPerUnit - c
      = 100 / stepsPerUnit * (m.steps - ((c * stepsPerUnit : ℕ) : ℚ) / (100 : ℕ)) := by
    push_cast
    field_simp
  apply roundHalfEven_eq_of_abs_lt stepsPerUnit_pos
  rw [abs_sub_comm, hscaled, abs_mul, abs_of_pos (by positivity)]
  calc (100 : ℚ) / stepsPerUnit * |m.steps - ((c * stepsPerUnit : ℕ) : ℚ) / (100 : ℕ)|
      ≤ 100 / stepsPerUnit * (stepsPerUnit / 2 ^ 8) :=
        mul_le_mul_of_nonneg_left hnear (by positivity)
    _ = 100 / 2 ^ 8 := by field_simp
    _ < 1 / 2 := by norm_num

/-- Two places are off by half a hundredth at most. -/
theorem abs_steps_sub_shownCount (m : Magnitude) :
    |(m.steps : ℚ) - ((shownCount m * stepsPerUnit : ℕ) : ℚ) / (100 : ℕ)| ≤ stepsPerUnit / 200 := by
  have hpos := cast_stepsPerUnit_pos
  have herr := abs_roundHalfEven_sub_le (m.steps * 100) stepsPerUnit_pos
  have hscaled : (m.steps : ℚ) - ((shownCount m * stepsPerUnit : ℕ) : ℚ) / (100 : ℕ)
      = stepsPerUnit / 100 * (((m.steps * 100 : ℕ) : ℚ) / stepsPerUnit - shownCount m) := by
    push_cast
    field_simp
  rw [hscaled, abs_mul, abs_of_pos (by positivity), abs_sub_comm]
  calc (stepsPerUnit : ℚ) / 100 * |(shownCount m : ℚ) - ((m.steps * 100 : ℕ) : ℚ) / stepsPerUnit|
      ≤ stepsPerUnit / 100 * (1 / 2) := mul_le_mul_of_nonneg_left herr (by positivity)
    _ = stepsPerUnit / 200 := by ring

/-- Where doubles are farther apart than hundredths, what two places show is nearest to the magnitude. -/
theorem nearest?_shownCount_of_coarse {m : Magnitude} (hscale : 1068 ≤ m.scale) :
    Magnitude.nearest? (shownCount m * stepsPerUnit) 100 = some m := by
  have hpos := cast_stepsPerUnit_pos
  have hnear := abs_steps_sub_shownCount m
  have hunit : (stepsPerUnit : ℚ) ≤ 2 ^ m.scale * 2 ^ 6 := by
    rw [← pow_add]
    exact stepsPerUnit_le_pow (by unfold stepExponent; omega)
  have hpow : (0 : ℚ) < 2 ^ m.scale := by positivity
  apply Magnitude.nearest?_eq (by decide) _ (by linarith)
  apply Magnitude.scaleFor_eq
  · -- the least magnitude of the binade is a whole number, which two places cannot undercut
    refine .inr ((Nat.le_div_iff_mul_le (by decide)).mpr ?_)
    have hleast := m.le_steps.resolve_left (by omega)
    have hsplit : 2 ^ (precision - 1 + m.scale)
        = 2 ^ (precision - 1 + m.scale - stepExponent) * stepsPerUnit := by
      rw [stepsPerUnit_eq, ← pow_add, Nat.sub_add_cancel]
      unfold precision stepExponent
      omega
    have hwhole : 2 ^ (precision - 1 + m.scale - stepExponent) * 100 ≤ m.steps * 100 / stepsPerUnit := by
      rw [Nat.le_div_iff_mul_le stepsPerUnit_pos, Nat.mul_right_comm, ← hsplit]
      exact Nat.mul_le_mul_right _ hleast
    have hshown := hwhole.trans (div_le_roundHalfEven _ _)
    calc 2 ^ (precision - 1 + m.scale) * 100
        = 2 ^ (precision - 1 + m.scale - stepExponent) * 100 * stepsPerUnit := by
          rw [hsplit, Nat.mul_right_comm]
      _ ≤ shownCount m * stepsPerUnit := Nat.mul_le_mul_right _ hshown
  · have hmost : (m.steps : ℚ) + 2 ^ m.scale ≤ (2 ^ (precision + m.scale) : ℕ) := by
      exact_mod_cast m.steps_add_unit_le
    have hlower := (abs_le.mp hnear).1
    have hquotient : ((shownCount m * stepsPerUnit : ℕ) : ℚ) / (100 : ℕ)
        < (2 ^ (precision + m.scale) : ℕ) := by linarith
    rw [Nat.div_lt_iff_lt_mul (by decide)]
    rw [div_lt_iff₀ (by norm_num)] at hquotient
    exact_mod_cast hquotient

/-- **Two places are enough.** The count that two decimal places of a hundredth show stands for the same
    double. -/
theorem nearest?_shownCount {c : ℕ} {m : Magnitude}
    (hm : Magnitude.nearest? (c * stepsPerUnit) 100 = some m) :
    Magnitude.nearest? (shownCount m * stepsPerUnit) 100 = some m := by
  rcases Nat.lt_or_ge m.scale 1068 with hfine | hcoarse
  · rw [shownCount_of_fine hm (by omega)]
    exact hm
  · exact nearest?_shownCount_of_coarse hcoarse

theorem shownCount_le {m : Magnitude} {b : ℕ} (h : m.steps ≤ b * stepsPerUnit) :
    shownCount m ≤ b * 100 + 1 := by
  refine (roundHalfEven_le_div_add_one _ _).trans (Nat.succ_le_succ (Nat.div_le_of_le_mul ?_))
  calc m.steps * 100 ≤ b * stepsPerUnit * 100 := Nat.mul_le_mul_right _ h
    _ = stepsPerUnit * (b * 100) := by ring

theorem two_pow_le_ten_pow (k : ℕ) : 2 ^ (255 * k) ≤ 10 ^ (77 * k) := by
  rw [pow_mul, pow_mul]
  exact Nat.pow_le_pow_left (by norm_num) k

/-- The whole part of a count that is shown has at most 308 digits. -/
theorem length_shownCount_le {m : Magnitude} (h : m.steps ≤ 2 ^ 1018 * stepsPerUnit) :
    (Text.ofNat (shownCount m / 100)).length ≤ 77 * 4 := by
  have hcount := shownCount_le h
  have hlt : shownCount m / 100 < 2 ^ (255 * 4) := by omega
  exact (length_ofNat_le_iff (by decide)).mpr (hlt.trans_le (two_pow_le_ten_pow 4))

/-- **What a number is written as**: a count of hundredths whose double it rounds to. -/
theorem exists_count_of_round {x z : Binary64} (h : x.roundToHundredths = .ok z) :
    ∃ s k, hundredths s k = z ∧ (Text.ofNat (k / 100)).length ≤ 77 * 4 ∧
      writeNumber (some x) = .ok (hundredthsText s k) := by
  obtain ⟨s, _, c, _, hc, rfl⟩ := roundToHundredths_eq_ok h
  obtain ⟨m, hm, hsteps⟩ := exists_nearest?_of_lt hc
  have hz : hundredths s c = .finite s m := ofSteps_eq s hm
  refine ⟨s, shownCount m, ?_, length_shownCount_le hsteps, ?_⟩
  · rw [hz]
    exact ofSteps_eq s (nearest?_shownCount hm)
  · show x.roundToHundredths.map (·.fixedText 2) = _
    rw [h, hz]
    rfl

/-! ## Reading -/

/-- Whether a number is absent to the reader: the mark of a silent sensor, where that counts as none, or
    beyond single precision. -/
def IsLost (keepsMark : Bool) (z : Binary64) : Prop :=
  (keepsMark = false ∧ z = silentMark) ∨ singleLimit < z.abs

theorem silentMark_pos : ∃ n : Magnitude, silentMark = .finite false n ∧ 0 < n.steps := by
  obtain ⟨n, hn, herr⟩ := silentMark_eq
  have hlower := (abs_le.mp herr).1
  exact ⟨n, hn, steps_pos (by linarith)⟩

theorem sameValue_silentMark_iff (z : Binary64) : z.sameValue silentMark = true ↔ z = silentMark := by
  obtain ⟨n, hn, hpos⟩ := silentMark_pos
  rw [hn]
  constructor
  · exact eq_of_sameValue hpos
  · rintro rfl
    exact (sameValue_finite_iff ..).mpr rfl

theorem map_some_ne_none {ε α : Type} (x : Except ε α) : x.map some ≠ .ok none := by
  cases x <;> simp [Except.map]

/-- A literal denotes a number, if only an infinite one. -/
theorem toBinary64_cases (l : DecimalLiteral) :
    (∃ s m, l.toBinary64 = .finite s m) ∨ ∃ s, l.toBinary64 = .infinite s := by
  unfold DecimalLiteral.toBinary64
  split
  · exact .inl ⟨_, _, rfl⟩
  · exact .inr ⟨_, rfl⟩

/-- The two tests of the reader are one. -/
theorem readNumber_of_parse? (keepsMark : Bool) {t : Text} {l : DecimalLiteral}
    (h : DecimalLiteral.parse? t = some l) :
    (IsLost keepsMark l.toBinary64 → readNumber keepsMark t = .ok none) ∧
      (¬ IsLost keepsMark l.toBinary64 →
        readNumber keepsMark t = l.toBinary64.roundToHundredths.map some) := by
  have hwide : (!l.toBinary64.isFinite || singleLimit.lt l.toBinary64.abs) = true ↔
      singleLimit < l.toBinary64.abs := by
    obtain ⟨n, hn, _⟩ := singleLimit_eq
    rcases toBinary64_cases l with ⟨s, m, hl⟩ | ⟨s, hl⟩
    · rw [hl]
      exact Iff.rfl
    · rw [hl, hn]
      exact ⟨fun _ => rfl, fun _ => rfl⟩
  have hmark : (!keepsMark && l.toBinary64.sameValue silentMark) = true ↔
      keepsMark = false ∧ l.toBinary64 = silentMark := by
    rw [Bool.and_eq_true, Bool.not_eq_true', sameValue_silentMark_iff]
  unfold readNumber IsLost
  simp only [h, hwide, hmark]
  constructor
  · rintro (hsilent | hlarge)
    · rw [if_pos hsilent, ite_self]
    · rw [if_pos hlarge]
  · intro hkept
    rw [if_neg fun hlarge => hkept (.inr hlarge), if_neg fun hsilent => hkept (.inl hsilent)]

/-- **What the reader keeps**: the rounding of a literal that is not lost. -/
theorem readNumber_eq_some_iff {keepsMark : Bool} {t : Text} {z : Binary64} :
    readNumber keepsMark t = .ok (some z) ↔ ∃ l, DecimalLiteral.parse? t = some l ∧
      ¬ IsLost keepsMark l.toBinary64 ∧ l.toBinary64.roundToHundredths = .ok z := by
  cases hparse : DecimalLiteral.parse? t with
  | none =>
    have hnone : readNumber keepsMark t = .ok none := by
      unfold readNumber
      rw [hparse]
    rw [hnone]
    constructor
    · intro h
      cases h
    · rintro ⟨l, hl, _⟩
      cases hl
  | some l =>
    obtain ⟨hlost, hkept⟩ := readNumber_of_parse? keepsMark hparse
    by_cases h : IsLost keepsMark l.toBinary64
    · rw [hlost h]
      constructor
      · intro hsome
        cases hsome
      · rintro ⟨l', hl', hnot, _⟩
        cases hl'
        exact absurd h hnot
    · rw [hkept h]
      constructor
      · intro hsome
        cases hround : l.toBinary64.roundToHundredths with
        | error cause =>
          rw [hround] at hsome
          cases hsome
        | ok y =>
          rw [hround] at hsome
          cases hsome
          exact ⟨l, rfl, h, hround⟩
      · rintro ⟨l', hl', _, hround⟩
        cases hl'
        rw [hround]
        rfl

/-- What the reader finds in the token of a count of any size. -/
theorem readNumber_count_eq_none_iff (keepsMark : Bool) (s : Bool) {k : ℕ}
    (hk : (Text.ofNat (k / 100)).length ≤ 77 * 4) :
    readNumber keepsMark (hundredthsText s k) = .ok none ↔ IsLost keepsMark (hundredths s k) := by
  obtain ⟨hlost, hkept⟩ := readNumber_of_parse? keepsMark (parse?_hundredthsText s k)
  rw [toBinary64_hundredths s (hk.trans (by decide))] at hlost hkept
  refine ⟨fun h => ?_, hlost⟩
  by_contra hnot
  rw [hkept hnot] at h
  exact map_some_ne_none _ h

/-- **Written and read**, a number of any size is absent exactly if it is lost. -/
theorem readNumber_written_eq_none_iff (keepsMark : Bool) {x z : Binary64}
    (h : x.roundToHundredths = .ok z) : ∃ t, writeNumber (some x) = .ok t ∧
      (readNumber keepsMark t = .ok none ↔ IsLost keepsMark z) := by
  obtain ⟨s, k, hk, hlength, hwrite⟩ := exists_count_of_round h
  refine ⟨_, hwrite, ?_⟩
  rw [readNumber_count_eq_none_iff keepsMark s hlength, hk]

/-! ## In any unit -/

namespace WireUnit

theorem write_some (u : WireUnit) (x : Binary64) :
    u.write (some x) = writeNumber (some (x / u.factor)) := by
  by_cases hu : u = .asKept
  · subst hu
    show writeNumber (some x) = writeNumber (some (x / 1))
    rw [div_one_eq]
  · exact write_of_ne hu x

theorem read_eq_none_iff (u : WireUnit) (keepsMark : Bool) (t : Text) :
    u.read keepsMark t = .ok none ↔ readNumber keepsMark t = .ok none := by
  refine ⟨fun h => ?_, u.read_of_readNumber_none⟩
  rcases readNumber_cases keepsMark t with hnone | ⟨s, j, hj, hsome⟩
  · exact hnone
  · obtain ⟨k, hk, _⟩ := u.read_of_readNumber hj hsome
    rw [hk] at h
    cases h

/-- **What was written in a unit** is read as absent exactly if nothing was written, or a number that is
    lost on the wire. -/
theorem read_written_eq_none_iff (u : WireUnit) (keepsMark : Bool) {x : Option Binary64} {t : Text}
    (h : u.write x = .ok t) : u.read keepsMark t = .ok none ↔
      x = none ∨ ∃ y z, x = some y ∧ (y / u.factor).roundToHundredths = .ok z ∧ IsLost keepsMark z := by
  rw [u.read_eq_none_iff]
  cases x with
  | none =>
    rw [u.write_none] at h
    cases h
    exact ⟨fun _ => .inl rfl, fun _ => readNumber_nil keepsMark⟩
  | some y =>
    rw [u.write_some] at h
    cases hround : (y / u.factor).roundToHundredths with
    | error cause =>
      have hwrite : writeNumber (some (y / u.factor)) = .error cause := by
        show (y / u.factor).roundToHundredths.map (·.fixedText 2) = _
        rw [hround]
        rfl
      rw [hwrite] at h
      cases h
    | ok z =>
      obtain ⟨t', ht', hlost⟩ := readNumber_written_eq_none_iff keepsMark hround
      obtain rfl : t' = t := Except.ok.inj (ht'.symm.trans h)
      rw [hlost]
      constructor
      · exact fun hz => .inr ⟨y, z, rfl, hround, hz⟩
      · rintro (hnone | ⟨y', z', hy, hz', hlost'⟩)
        · cases hnone
        · cases hy
          obtain rfl : z = z' := Except.ok.inj (hround.symm.trans hz')
          exact hlost'

end WireUnit

end WeatherTelegram
