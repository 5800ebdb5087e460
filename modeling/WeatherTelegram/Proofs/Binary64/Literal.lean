import WeatherTelegram.Binary64.Decimal
import WeatherTelegram.Proofs.Binary64.Nearest
import WeatherTelegram.Proofs.Text.Digit

/-!
# `Proofs.Binary64.Literal` — what a decimal literal says

A literal is a sign, digits of any script with at most one point among them, and perhaps an exponent. It
says a rational number, and the reader takes the double nearest to that: powers of ten that are too large
or too small to be computed are beyond the last double or nearer to zero than to any other.

## Contents
- **Grammar.** `SpellsSign`, `SpellsMantissa`, `SpellsExponent`, `DecimalLiteral.Spells`;
  `parse?_eq_some_iff`.
- **Number.** `DecimalLiteral.value`, `DecimalLiteral.neg`, `Spells.unique`.
- **Nearest double.** `Magnitude.nearestDecimal?_cases`, `Magnitude.ofDecimal?_cases`,
  `DecimalLiteral.toBinary64_cases`.
-/

namespace WeatherTelegram

/-! ## Grammar -/

/-- The texts of a sign. -/
inductive SpellsSign : Bool → Text → Prop where
  | absent : SpellsSign false []
  | plus : SpellsSign false ['+']
  | minus : SpellsSign true ['-']

/-- The texts of the digits of a literal: some in front of the point, or behind it if there are none in
    front; a point without digits behind it may stand there or not. -/
inductive SpellsMantissa : List ℕ → List ℕ → Text → Prop where
  | whole {ds : List ℕ} {t : Text} (hds : SpellsDigits ds t) (hne : ds ≠ []) : SpellsMantissa ds [] t
  | pointed {ds fs : List ℕ} {t u : Text} (hds : SpellsDigits ds t) (hne : ds ≠ [])
      (hfs : SpellsDigits fs u) : SpellsMantissa ds fs (t ++ '.' :: u)
  | fraction {fs : List ℕ} {u : Text} (hfs : SpellsDigits fs u) (hne : fs ≠ []) :
      SpellsMantissa [] fs ('.' :: u)

/-- The texts of an exponent. -/
inductive SpellsExponent : ℤ → Text → Prop where
  | absent : SpellsExponent 0 []
  | marked {mark : Char} {negative : Bool} {ds : List ℕ} {sign t : Text} (hmark : mark = 'e' ∨ mark = 'E')
      (hsign : SpellsSign negative sign) (hds : SpellsDigits ds t) (hne : ds ≠ []) :
      SpellsExponent (if negative then -(valueOf ds : ℤ) else valueOf ds) (mark :: (sign ++ t))

/-- **The texts of a literal.** -/
def DecimalLiteral.Spells (l : DecimalLiteral) (t : Text) : Prop :=
  ∃ sign mantissa exponent, t = sign ++ (mantissa ++ exponent) ∧ SpellsSign l.negative sign ∧
    SpellsMantissa l.whole l.fraction mantissa ∧ SpellsExponent l.exponent exponent

theorem takeSign_spec (t : Text) : ∃ sign, t = sign ++ (takeSign t).2 ∧ SpellsSign (takeSign t).1 sign := by
  unfold takeSign
  split
  · exact ⟨['-'], rfl, .minus⟩
  · exact ⟨['+'], rfl, .plus⟩
  · exact ⟨[], rfl, .absent⟩

theorem takeSign_of_spells {s : Bool} {sign rest : Text} (h : SpellsSign s sign)
    (hrest : ∀ c, rest.head? = some c → c ≠ '+' ∧ c ≠ '-') : takeSign (sign ++ rest) = (s, rest) := by
  cases h with
  | absent =>
    unfold takeSign
    split
    · rename_i heq
      exact absurd rfl (hrest '-' (by rw [← List.nil_append rest, heq]; rfl)).2
    · rename_i heq
      exact absurd rfl (hrest '+' (by rw [← List.nil_append rest, heq]; rfl)).1
    · rfl
  | plus => rfl
  | minus => rfl

/-- A digit is no sign and no mark. -/
theorem SpellsDigits.ne_of_head? {ds : List ℕ} {t rest : Text} {c e : Char} (h : SpellsDigits ds t)
    (hne : ds ≠ []) (hc : (t ++ rest).head? = some c) (he : digitValue? e = none) : c ≠ e := by
  cases h with
  | nil => exact absurd rfl hne
  | cons hdigit _ =>
    cases hc
    rintro rfl
    rw [he] at hdigit
    cases hdigit

/-- The digits in front of an exponent end where it begins. -/
theorem SpellsExponent.of_head? {e : ℤ} {t : Text} (h : SpellsExponent e t) {c : Char}
    (hc : t.head? = some c) : c = 'e' ∨ c = 'E' := by
  cases h with
  | absent => cases hc
  | marked hmark =>
    cases hc
    exact hmark

theorem SpellsMantissa.ne_sign_of_head? {ds fs : List ℕ} {t rest : Text} (h : SpellsMantissa ds fs t)
    {c : Char} (hc : (t ++ rest).head? = some c) : c ≠ '+' ∧ c ≠ '-' := by
  cases h with
  | whole hds hne =>
    exact ⟨hds.ne_of_head? hne hc (by decide), hds.ne_of_head? hne hc (by decide)⟩
  | pointed hds hne _ =>
    rw [List.append_assoc] at hc
    exact ⟨hds.ne_of_head? hne hc (by decide), hds.ne_of_head? hne hc (by decide)⟩
  | fraction _ _ =>
    cases hc
    decide

theorem SpellsMantissa.some_digit {ds fs : List ℕ} {t : Text} (h : SpellsMantissa ds fs t) :
    (ds.isEmpty && fs.isEmpty) = false := by
  cases h with
  | whole _ hne => rw [List.isEmpty_eq_false_iff.mpr hne, Bool.false_and]
  | pointed _ hne _ => rw [List.isEmpty_eq_false_iff.mpr hne, Bool.false_and]
  | fraction _ hne => rw [List.isEmpty_eq_false_iff.mpr hne, Bool.and_false]

namespace DecimalLiteral

theorem exponentOf?_eq_some_iff {t : Text} {e : ℤ} : exponentOf? t = some e ↔ SpellsExponent e t := by
  constructor
  · intro h
    cases t with
    | nil =>
      cases h
      exact .absent
    | cons mark rest =>
      obtain ⟨hmark, h⟩ := Option.ite_none_right_eq_some.mp h
      obtain ⟨sign, hsign, hspells⟩ := takeSign_spec rest
      generalize takeSign rest = signed at h hsign hspells
      obtain ⟨negative, unsigned⟩ := signed
      obtain ⟨front, hfront, hdigits⟩ := takeDigits_spec unsigned
      generalize takeDigits unsigned = taken at h hfront hdigits
      obtain ⟨ds, behind⟩ := taken
      split at h
      · cases h
      · rename_i hnone heq
        cases heq
        cases h
        rw [hsign, hfront, List.append_nil]
        exact .marked hmark hspells hdigits hnone
      · cases h
  · intro h
    cases h with
    | absent => rfl
    | @marked mark negative ds sign t hmark hsign hds hne =>
      have hhead : ∀ c, t.head? = some c → c ≠ '+' ∧ c ≠ '-' := by
        intro c hc
        rw [← List.append_nil t] at hc
        exact ⟨hds.ne_of_head? hne hc (by decide), hds.ne_of_head? hne hc (by decide)⟩
      cases ds with
      | nil => exact absurd rfl hne
      | cons d ds =>
        simp only [exponentOf?, hmark, takeSign_of_spells hsign hhead, hds.takeDigits_eq, if_true]

/-- Digits with or without a point behind them, as they are taken. -/
theorem takeFraction_spec {ds : List ℕ} {front rest : Text} (hds : SpellsDigits ds front)
    (hsome : (ds.isEmpty && (takeFraction rest).1.isEmpty) = false) :
    ∃ mantissa, front ++ rest = mantissa ++ (takeFraction rest).2 ∧
      SpellsMantissa ds (takeFraction rest).1 mantissa := by
  unfold takeFraction at hsome ⊢
  split
  · rename_i behind
    obtain ⟨digits, hdigits, hfs⟩ := takeDigits_spec behind
    refine ⟨front ++ '.' :: digits, ?_, ?_⟩
    · rw [List.append_assoc, List.cons_append, ← hdigits]
    · cases hds with
      | nil => exact .fraction hfs (by simpa using hsome)
      | cons hd hds => exact .pointed (.cons hd hds) (List.cons_ne_nil _ _) hfs
  · exact ⟨front, rfl, .whole hds (by simpa using hsome)⟩

/-- The digits of a literal are taken as they are spelled. -/
theorem take_of_spells {ds fs : List ℕ} {mantissa rest : Text} (h : SpellsMantissa ds fs mantissa)
    (hrest : ∀ c, rest.head? = some c → c = 'e' ∨ c = 'E') :
    (takeDigits (mantissa ++ rest)).1 = ds ∧
      takeFraction (takeDigits (mantissa ++ rest)).2 = (fs, rest) := by
  have hstop : ∀ c, rest.head? = some c → digitValue? c = none := by
    intro c hc
    rcases hrest c hc with rfl | rfl <;> decide
  have hpoint : ∀ (t : Text) (c : Char), ('.' :: t).head? = some c → digitValue? c = none := by
    rintro t c hc
    cases hc
    decide
  cases h with
  | whole hds _ =>
    rw [takeDigits_of_spells hds hstop]
    refine ⟨rfl, ?_⟩
    show takeFraction rest = ([], rest)
    unfold takeFraction
    split
    · rcases hrest '.' rfl with h | h <;> exact absurd h (by decide)
    · rfl
  | pointed hds _ hfs =>
    rw [List.append_assoc, List.cons_append, takeDigits_of_spells hds (hpoint _)]
    exact ⟨rfl, takeDigits_of_spells hfs hstop⟩
  | @fraction _ u hfs _ =>
    have hnone : takeDigits ('.' :: (u ++ rest)) = ([], '.' :: (u ++ rest)) :=
      takeDigits_of_spells .nil (hpoint (u ++ rest))
    rw [List.cons_append, hnone]
    exact ⟨rfl, takeDigits_of_spells hfs hstop⟩

/-- **Exactly the texts of the grammar are read.** -/
theorem parse?_eq_some_iff {t : Text} {l : DecimalLiteral} : parse? t = some l ↔ l.Spells t := by
  constructor
  · intro h
    obtain ⟨sign, hsign, hspells⟩ := takeSign_spec t
    obtain ⟨front, hfront, hdigits⟩ := takeDigits_spec (takeSign t).2
    simp only [parse?] at h
    obtain ⟨hsome, h⟩ := Option.ite_none_left_eq_some.mp h
    obtain ⟨e, he, rfl⟩ := Option.map_eq_some_iff.mp h
    obtain ⟨mantissa, hmantissa, hspells'⟩ := takeFraction_spec hdigits (Bool.eq_false_iff.mpr hsome)
    refine ⟨sign, mantissa, _, ?_, hspells, hspells', exponentOf?_eq_some_iff.mp he⟩
    rw [← hmantissa, ← hfront, ← hsign]
  · rintro ⟨sign, mantissa, exponent, rfl, hsign, hmantissa, hexponent⟩
    obtain ⟨hwhole, hfraction⟩ := take_of_spells hmantissa fun _ => hexponent.of_head?
    simp only [parse?]
    rw [takeSign_of_spells hsign fun _ => hmantissa.ne_sign_of_head?, hwhole, hfraction,
      hmantissa.some_digit, exponentOf?_eq_some_iff.mpr hexponent]
    rfl

/-! ## Number -/

/-- **What a literal says**: its digits as one number, at the power of ten of the last of them. -/
def value (l : DecimalLiteral) : ℚ :=
  withSign l.negative (valueOf (l.whole ++ l.fraction) * 10 ^ (l.exponent - l.fraction.length))

/-- The literal of the other sign. -/
def neg (l : DecimalLiteral) : DecimalLiteral := { l with negative := !l.negative }

theorem value_neg (l : DecimalLiteral) : l.neg.value = -l.value := withSign_not _ _

theorem Spells.unique {l l' : DecimalLiteral} {t : Text} (h : l.Spells t) (h' : l'.Spells t) : l = l' :=
  Option.some.inj ((parse?_eq_some_iff.mpr h).symm.trans (parse?_eq_some_iff.mpr h'))

theorem Spells.digit_lt {l : DecimalLiteral} {t : Text} (h : l.Spells t) :
    ∀ d ∈ l.whole ++ l.fraction, d < 10 := by
  obtain ⟨_, mantissa, _, _, _, hmantissa, _⟩ := h
  generalize l.whole = ds at hmantissa ⊢
  generalize l.fraction = fs at hmantissa ⊢
  cases hmantissa with
  | whole hds _ =>
    rw [List.append_nil]
    exact hds.lt
  | pointed hds _ hfs => exact fun d hd => (List.mem_append.mp hd).elim (hds.lt d) (hfs.lt d)
  | fraction hfs _ => exact hfs.lt

end DecimalLiteral

/-! ## Nearest double -/

-- one is far too many steps to be counted out, so that no proof below may look at their number
attribute [local irreducible] stepsPerUnit

/-- What does not round to a finite magnitude lies in the last binade or beyond it. -/
theorem Magnitude.le_of_nearest?_eq_none {num den : ℕ} (h : nearest? num den = none) {q : ℚ}
    (hq : (num : ℚ) / den = q * stepsPerUnit) : 2 ^ 1023 ≤ q := by
  have hfloor : 2 ^ (precision + 2044) ≤ num / den := by
    by_contra hlt
    obtain ⟨m, hm⟩ := exists_nearest? (not_le.mp hlt)
    rw [h] at hm
    cases hm
  have hsplit : 2 ^ (precision + 2044) = 2 ^ 1023 * stepsPerUnit := by
    rw [stepsPerUnit_eq, ← pow_add]
    congr 1
  have hcast : ((2 ^ 1023 * stepsPerUnit : ℕ) : ℚ) ≤ q * stepsPerUnit := by
    rw [← hsplit, ← hq]
    exact (Nat.cast_le.mpr hfloor).trans Nat.cast_div_le
  rw [Nat.cast_mul, Nat.cast_pow] at hcast
  exact le_of_mul_le_mul_right hcast cast_stepsPerUnit_pos

/-- Digits at a power of ten are a quotient of steps. -/
theorem Magnitude.exists_nearestDecimal?_eq (digits : ℕ) (e : ℤ) : ∃ num den : ℕ, 0 < den ∧
    (num : ℚ) / den = digits * 10 ^ e * stepsPerUnit ∧ nearestDecimal? digits e = nearest? num den := by
  unfold nearestDecimal?
  split
  · rename_i hnonneg
    obtain ⟨n, rfl⟩ := Int.eq_ofNat_of_zero_le hnonneg
    refine ⟨_, 1, Nat.one_pos, ?_, rfl⟩
    rw [Int.toNat_natCast, zpow_natCast]
    push_cast
    ring
  · rename_i hneg
    obtain ⟨n, hn⟩ := Int.eq_ofNat_of_zero_le (show 0 ≤ -e by omega)
    obtain rfl : e = -n := by omega
    refine ⟨_, _, Nat.pow_pos (by decide), ?_, rfl⟩
    rw [neg_neg, Int.toNat_natCast, zpow_neg, zpow_natCast]
    push_cast
    ring

/-- Digits at a power of ten that is computed. -/
theorem Magnitude.nearestDecimal?_cases (digits : ℕ) (e : ℤ) :
    (∃ m, nearestDecimal? digits e = some m ∧ (Binary64.finite false m).IsNearest (digits * 10 ^ e)) ∨
      (nearestDecimal? digits e = none ∧ (2 : ℚ) ^ 1023 ≤ digits * 10 ^ e) := by
  obtain ⟨num, den, hden, hq, heq⟩ := exists_nearestDecimal?_eq digits e
  rw [heq]
  cases hm : nearest? num den with
  | some m => exact .inl ⟨m, rfl, isNearest_of_nearest? hden hm hq⟩
  | none => exact .inr ⟨rfl, le_of_nearest?_eq_none hm hq⟩

/-- The range of doubles in powers of ten. -/
theorem two_pow_le_ten_pow_limits : (2 : ℚ) ^ 1023 ≤ 10 ^ 308 ∧ (2 : ℚ) ^ 1075 < 10 ^ 324 := by
  have hblock : ((2 : ℚ) ^ 93) ^ 11 ≤ (10 ^ 28) ^ 11 := pow_le_pow_left₀ (by norm_num) (by norm_num) 11
  rw [← pow_mul, ← pow_mul] at hblock
  refine ⟨hblock, ?_⟩
  calc (2 : ℚ) ^ 1075 = 2 ^ (93 * 11) * 2 ^ 52 := by rw [← pow_add]
    _ ≤ 10 ^ (28 * 11) * 2 ^ 52 := mul_le_mul_of_nonneg_right hblock (by norm_num)
    _ < 10 ^ (28 * 11) * 10 ^ 16 := mul_lt_mul_of_pos_left (by norm_num) (by positivity)
    _ = 10 ^ 324 := by rw [← pow_add]

theorem halfStep_pos : 0 < halfStep := div_pos (by norm_num) cast_stepsPerUnit_pos

theorem ten_pow_lt_halfStep : (10 : ℚ) ^ (-324 : ℤ) < halfStep := by
  have hhalf : halfStep = 1 / 2 ^ 1075 := by
    rw [halfStep, stepsPerUnit_eq, div_div, Nat.cast_pow, Nat.cast_ofNat, ← pow_succ']
    rfl
  rw [hhalf, zpow_neg, ← one_div]
  exact one_div_lt_one_div_of_lt (by positivity) two_pow_le_ten_pow_limits.2

/-- Zero is nearest to what is less than half a step. -/
theorem isNearest_zero_of_lt {q : ℚ} (hnonneg : 0 ≤ q) (h : q < halfStep) : Binary64.zero.IsNearest q := by
  refine ⟨rfl, fun y hy => ?_, fun _ _ _ _ => (by decide : Even 0)⟩
  obtain ⟨t, n, rfl⟩ := Binary64.exists_finite hy
  rw [Binary64.value_zero, zero_sub, abs_neg, abs_of_nonneg hnonneg, Binary64.value_eq_withSign]
  rcases Nat.eq_zero_or_pos n.steps with hzero | hpos
  · have hvalue : n.value = 0 := by rw [Magnitude.value, hzero, Nat.cast_zero, zero_div]
    rw [hvalue]
    cases t <;> simp [abs_of_nonneg hnonneg]
  · -- any other double is a whole step away from zero
    have hstep : 2 * halfStep ≤ n.value := by
      rw [halfStep, Magnitude.value, ← mul_div_assoc, mul_one_div_cancel two_ne_zero]
      exact div_le_div_of_nonneg_right (by exact_mod_cast hpos) cast_stepsPerUnit_pos.le
    have htriangle := abs_sub_abs_le_abs_sub (withSign t n.value) q
    rw [abs_withSign, abs_of_nonneg n.value_nonneg, abs_of_nonneg hnonneg] at htriangle
    linarith

/-- **Digits at any power of ten**: the nearest double, or a number beyond the last one. -/
theorem Magnitude.ofDecimal?_cases {ds : List ℕ} (e : ℤ) (hlead : ∀ d, ds.head? = some d → d ≠ 0)
    (hlt : ∀ d ∈ ds, d < 10) :
    (∃ m, ofDecimal? ds e = some m ∧ (Binary64.finite false m).IsNearest (valueOf ds * 10 ^ e)) ∨
      (ofDecimal? ds e = none ∧ (2 : ℚ) ^ 1023 ≤ valueOf ds * 10 ^ e) := by
  have hpow : (0 : ℚ) < 10 ^ e := zpow_pos (by norm_num) e
  cases ds with
  | nil =>
    refine .inl ⟨zero, rfl, ?_⟩
    have hnil : valueOf [] = 0 := rfl
    rw [hnil, Nat.cast_zero, zero_mul]
    exact isNearest_zero_of_lt le_rfl halfStep_pos
  | cons d ds =>
    unfold ofDecimal?
    rw [if_neg (by simp)]
    by_cases hlarge : 309 < ((d :: ds).length : ℤ) + e
    · refine .inr ⟨by rw [if_pos hlarge], ?_⟩
      have hleast : (10 : ℚ) ^ ds.length ≤ valueOf (d :: ds) := by
        exact_mod_cast pow_le_valueOf (hlead d rfl) ds
      rw [List.length_cons] at hlarge
      calc (2 : ℚ) ^ 1023 ≤ 10 ^ 308 := two_pow_le_ten_pow_limits.1
        _ = 10 ^ ((308 : ℕ) : ℤ) := (zpow_natCast 10 308).symm
        _ ≤ 10 ^ (ds.length + e : ℤ) := zpow_le_zpow_right₀ (by norm_num) (by push_cast at hlarge; omega)
        _ = 10 ^ ds.length * 10 ^ e := by rw [zpow_add₀ (by norm_num), zpow_natCast]
        _ ≤ valueOf (d :: ds) * 10 ^ e := mul_le_mul_of_nonneg_right hleast hpow.le
    rw [if_neg hlarge]
    by_cases hsmall : ((d :: ds).length : ℤ) + e < -323
    · have hnonneg := mul_nonneg (Nat.cast_nonneg (valueOf (d :: ds))) hpow.le
      refine .inl ⟨zero, by rw [if_pos hsmall], isNearest_zero_of_lt hnonneg ?_⟩
      have hmost : (valueOf (d :: ds) : ℚ) < 10 ^ (d :: ds).length := by exact_mod_cast valueOf_lt hlt
      calc (valueOf (d :: ds) : ℚ) * 10 ^ e < 10 ^ (d :: ds).length * 10 ^ e :=
            mul_lt_mul_of_pos_right hmost hpow
        _ = 10 ^ ((d :: ds).length + e : ℤ) := by rw [zpow_add₀ (by norm_num), zpow_natCast]
        _ ≤ 10 ^ (-324 : ℤ) := zpow_le_zpow_right₀ (by norm_num) (by omega)
        _ < halfStep := ten_pow_lt_halfStep
    · rw [if_neg hsmall]
      exact nearestDecimal?_cases _ _

theorem ne_zero_of_head?_dropWhile {ds : List ℕ} {d : ℕ} (h : (ds.dropWhile (· == 0)).head? = some d) :
    d ≠ 0 := by
  have hnot := List.head?_dropWhile_not (· == 0) ds
  rw [h] at hnot
  simpa using hnot

/-- **A literal is read as the nearest double** of what it says, if that is not beyond the last one. -/
theorem DecimalLiteral.toBinary64_cases {l : DecimalLiteral} (h : ∀ d ∈ l.whole ++ l.fraction, d < 10) :
    (∃ m, l.toBinary64 = .finite l.negative m ∧ l.toBinary64.IsNearest l.value) ∨
      (l.toBinary64 = .infinite l.negative ∧ (2 : ℚ) ^ 1023 ≤ |l.value|) := by
  have hlt : ∀ d ∈ (l.whole ++ l.fraction).dropWhile (· == 0), d < 10 := fun d hd =>
    h d ((List.dropWhile_sublist _).mem hd)
  have habs : |l.value| = valueOf (l.whole ++ l.fraction) * 10 ^ (l.exponent - l.fraction.length) := by
    rw [DecimalLiteral.value, abs_withSign,
      abs_of_nonneg (mul_nonneg (Nat.cast_nonneg _) (zpow_pos (by norm_num) _).le)]
  have hcases := Magnitude.ofDecimal?_cases (l.exponent - l.fraction.length)
    (fun _ => ne_zero_of_head?_dropWhile) hlt
  rw [valueOf_dropWhile_zero] at hcases
  unfold DecimalLiteral.toBinary64
  rcases hcases with ⟨m, hm, hnear⟩ | ⟨hnone, hlarge⟩
  · rw [hm]
    refine .inl ⟨m, rfl, ?_⟩
    unfold DecimalLiteral.value
    cases l.negative with
    | false => exact hnear
    | true => exact hnear.neg
  · rw [hnone]
    exact .inr ⟨rfl, habs ▸ hlarge⟩

end WeatherTelegram
