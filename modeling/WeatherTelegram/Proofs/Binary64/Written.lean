import Mathlib.Data.List.TakeWhile
import WeatherTelegram.Binary64.Written
import WeatherTelegram.Proofs.Binary64.Shortest

/-!
# `Proofs.Binary64.Written` — a double is read from its own text

The text of a double says its shortest decimal, with the point in one of four places and without the zeros
at its end. What the text says is that decimal whichever way it is written, and a literal is rounded like
the decimal it says, so the double comes back with its sign.

## Contents
- **Literals.** `Magnitude.ofDecimal?_of_nearestDecimal?`, `DecimalLiteral.toBinary64_of_magnitude`.
- **Digits.** `exists_append_zeros`, `valueOf_append_zeros`.
- **Texts.** `Says`, with `says_positional`, `says_exponential` and `says_magnitudeText`; `exists_parse?_text`.
-/

namespace WeatherTelegram

-- one is far too many steps to be counted out, so that no proof below may look at their number
attribute [local irreducible] stepsPerUnit

open Binary64 Magnitude

/-! ## Literals -/

namespace Magnitude

/-- What rounds to a finite magnitude is not far beyond the last one. -/
theorem lt_of_nearestDecimal? {digits : ℕ} {e : ℤ} {m : Magnitude}
    (h : nearestDecimal? digits e = some m) : (digits : ℚ) * 10 ^ e < 2 ^ 1025 := by
  obtain ⟨num, den, hden, hq, heq⟩ := exists_nearestDecimal?_eq digits e
  have hunit := cast_stepsPerUnit_pos
  have herr := (abs_le.mp (abs_steps_sub_le hden (heq ▸ h))).1
  have hmost : (m.steps : ℚ) < 2 ^ 1024 * stepsPerUnit := by
    have hsteps : m.steps < 2 ^ 1024 * stepsPerUnit := by
      rw [stepsPerUnit_eq, ← pow_add]
      refine m.steps_lt.trans_le (Nat.pow_le_pow_right (by decide) ?_)
      have := m.scale_le
      unfold precision stepExponent
      omega
    exact_mod_cast hsteps
  have hone : (1 : ℚ) ≤ stepsPerUnit := by exact_mod_cast stepsPerUnit_pos
  have hunits : (stepsPerUnit : ℚ) ≤ 2 ^ 1024 * stepsPerUnit :=
    le_mul_of_one_le_left hunit.le (one_le_pow₀ (by norm_num))
  have hscaled : (digits : ℚ) * 10 ^ e * stepsPerUnit < 2 ^ 1025 * stepsPerUnit := by
    rw [← hq, pow_succ (2 : ℚ) 1024, mul_right_comm (2 ^ 1024 : ℚ) 2]
    -- the power is too large to be computed
    generalize (2 : ℚ) ^ 1024 * stepsPerUnit = most at *
    linarith
  exact lt_of_mul_lt_mul_right hscaled hunit.le

theorem eq_of_isNearest {m n : Magnitude} {q : ℚ} (hm : (Binary64.finite false m).IsNearest q)
    (hn : (Binary64.finite false n).IsNearest q) : m = n :=
  (eq_of_value_eq (hm.value_eq hn)).1

theorem isNearest_of_nearestDecimal? {digits : ℕ} {e : ℤ} {m : Magnitude}
    (h : nearestDecimal? digits e = some m) : (Binary64.finite false m).IsNearest (digits * 10 ^ e) := by
  rcases nearestDecimal?_cases digits e with ⟨n, hn, hnear⟩ | ⟨hnone, _⟩
  · rw [h] at hn
    cases hn
    exact hnear
  · rw [h] at hnone
    cases hnone

theorem nearestDecimal?_zero (e : ℤ) {m : Magnitude} (h : nearestDecimal? 0 e = some m) : m = zero := by
  have hnear := isNearest_of_nearestDecimal? h
  rw [Nat.cast_zero, zero_mul] at hnear
  exact eq_of_isNearest hnear (isNearest_zero_of_lt le_rfl halfStep_pos)

/-- **The limits on powers of ten are no limits** to what has a nearest magnitude. -/
theorem ofDecimal?_of_nearestDecimal? {ds : List ℕ} {e : ℤ} {m : Magnitude}
    (hlead : ∀ d, ds.head? = some d → d ≠ 0) (hlt : ∀ d ∈ ds, d < 10)
    (h : nearestDecimal? (valueOf ds) e = some m) : ofDecimal? ds e = some m := by
  rcases ofDecimal?_cases e hlead hlt with ⟨n, hn, hnear⟩ | ⟨hnone, _⟩
  · rw [hn, eq_of_isNearest hnear (isNearest_of_nearestDecimal? h)]
  · exfalso
    cases ds with
    | nil => cases hnone
    | cons d ds =>
      unfold ofDecimal? at hnone
      rw [if_neg (by simp)] at hnone
      by_cases hlarge : 309 < ((d :: ds).length : ℤ) + e
      · have hmost := lt_of_nearestDecimal? h
        have hleast : (10 : ℚ) ^ ds.length ≤ valueOf (d :: ds) := by
          exact_mod_cast pow_le_valueOf (hlead d rfl) ds
        rw [List.length_cons] at hlarge
        refine lt_irrefl ((2 : ℚ) ^ 1025) ?_
        calc (2 : ℚ) ^ 1025 = 2 ^ 1023 * 2 ^ 2 := by rw [← pow_add]
          _ ≤ 10 ^ 308 * 2 ^ 2 := mul_le_mul_of_nonneg_right two_pow_le_ten_pow_limits.1 (by norm_num)
          _ ≤ 10 ^ 308 * 10 := mul_le_mul_of_nonneg_left (by norm_num) (by positivity)
          _ = 10 ^ ((309 : ℕ) : ℤ) := by rw [zpow_natCast, ← pow_succ]
          _ ≤ 10 ^ (ds.length + e : ℤ) :=
            zpow_le_zpow_right₀ (by norm_num) (by push_cast at hlarge ⊢; omega)
          _ = 10 ^ ds.length * 10 ^ e := by rw [zpow_add₀ (by norm_num), zpow_natCast]
          _ ≤ valueOf (d :: ds) * 10 ^ e :=
            mul_le_mul_of_nonneg_right hleast (zpow_pos (by norm_num) e).le
          _ < 2 ^ 1025 := hmost
      rw [if_neg hlarge] at hnone
      by_cases hsmall : ((d :: ds).length : ℤ) + e < -323
      · rw [if_pos hsmall] at hnone
        cases hnone
      · rw [if_neg hsmall, h] at hnone
        cases hnone

end Magnitude

namespace DecimalLiteral

/-- What a literal says but for its sign. -/
def magnitude (l : DecimalLiteral) : ℚ :=
  valueOf (l.whole ++ l.fraction) * 10 ^ (l.exponent - l.fraction.length)

/-- **A literal is rounded like the decimal it says.** -/
theorem toBinary64_of_magnitude {l : DecimalLiteral} (hlt : ∀ d ∈ l.whole ++ l.fraction, d < 10)
    {digits : ℕ} {e : ℤ} {m : Magnitude} (h : Magnitude.nearestDecimal? digits e = some m)
    (hsaid : l.magnitude = digits * 10 ^ e) : l.toBinary64 = .finite l.negative m := by
  have hdecimal : Magnitude.ofDecimal? ((l.whole ++ l.fraction).dropWhile (· == 0))
      (l.exponent - l.fraction.length) = some m := by
    apply Magnitude.ofDecimal?_of_nearestDecimal? fun _ => ne_zero_of_head?_dropWhile
    · exact fun d hd => hlt d ((List.dropWhile_sublist _).mem hd)
    · rw [valueOf_dropWhile_zero, ← h]
      exact Magnitude.nearestDecimal?_congr hsaid
  unfold toBinary64
  rw [hdecimal]

end DecimalLiteral

/-! ## Digits -/

theorem isDigits_zeros (k : ℕ) : IsDigits (List.replicate k '0') := by
  intro c hc
  rw [List.eq_of_mem_replicate hc]
  rfl

theorem digitValues_append (s t : Text) : digitValues (s ++ t) = digitValues s ++ digitValues t :=
  List.map_append

/-- Zeros in front do not count. -/
theorem valueOf_zeros_append (k : ℕ) (t : Text) :
    valueOf (digitValues (List.replicate k '0' ++ t)) = valueOf (digitValues t) := by
  rw [valueOf_digitValues, valueOf_digitValues, Nat.ofDigitChars_append, Nat.ofDigitChars_replicate_zero,
    Nat.mul_zero]

/-- Zeros at the end count as powers of ten. -/
theorem valueOf_append_zeros (t : Text) (k : ℕ) :
    valueOf (digitValues (t ++ List.replicate k '0')) = valueOf (digitValues t) * 10 ^ k := by
  have hzeros := valueOf_zeros_append k []
  rw [List.append_nil] at hzeros
  rw [digitValues_append, valueOf_append, hzeros, length_digitValues, List.length_replicate]
  rfl

/-- The zeros at the end of a text. -/
theorem exists_append_zeros (t : Text) :
    ∃ k, t = Text.trimEnd (· == '0') t ++ List.replicate k '0' := by
  refine ⟨(t.reverse.takeWhile (· == '0')).length, ?_⟩
  have hsplit := List.takeWhile_append_dropWhile (p := (· == '0')) (l := t.reverse)
  have hzeros : t.reverse.takeWhile (· == '0') =
      List.replicate (t.reverse.takeWhile (· == '0')).length '0' :=
    List.eq_replicate_of_mem fun c hc => by simpa using List.mem_takeWhile_imp hc
  calc t = (t.reverse.takeWhile (· == '0') ++ t.reverse.dropWhile (· == '0')).reverse := by
        rw [hsplit, List.reverse_reverse]
    _ = _ := by
        rw [List.reverse_append, hzeros, List.reverse_replicate, List.length_replicate]
        rfl

/-! ## Texts -/

/-- A text is a literal under a sign, and says a number but for that. -/
def Says (t : Text) (s : Bool) (q : ℚ) : Prop :=
  ∃ l : DecimalLiteral, l.Spells t ∧ l.negative = s ∧ l.magnitude = q

theorem spellsSign_signText (s : Bool) : SpellsSign s (signText s) := by
  cases s with
  | false => exact .absent
  | true => exact .minus

theorem digitValues_ne_nil {t : Text} (h : t ≠ []) : digitValues t ≠ [] :=
  fun hnil => h (List.map_eq_nil_iff.mp hnil)

/-- Digits with a point among them say their number at the power of ten of the last. -/
theorem says_pointed (s : Bool) {t u : Text} (ht : IsDigits t) (hu : IsDigits u) (hne : t ≠ []) :
    Says (signText s ++ (t ++ '.' :: u)) s (valueOf (digitValues (t ++ u)) * 10 ^ (-u.length : ℤ)) := by
  refine ⟨⟨s, digitValues t, digitValues u, 0⟩, ⟨signText s, t ++ '.' :: u, [], ?_, spellsSign_signText s,
    .pointed ht.spells (digitValues_ne_nil hne) hu.spells, .absent⟩, rfl, ?_⟩
  · rw [List.append_nil]
  · unfold DecimalLiteral.magnitude
    simp only [digitValues_append, length_digitValues, zero_sub]

/-- Digits with the point after `point` of them, wherever that is. -/
theorem says_positional (s : Bool) {t : Text} (ht : IsDigits t) (hne : t ≠ []) (point : ℤ) :
    Says (signText s ++ positional t point) s (valueOf (digitValues t) * 10 ^ (point - t.length)) := by
  unfold positional
  by_cases hfront : point ≤ 0
  · -- zeros stand between the point and the digits
    obtain ⟨k, hk⟩ := Int.eq_ofNat_of_zero_le (show 0 ≤ -point by omega)
    have hsaid := says_pointed s (t := ['0']) (isDigits_zeros 1) (isDigits_append (isDigits_zeros k) ht)
      (List.cons_ne_nil _ _)
    rw [if_pos hfront, hk, Int.toNat_natCast]
    have hvalue : valueOf (digitValues (['0'] ++ (List.replicate k '0' ++ t))) = valueOf (digitValues t) :=
      valueOf_zeros_append (k + 1) t
    rw [hvalue, List.length_append, List.length_replicate] at hsaid
    have hplace : -((k + t.length : ℕ) : ℤ) = point - t.length := by omega
    rw [hplace] at hsaid
    exact hsaid
  obtain ⟨n, rfl⟩ := Int.eq_ofNat_of_zero_le (show 0 ≤ point by omega)
  rw [if_neg hfront, Int.toNat_natCast]
  by_cases hback : (t.length : ℤ) ≤ n
  · -- zeros stand between the digits and the point
    obtain ⟨k, rfl⟩ := Nat.exists_eq_add_of_le (show t.length ≤ n by omega)
    have hsaid := says_pointed s (u := ['0']) (isDigits_append ht (isDigits_zeros k)) (isDigits_zeros 1)
      (List.append_ne_nil_of_left_ne_nil hne _)
    have hvalue : valueOf (digitValues (t ++ List.replicate k '0' ++ ['0'])) =
        valueOf (digitValues t) * 10 ^ k * 10 := by
      rw [← valueOf_append_zeros]
      exact valueOf_append_zeros _ 1
    rw [hvalue] at hsaid
    rw [if_pos hback, Nat.add_sub_cancel_left]
    have hplace : ((valueOf (digitValues t) * 10 ^ k * 10 : ℕ) : ℚ) * 10 ^ (-(['0'].length : ℤ)) =
        valueOf (digitValues t) * 10 ^ (((t.length + k : ℕ) : ℤ) - t.length) := by
      rw [Nat.cast_add, add_sub_cancel_left, zpow_natCast]
      simp
    rw [hplace] at hsaid
    exact hsaid
  · have hsaid := says_pointed s (t := t.take n) (u := t.drop n) (fun c hc => ht c (List.mem_of_mem_take hc))
      (fun c hc => ht c (List.mem_of_mem_drop hc)) (List.ne_nil_of_length_pos (by
        rw [List.length_take]
        omega))
    rw [List.take_append_drop, List.length_drop] at hsaid
    have hplace : -((t.length - n : ℕ) : ℤ) = n - t.length := by omega
    rw [hplace] at hsaid
    rw [if_neg hback]
    exact hsaid

theorem spellsExponent (e : ℤ) :
    SpellsExponent e ('e' :: (if e < 0 then '-' else '+') :: Text.padded 2 e.natAbs) := by
  have hsign : SpellsSign (decide (e < 0)) [if e < 0 then '-' else '+'] := by
    by_cases hneg : e < 0
    · rw [if_pos hneg, decide_eq_true hneg]
      exact .minus
    · rw [if_neg hneg, decide_eq_false hneg]
      exact .plus
  have hspells := SpellsExponent.marked (.inl rfl) hsign (isDigits_padded 2 e.natAbs).spells
    (digitValues_ne_nil (padded_ne_nil 2 e.natAbs))
  rwa [valueOf_padded, signed_natAbs] at hspells

/-- Digits with the point after the first of them and an exponent. -/
theorem says_exponential (s : Bool) {t : Text} (ht : IsDigits t) (hne : t ≠ []) (point : ℤ) :
    Says (signText s ++ exponential t (point - 1)) s
      (valueOf (digitValues t) * 10 ^ (point - t.length)) := by
  cases t with
  | nil => exact absurd rfl hne
  | cons d rest =>
    have hd : IsDigits [d] := fun c hc => ht c (List.mem_cons.mpr (.inl (List.mem_singleton.mp hc)))
    have hrest : IsDigits rest := fun c hc => ht c (List.mem_cons_of_mem d hc)
    cases rest with
    | nil =>
      refine ⟨⟨s, digitValues [d], [], point - 1⟩, ⟨signText s, [d], _, rfl, spellsSign_signText s,
        .whole hd.spells (List.cons_ne_nil _ _), spellsExponent _⟩, rfl, ?_⟩
      unfold DecimalLiteral.magnitude
      simp
    | cons c rest =>
      refine ⟨⟨s, digitValues [d], digitValues (c :: rest), point - 1⟩, ⟨signText s, [d] ++ '.' :: c :: rest,
        _, rfl, spellsSign_signText s, .pointed hd.spells (List.cons_ne_nil _ _) hrest.spells,
        spellsExponent _⟩, rfl, ?_⟩
      unfold DecimalLiteral.magnitude
      rw [← digitValues_append, length_digitValues, List.singleton_append, List.length_cons (a := d)]
      congr 2
      push_cast
      omega

/-- **The text of a magnitude says its shortest decimal.** -/
theorem says_magnitudeText (s : Bool) {m : Magnitude} (h : m.steps ≠ 0) :
    Says (signText s ++ magnitudeText m) s (m.shortest.1 * 10 ^ m.shortest.2) := by
  obtain ⟨k, hk⟩ := exists_append_zeros (Text.ofNat m.shortest.1)
  have hdigits : IsDigits (Text.trimEnd (· == '0') (Text.ofNat m.shortest.1)) := fun c hc =>
    isDigits_ofNat _ c ((Text.trimEnd_prefix _ _).subset hc)
  have hvalue := valueOf_ofNat m.shortest.1
  rw [hk, valueOf_append_zeros] at hvalue
  have hne : Text.trimEnd (· == '0') (Text.ofNat m.shortest.1) ≠ [] := by
    intro hnil
    rw [hnil] at hvalue
    have hdecimal := nearestDecimal?_shortest h
    rw [← hvalue, show valueOf (digitValues []) * 10 ^ k = 0 from Nat.zero_mul _] at hdecimal
    rw [nearestDecimal?_zero _ hdecimal] at h
    exact h rfl
  have hlength : ((Text.ofNat m.shortest.1).length : ℤ) =
      (Text.trimEnd (· == '0') (Text.ofNat m.shortest.1)).length + k := by
    conv_lhs => rw [hk]
    rw [List.length_append, List.length_replicate]
    push_cast
    rfl
  -- the zeros that are left out are counted by the place of the point
  have hsaid : (valueOf (digitValues (Text.trimEnd (· == '0') (Text.ofNat m.shortest.1))) : ℚ) *
      10 ^ ((Text.ofNat m.shortest.1).length + m.shortest.2 -
        (Text.trimEnd (· == '0') (Text.ofNat m.shortest.1)).length) =
      m.shortest.1 * 10 ^ m.shortest.2 := by
    conv_rhs => rw [← hvalue]
    rw [hlength, add_sub_right_comm, add_sub_cancel_left, zpow_add₀ (by norm_num), zpow_natCast]
    push_cast
    ring
  unfold magnitudeText
  rw [if_neg h, ← hsaid]
  dsimp only
  split
  · exact says_positional s hdigits hne _
  · exact says_exponential s hdigits hne _

/-- **A double is read from its own text.** -/
theorem exists_parse?_text {x : Binary64} (h : x.isFinite = true) :
    ∃ l, DecimalLiteral.parse? x.text = some l ∧ l.toBinary64 = x := by
  obtain ⟨s, m, rfl⟩ := exists_finite h
  by_cases hzero : m.steps = 0
  · obtain rfl : m = .zero := Magnitude.steps_injective hzero
    cases s with
    | false => exact ⟨⟨false, [0], [0], 0⟩, by decide, rfl⟩
    | true => exact ⟨⟨true, [0], [0], 0⟩, by decide, rfl⟩
  · obtain ⟨l, hspells, hsign, hsaid⟩ := says_magnitudeText s hzero
    refine ⟨l, DecimalLiteral.parse?_eq_some_iff.mpr hspells, ?_⟩
    rw [DecimalLiteral.toBinary64_of_magnitude hspells.digit_lt (nearestDecimal?_shortest hzero) hsaid, hsign]

end WeatherTelegram
