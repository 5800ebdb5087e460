import Mathlib.Algebra.Group.Nat.Even
import WeatherTelegram.Proofs.Binary64.Canonical

/-!
# `Proofs.Binary64.Nearest` — which double is the nearest one

A double is nearest to a rational number if no finite double is nearer and, where another one is as near,
its last binary place is zero. Between two doubles that both end in zero lies a third one, so the nearest
double is one only, and it grows with the number. Every result that is finite is the nearest double of the
exact one.

## Contents
- **Signs.** `withSign`, `value_eq_withSign`, `eq_of_value_eq`.
- **The nearest double.** `Binary64.IsNearest`, `IsNearest.neg`, `isNearest_self`.
- **One only.** `Magnitude.exists_between`, `Binary64.next_le`, `Binary64.exists_between`,
  `IsNearest.value_eq`, `IsNearest.mono`.
- **Rounding.** `roundHalfEven_trichotomy`, `Magnitude.nearest?_trichotomy`, `ofSteps_isNearest`.
- **Operations.** `ofRatio_isNearest`, `mul_isNearest`, `add_isNearest`; `IsNearest.abs_sub_le`.
-/

namespace WeatherTelegram

-- one is far too many steps to be counted out, so that no proof below may look at their number
attribute [local irreducible] stepsPerUnit

/-! ## Signs -/

/-- A number under a sign. -/
def withSign (negative : Bool) (q : ℚ) : ℚ := if negative then -q else q

@[simp] theorem withSign_false (q : ℚ) : withSign false q = q := rfl

@[simp] theorem withSign_true (q : ℚ) : withSign true q = -q := rfl

@[simp] theorem withSign_not (s : Bool) (q : ℚ) : withSign (!s) q = -withSign s q := by
  cases s <;> simp

@[simp] theorem abs_withSign (s : Bool) (q : ℚ) : |withSign s q| = |q| := by
  cases s <;> simp

theorem withSign_mul (s : Bool) (p q : ℚ) : withSign s p * q = withSign s (p * q) := by
  cases s <;> simp

theorem withSign_abs (q : ℚ) : withSign (decide (q < 0)) |q| = q := by
  by_cases h : q < 0
  · rw [decide_eq_true h, withSign_true, abs_of_neg h, neg_neg]
  · rw [decide_eq_false h, withSign_false, abs_of_nonneg (not_lt.mp h)]

theorem abs_withSign_sub_withSign (s : Bool) (p q : ℚ) : |withSign s p - withSign s q| = |p - q| := by
  cases s
  · rfl
  · rw [withSign_true, withSign_true, neg_sub_neg, abs_sub_comm]

theorem abs_neg_sub (p q : ℚ) : |-p - q| = |p - -q| := by
  rw [← abs_neg, neg_sub, sub_neg_eq_add, sub_neg_eq_add, add_comm]

namespace Binary64

theorem value_eq_withSign (s : Bool) (m : Magnitude) : value (.finite s m) = withSign s m.value := rfl

@[simp] theorem value_neg (x : Binary64) : x.neg.value = -x.value := by
  cases x with
  | nan => exact neg_zero.symm
  | infinite s => exact neg_zero.symm
  | finite s m => exact withSign_not s m.value

@[simp] theorem isFinite_neg (x : Binary64) : x.neg.isFinite = x.isFinite := by
  cases x <;> rfl

/-- Doubles of the same value are the same but for the sign of zero. -/
theorem eq_of_value_eq {s t : Bool} {m n : Magnitude} (h : value (.finite s m) = value (.finite t n)) :
    m = n ∧ (s = t ∨ m.steps = 0) := by
  have hsteps : signedSteps s m = signedSteps t n := by
    have hcast : (signedSteps s m : ℚ) = signedSteps t n := by rw [signedSteps_eq, signedSteps_eq, h]
    exact_mod_cast hcast
  have hcases : m.steps = n.steps ∧ (s = t ∨ m.steps = 0) := by
    cases s <;> cases t <;>
      simp only [signedSteps, if_true, Bool.false_eq_true, if_false, reduceCtorEq, true_or, false_or,
        and_true] at hsteps ⊢ <;> omega
  exact ⟨Magnitude.steps_injective hcases.1, hcases.2⟩

/-! ## The nearest double -/

/-- The last binary place is zero. -/
def EndsInZero : Binary64 → Prop
  | .finite _ m => Even m.significand
  | _ => False

/-- **The nearest double** to a number: no finite double is nearer, and of two that are equally near it is
    the one that ends in zero. -/
structure IsNearest (x : Binary64) (q : ℚ) : Prop where
  isFinite : x.isFinite = true
  abs_le : ∀ y : Binary64, y.isFinite = true → |x.value - q| ≤ |y.value - q|
  endsInZero : ∀ y : Binary64, y.isFinite = true → y.value ≠ x.value → |y.value - q| = |x.value - q| →
    x.EndsInZero

theorem EndsInZero.neg {x : Binary64} (h : x.EndsInZero) : x.neg.EndsInZero := by
  cases x <;> exact h

theorem IsNearest.neg {x : Binary64} {q : ℚ} (h : x.IsNearest q) : x.neg.IsNearest (-q) := by
  have hdist : ∀ y : Binary64, |y.neg.value - q| = |y.value - -q| := fun y => by
    rw [value_neg, abs_neg_sub]
  have hself : |x.neg.value - -q| = |x.value - q| := by
    rw [value_neg, neg_sub_neg, abs_sub_comm]
  refine ⟨by rw [isFinite_neg, h.isFinite], fun y hy => ?_, fun y hy hne htie => EndsInZero.neg ?_⟩
  · rw [hself, ← hdist]
    exact h.abs_le y.neg (by rw [isFinite_neg, hy])
  · apply h.endsInZero y.neg (by rw [isFinite_neg, hy])
    · intro heq
      rw [value_neg, neg_eq_iff_eq_neg] at heq
      exact hne (by rw [value_neg, heq])
    · rw [hdist, htie, hself]

/-- A double is nearest to its own value. -/
theorem isNearest_self {x : Binary64} (h : x.isFinite = true) : x.IsNearest x.value := by
  refine ⟨h, fun y _ => ?_, fun y _ hne htie => absurd ?_ hne⟩
  · rw [sub_self, abs_zero]
    exact abs_nonneg _
  · rw [sub_self, abs_zero, abs_eq_zero, sub_eq_zero] at htie
    exact htie

end Binary64

/-! ## One only -/

/-- A larger magnitude is a larger multiple of the unit of the smaller one. -/
theorem Magnitude.exists_multiple_of_lt {m n : Magnitude} (h : m.steps < n.steps) :
    ∃ k, n.steps = n.significand * 2 ^ k * 2 ^ m.scale ∧ m.significand < n.significand * 2 ^ k := by
  have hbinades : m.scale ≤ n.scale := by
    by_contra hlt
    have hleast := m.le_steps.resolve_left (by omega)
    have hpow := (hleast.trans_lt h).trans n.steps_lt
    have := (Nat.pow_lt_pow_iff_right (by decide : 1 < 2)).mp hpow
    unfold precision at this
    omega
  have hsteps : n.steps = n.significand * 2 ^ (n.scale - m.scale) * 2 ^ m.scale := by
    rw [steps, Nat.mul_assoc, ← pow_add, Nat.sub_add_cancel hbinades]
  refine ⟨n.scale - m.scale, hsteps, ?_⟩
  rw [hsteps] at h
  exact lt_of_mul_lt_mul_right h (Nat.zero_le _)

/-- No magnitude lies between two of one scale whose significands follow each other. -/
theorem Magnitude.steps_le_of_next {m m' n : Magnitude} (hscale : m'.scale = m.scale)
    (hnext : m'.significand = m.significand + 1) (h : m.steps < n.steps) : m'.steps ≤ n.steps := by
  obtain ⟨k, hsteps, hlt⟩ := exists_multiple_of_lt h
  rw [hsteps, steps, hscale, hnext]
  exact Nat.mul_le_mul_right _ hlt

/-- Between two magnitudes that end in zero lies a third one. -/
theorem Magnitude.exists_between {m n : Magnitude} (h : m.steps < n.steps) (hm : Even m.significand)
    (hn : Even n.significand) : ∃ k : Magnitude, m.steps < k.steps ∧ k.steps < n.steps := by
  -- both are even multiples of the unit of the smaller one
  obtain ⟨j, hj, hlt⟩ := exists_multiple_of_lt h
  have hroom : m.significand + 1 < n.significand * 2 ^ j := by
    obtain ⟨a, ha⟩ := hm
    obtain ⟨b, hb⟩ := hn.mul_right (2 ^ j)
    omega
  have hplaces : m.significand + 1 < 2 ^ precision := by
    have hmost := m.significand_lt
    obtain ⟨a, ha⟩ := hm
    unfold precision at hmost ⊢
    omega
  refine ⟨⟨m.significand + 1, m.scale, hplaces, m.scale_le, m.full_or_least.imp_right (by omega)⟩, ?_, ?_⟩
  · exact Nat.mul_lt_mul_of_pos_right (Nat.lt_succ_self _) (Nat.two_pow_pos _)
  · rw [hj]
    exact Nat.mul_lt_mul_of_pos_right hroom (Nat.two_pow_pos _)

theorem Magnitude.value_zero : zero.value = 0 := by
  show ((0 : ℕ) : ℚ) / stepsPerUnit = 0
  rw [Nat.cast_zero, zero_div]

theorem Magnitude.value_lt_iff {m n : Magnitude} : m.value < n.value ↔ m.steps < n.steps := by
  unfold value
  rw [div_lt_div_iff_of_pos_right cast_stepsPerUnit_pos, Nat.cast_lt]

namespace Binary64

/-- A double that is not at most another one is at least the next. -/
theorem next_le {m m' n : Magnitude} (hscale : m'.scale = m.scale)
    (hnext : m'.significand = m.significand + 1) (h : ¬ Binary64.finite false n ≤ .finite false m) :
    Binary64.finite false m' ≤ .finite false n := by
  have hlt := Magnitude.value_lt_iff.mp (not_le.mp (mt (le_finite_iff false false n m).mpr h))
  have hle := Magnitude.steps_le_of_next hscale hnext hlt
  exact (le_finite_iff false false m' n).mpr (not_lt.mp (mt Magnitude.value_lt_iff.mp (not_lt.mpr hle)))

/-- A double that is not negative is its magnitude. -/
theorem value_of_nonneg {s : Bool} {m : Magnitude} (h : 0 ≤ value (.finite s m)) :
    value (.finite s m) = m.value := by
  cases s with
  | false => rfl
  | true =>
    rw [value_finite_true] at h ⊢
    linarith [m.value_nonneg]

theorem value_zero : value zero = 0 := Magnitude.value_zero

/-- Between two doubles that are not negative and end in zero lies a third one. -/
theorem exists_between_of_nonneg {x y : Binary64} (hx : x.EndsInZero) (hy : y.EndsInZero)
    (hnonneg : 0 ≤ x.value) (h : x.value < y.value) :
    ∃ z : Binary64, z.isFinite = true ∧ x.value < z.value ∧ z.value < y.value := by
  cases x with
  | nan => exact hx.elim
  | infinite s => exact hx.elim
  | finite s m =>
    cases y with
    | nan => exact hy.elim
    | infinite t => exact hy.elim
    | finite t n =>
      have hmost := hnonneg.trans h.le
      rw [value_of_nonneg hnonneg, value_of_nonneg hmost] at h ⊢
      obtain ⟨k, hmk, hkn⟩ := Magnitude.exists_between (Magnitude.value_lt_iff.mp h) hx hy
      exact ⟨.finite false k, rfl, Magnitude.value_lt_iff.mpr hmk, Magnitude.value_lt_iff.mpr hkn⟩

/-- **Between two doubles that end in zero lies a third one.** -/
theorem exists_between {x y : Binary64} (hx : x.EndsInZero) (hy : y.EndsInZero)
    (h : x.value < y.value) :
    ∃ z : Binary64, z.isFinite = true ∧ x.value < z.value ∧ z.value < y.value := by
  rcases le_or_gt 0 x.value with hnonneg | hneg
  · exact exists_between_of_nonneg hx hy hnonneg h
  · rcases le_or_gt y.value 0 with hnonpos | hpos
    · -- the same below zero, read from the other side
      obtain ⟨z, hz, hyz, hzx⟩ := exists_between_of_nonneg hy.neg hx.neg
        (by rw [value_neg]; linarith) (by rw [value_neg, value_neg]; linarith)
      rw [value_neg] at hyz hzx
      exact ⟨z.neg, by rw [isFinite_neg, hz], by rw [value_neg]; linarith, by rw [value_neg]; linarith⟩
    · exact ⟨zero, rfl, by rw [value_zero]; exact hneg, by rw [value_zero]; exact hpos⟩

/-- **The nearest double is one only**, but for the sign of zero. -/
theorem IsNearest.value_eq {x y : Binary64} {q : ℚ} (hx : x.IsNearest q) (hy : y.IsNearest q) :
    x.value = y.value := by
  -- of two that are equally near both end in zero, and what lies between them is nearer
  have hclash : ∀ {x y : Binary64}, x.IsNearest q → y.IsNearest q → ¬ x.value < y.value := by
    intro x y hx hy hlt
    have htie : |y.value - q| = |x.value - q| :=
      le_antisymm (hy.abs_le x hx.isFinite) (hx.abs_le y hy.isFinite)
    obtain ⟨z, hz, hxz, hzy⟩ := exists_between (hx.endsInZero y hy.isFinite hlt.ne' htie)
      (hy.endsInZero x hx.isFinite hlt.ne htie.symm) hlt
    have hleast := neg_abs_le (x.value - q)
    have hmost := le_abs_self (y.value - q)
    have hnearer : |z.value - q| < |x.value - q| := abs_lt.mpr ⟨by linarith, by linarith⟩
    exact absurd (hx.abs_le z hz) (not_le.mpr hnearer)
  exact le_antisymm (not_lt.mp (hclash hy hx)) (not_lt.mp (hclash hx hy))

/-- **A larger number has no smaller nearest double.** -/
theorem IsNearest.mono {x y : Binary64} {p q : ℚ} (hx : x.IsNearest p) (hy : y.IsNearest q)
    (h : p ≤ q) : x.value ≤ y.value := by
  by_contra hlt
  have hxp := hx.abs_le y hy.isFinite
  have hyq := hy.abs_le x hx.isFinite
  -- the two numbers lie on their sides of the middle between the doubles, so that they meet there
  have hp : x.value + y.value ≤ 2 * p := by
    have hself := le_abs_self (x.value - p)
    rcases abs_cases (y.value - p) with ⟨habs, _⟩ | ⟨habs, _⟩ <;> linarith
  have hq : 2 * q ≤ x.value + y.value := by
    have hself := neg_abs_le (y.value - q)
    rcases abs_cases (x.value - q) with ⟨habs, _⟩ | ⟨habs, _⟩ <;> linarith
  obtain rfl : p = q := by linarith
  exact hlt (hx.value_eq hy).le

end Binary64

/-! ## Rounding -/

/-- Any other integer is farther from the quotient than its rounding, or as far, and then that is even. -/
theorem roundHalfEven_trichotomy (num : ℕ) {den : ℕ} (hden : 0 < den) (n : ℕ) :
    n = roundHalfEven num den ∨ |(roundHalfEven num den : ℚ) - num / den| < |(n : ℚ) - num / den| ∨
      (Even (roundHalfEven num den) ∧
        |(roundHalfEven num den : ℚ) - num / den| = |(n : ℚ) - num / den|) := by
  have hnear := abs_roundHalfEven_sub_le num hden
  by_cases heq : n = roundHalfEven num den
  · exact .inl heq
  have hapart : 1 ≤ |(n : ℚ) - roundHalfEven num den| := by
    have hne : (n : ℤ) - roundHalfEven num den ≠ 0 := by omega
    exact_mod_cast Int.one_le_abs hne
  have htriangle := abs_sub_le (n : ℚ) (num / den) (roundHalfEven num den)
  rw [abs_sub_comm (num / den : ℚ)] at htriangle
  rcases lt_or_ge |(roundHalfEven num den : ℚ) - num / den| |(n : ℚ) - num / den| with hlt | hge
  · exact .inr (.inl hlt)
  · have htie := roundHalfEven_even_of_tie hden (le_antisymm hnear (by linarith))
    exact .inr (.inr ⟨Nat.even_iff.mpr htie, by linarith⟩)

namespace Magnitude

/-- A rounded magnitude ends in zero if the rounded significand does; a carry ends in zero by itself. -/
theorem even_significand_of_nearest? {num den : ℕ} {m : Magnitude} (h : nearest? num den = some m)
    (heven : Even (roundedSignificand num den)) : Even m.significand := by
  unfold nearest? at h
  split at h
  · split at h
    · cases h
      show Even (2 ^ (precision - 1))
      decide
    · cases h
  · split at h
    · cases h
      exact heven
    · cases h

/-- **No magnitude is nearer to a quotient than its rounding**, and if one is as near, the rounding ends in
    zero. -/
theorem nearest?_trichotomy {num den : ℕ} (hden : 0 < den) {m : Magnitude}
    (h : nearest? num den = some m) (n : Magnitude) :
    n = m ∨ |(m.steps : ℚ) - num / den| < |(n.steps : ℚ) - num / den| ∨
      (Even m.significand ∧ |(m.steps : ℚ) - num / den| = |(n.steps : ℚ) - num / den|) := by
  have hscaled : 0 < den * 2 ^ scaleFor (num / den) := Nat.mul_pos hden (Nat.two_pow_pos _)
  have hpow : (0 : ℚ) < 2 ^ scaleFor (num / den) := by positivity
  have hmsteps := steps_of_nearest? h
  -- distances in units of the scale
  have hunits : ∀ k : ℕ, |((k * 2 ^ scaleFor (num / den) : ℕ) : ℚ) - num / den|
      = |(k : ℚ) - num / (den * 2 ^ scaleFor (num / den) : ℕ)| * 2 ^ scaleFor (num / den) := by
    intro k
    rw [cast_div_scaled, ← abs_of_pos hpow, ← abs_mul, abs_of_pos hpow, sub_mul,
      div_mul_cancel₀ _ hpow.ne']
    push_cast
    rfl
  rcases Nat.lt_or_ge n.scale (scaleFor (num / den)) with hfine | hcoarse
  · -- a magnitude of a smaller scale lies below the least one of this scale, and that below the quotient
    have hleast : ((2 ^ (precision - 1) * 2 ^ scaleFor (num / den) : ℕ) : ℚ) ≤ num / den := by
      rw [← pow_add]
      have hfloor := pow_scaleFor_le (q := num / den) (by omega)
      exact (Nat.cast_le.mpr hfloor).trans Nat.cast_div_le
    have hbelow : (n.steps : ℚ) < (2 ^ (precision - 1) * 2 ^ scaleFor (num / den) : ℕ) := by
      rw [← pow_add, Nat.cast_lt]
      refine n.steps_lt.trans_le (Nat.pow_le_pow_right (by decide) ?_)
      unfold precision
      omega
    have hround : |(roundHalfEven num (den * 2 ^ scaleFor (num / den)) : ℚ)
        - num / (den * 2 ^ scaleFor (num / den) : ℕ)|
        ≤ |((2 ^ (precision - 1) : ℕ) : ℚ) - num / (den * 2 ^ scaleFor (num / den) : ℕ)| := by
      rcases roundHalfEven_trichotomy num hscaled (2 ^ (precision - 1)) with heq | hlt | ⟨_, htie⟩
      · rw [← heq]
      · exact hlt.le
      · exact htie.le
    have hscaledRound := mul_le_mul_of_nonneg_right hround hpow.le
    rw [← hunits, ← hunits] at hscaledRound
    refine .inr (.inl ?_)
    rw [hmsteps]
    refine hscaledRound.trans_lt ?_
    rw [abs_of_nonpos (by linarith), abs_of_nonpos (by linarith)]
    linarith
  · have hnsteps : n.steps
        = n.significand * 2 ^ (n.scale - scaleFor (num / den)) * 2 ^ scaleFor (num / den) := by
      rw [steps, Nat.mul_assoc, ← pow_add, Nat.sub_add_cancel hcoarse]
    rw [hmsteps, hnsteps, hunits, hunits]
    rcases roundHalfEven_trichotomy num hscaled (n.significand * 2 ^ (n.scale - scaleFor (num / den)))
      with heq | hlt | ⟨heven, htie⟩
    · refine .inl (steps_injective ?_)
      rw [hmsteps, hnsteps, heq]
      rfl
    · exact .inr (.inl (mul_lt_mul_of_pos_right hlt hpow))
    · refine .inr (.inr ⟨even_significand_of_nearest? h heven, ?_⟩)
      rw [← htie]
      rfl

/-- **A rounded quotient is the nearest double**, of all doubles of either sign. -/
theorem isNearest_of_nearest? {num den : ℕ} (hden : 0 < den) {m : Magnitude}
    (h : nearest? num den = some m) {q : ℚ} (hq : (num : ℚ) / den = q * stepsPerUnit) :
    (Binary64.finite false m).IsNearest q := by
  have hunit := cast_stepsPerUnit_pos
  have hnonneg : 0 ≤ q := by
    have : 0 ≤ q * stepsPerUnit := by
      rw [← hq]
      positivity
    exact nonneg_of_mul_nonneg_left this hunit
  have hdist : ∀ n : Magnitude, |(n.steps : ℚ) - num / den| = |n.value - q| * stepsPerUnit := by
    intro n
    rw [hq, ← n.value_mul_stepsPerUnit, ← sub_mul, abs_mul, abs_of_pos hunit]
  have hother : ∀ n : Magnitude, n = m ∨ |m.value - q| < |n.value - q| ∨
      (Even m.significand ∧ |m.value - q| = |n.value - q|) := by
    intro n
    have hcases := nearest?_trichotomy hden h n
    rwa [hdist, hdist, mul_lt_mul_iff_left₀ hunit, mul_left_inj' hunit.ne'] at hcases
  have hle : ∀ n : Magnitude, |m.value - q| ≤ |n.value - q| := by
    intro n
    rcases hother n with rfl | hlt | ⟨_, htie⟩
    · exact le_rfl
    · exact hlt.le
    · exact htie.le
  refine ⟨rfl, fun y hy => ?_, fun y hy hne htie => ?_⟩
  · obtain ⟨t, n, rfl⟩ := Binary64.exists_finite hy
    cases t with
    | false => exact hle n
    | true =>
      refine (hle n).trans ?_
      have hn := n.value_nonneg
      rw [Binary64.value_finite_true, abs_neg_sub, sub_neg_eq_add, abs_of_nonneg (add_nonneg hn hnonneg)]
      exact abs_le.mpr ⟨by linarith, by linarith⟩
  · obtain ⟨t, n, rfl⟩ := Binary64.exists_finite hy
    -- a double on the other side of zero is as near only if it is zero
    have hvalue : Binary64.value (.finite t n) = n.value := by
      cases t with
      | false => rfl
      | true =>
        have hzero := hle zero
        rw [value_zero, zero_sub, abs_neg, abs_of_nonneg hnonneg] at hzero
        rw [Binary64.value_finite_true, Binary64.value_finite_false, abs_neg_sub, sub_neg_eq_add,
          abs_of_nonneg (add_nonneg n.value_nonneg hnonneg)] at htie
        rw [Binary64.value_finite_true]
        linarith [n.value_nonneg]
    rw [hvalue] at hne htie
    rcases hother n with rfl | hlt | ⟨heven, _⟩
    · exact absurd rfl hne
    · exact absurd htie hlt.ne'
    · exact heven

end Magnitude

namespace Binary64

/-- A quotient of steps that rounds to a finite double rounds to the nearest one. -/
theorem ofSteps_isNearest {s : Bool} {num den : ℕ} (hden : 0 < den)
    (h : (ofSteps s num den).isFinite = true) {q : ℚ} (hq : (num : ℚ) / den = q * stepsPerUnit) :
    (ofSteps s num den).IsNearest (withSign s q) := by
  unfold ofSteps at h ⊢
  cases hm : Magnitude.nearest? num den with
  | none =>
    rw [hm] at h
    cases h
  | some m =>
    have hnear := Magnitude.isNearest_of_nearest? hden hm hq
    cases s with
    | false => exact hnear
    | true => exact hnear.neg

/-! ## Operations -/

theorem ofRatio_isNearest {s : Bool} {num den : ℕ} (hden : 0 < den)
    (h : (ofRatio s num den).isFinite = true) :
    (ofRatio s num den).IsNearest (withSign s (num / den)) := by
  apply ofSteps_isNearest hden h
  push_cast
  ring

/-- **Products** are nearest doubles. -/
theorem mul_isNearest {s t : Bool} {m n : Magnitude}
    (h : (Binary64.finite s m * .finite t n).isFinite = true) :
    (Binary64.finite s m * .finite t n).IsNearest (value (.finite s m) * value (.finite t n)) := by
  have hsign : value (.finite s m) * value (.finite t n) = withSign (s != t) (m.value * n.value) := by
    cases s <;> cases t <;> simp [value_eq_withSign]
  rw [hsign]
  apply ofSteps_isNearest stepsPerUnit_pos h
  push_cast
  rw [← m.value_mul_stepsPerUnit, ← n.value_mul_stepsPerUnit, div_eq_iff cast_stepsPerUnit_pos.ne']
  ring

/-- **Sums** of magnitudes are nearest doubles. -/
theorem add_isNearest {m n : Magnitude}
    (h : (Binary64.finite false m + .finite false n).isFinite = true) :
    (Binary64.finite false m + .finite false n).IsNearest (m.value + n.value) := by
  rw [add_eq_ofSteps] at h ⊢
  apply ofSteps_isNearest Nat.one_pos h
  push_cast
  rw [← m.value_mul_stepsPerUnit, ← n.value_mul_stepsPerUnit]
  ring

/-- **The error of a nearest double**, far from overflow. -/
theorem IsNearest.abs_sub_le {x : Binary64} {q : ℚ} (h : x.IsNearest q) (hq : |q| ≤ 10 ^ 60) :
    |x.value - q| ≤ |q| / 2 ^ 53 + halfStep := by
  have hratio : ((q.num.natAbs : ℕ) : ℚ) / q.den = |q| := by
    rw [Nat.cast_natAbs, Int.cast_abs, ← Nat.abs_cast q.den, ← abs_div, Rat.num_div_den]
  obtain ⟨m, hm, happ⟩ := ofRatio_approximates (decide (q < 0)) q.num.natAbs q.den_pos
    (inRange_of_le (hratio.trans_le hq))
  rw [hratio] at happ
  have hvalue : |value (.finite (decide (q < 0)) m) - q| = |m.value - (|q|)| := by
    rw [← abs_withSign_sub_withSign (decide (q < 0)) m.value, withSign_abs]
    rfl
  exact (h.abs_le _ rfl).trans (hvalue.trans_le happ)

end Binary64

end WeatherTelegram
