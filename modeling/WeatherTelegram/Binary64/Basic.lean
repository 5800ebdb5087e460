/-!
# `Binary64.Basic` — double-precision numbers as whole numbers of smallest steps

Every finite double is a whole multiple of the smallest positive one, `2 ^ (-1074)`. A magnitude is
kept as `significand * 2 ^ scale` such steps in the one canonical way, so two doubles are equal as
values of this type exactly when they are the same double, and every operation is an exact
operation on naturals followed by a single rounding.

## Contents
- `roundHalfEven`: the nearest natural to a quotient, ties to even, with its two bounds.
- `Magnitude`, `Magnitude.steps`, `Magnitude.nearest?`: the canonical form and the one rounding.
- `Binary64`: sign and magnitude, the infinities and not-a-number.
- Comparison (`lt`, `le`, `sameValue`), and the whole-number readings `floor?` and `truncate?`.
-/

namespace WeatherTelegram

-- Powers of natural numbers are those of `Nat`, whatever algebra is loaded besides.
attribute [local instance (1100)] instPowNat

/-! ## Rounding a quotient -/

/-- The natural number nearest to `num / den`; a tie goes to the even neighbour. -/
def roundHalfEven (num den : Nat) : Nat :=
  if 2 * (num % den) < den then num / den
  else if den < 2 * (num % den) then num / den + 1
  else num / den + num / den % 2

theorem div_le_roundHalfEven (num den : Nat) : num / den ≤ roundHalfEven num den := by
  unfold roundHalfEven
  split
  · omega
  · split <;> omega

theorem roundHalfEven_le_div_add_one (num den : Nat) : roundHalfEven num den ≤ num / den + 1 := by
  unfold roundHalfEven
  split
  · omega
  · split <;> omega

/-! ## Magnitudes -/

/-- How many binary places a significand has. -/
def precision : Nat := 53

/-- A finite magnitude of the format: `significand * 2 ^ scale` steps of `2 ^ (-1074)` each, with a
    full significand unless the scale is zero. -/
structure Magnitude where
  significand : Nat
  scale : Nat
  significand_lt : significand < 2 ^ precision
  scale_le : scale ≤ 2045
  full_or_least : scale = 0 ∨ 2 ^ (precision - 1) ≤ significand
deriving DecidableEq

namespace Magnitude

/-- The magnitude as a number of smallest steps. -/
def steps (m : Magnitude) : Nat := m.significand * 2 ^ m.scale

/-- The zero magnitude. -/
def zero : Magnitude := ⟨0, 0, by decide, by decide, .inl rfl⟩

instance : Inhabited Magnitude := ⟨zero⟩

/-- The scale at which a quotient of `q` whole steps fills all binary places. -/
def scaleFor (q : Nat) : Nat := q.log2 + 1 - precision

theorem div_lt_of_scaleFor (q : Nat) : q / 2 ^ scaleFor q < 2 ^ precision := by
  rw [Nat.div_lt_iff_lt_mul (Nat.pow_pos (by decide)), ← Nat.pow_add]
  have h : q < 2 ^ (q.log2 + 1) := Nat.lt_log2_self
  refine Nat.lt_of_lt_of_le h (Nat.pow_le_pow_right (by decide) ?_)
  unfold scaleFor
  omega

theorem le_div_of_scaleFor_pos {q : Nat} (h : 0 < scaleFor q) : 2 ^ (precision - 1) ≤ q / 2 ^ scaleFor q := by
  rw [Nat.le_div_iff_mul_le (Nat.pow_pos (by decide)), ← Nat.pow_add]
  have hq : q ≠ 0 := by
    intro hq
    subst hq
    simp [scaleFor, precision] at h
  have hle : 2 ^ q.log2 ≤ q := Nat.log2_self_le hq
  refine Nat.le_trans (Nat.pow_le_pow_right (by decide) ?_) hle
  unfold scaleFor precision at *
  omega

/-- The significand of `num / den` steps at its scale, before a carry to the next scale. -/
def roundedSignificand (num den : Nat) : Nat := roundHalfEven num (den * 2 ^ scaleFor (num / den))

theorem roundedSignificand_le (num den : Nat) : roundedSignificand num den ≤ 2 ^ precision := by
  have h := roundHalfEven_le_div_add_one num (den * 2 ^ scaleFor (num / den))
  rw [← Nat.div_div_eq_div_mul] at h
  have hlt := div_lt_of_scaleFor (num / den)
  unfold roundedSignificand
  omega

theorem full_roundedSignificand (num den : Nat) :
    scaleFor (num / den) = 0 ∨ 2 ^ (precision - 1) ≤ roundedSignificand num den := by
  rcases Nat.eq_zero_or_pos (scaleFor (num / den)) with h | h
  · exact .inl h
  · refine .inr (Nat.le_trans (le_div_of_scaleFor_pos h) ?_)
    rw [Nat.div_div_eq_div_mul]
    exact div_le_roundHalfEven _ _

/-- The magnitude nearest to `num / den` steps, ties to an even significand; `none` when that lies
    beyond the largest finite magnitude. -/
def nearest? (num den : Nat) : Option Magnitude :=
  if hc : roundedSignificand num den = 2 ^ precision then
    if hs : scaleFor (num / den) + 1 ≤ 2045 then
      some ⟨2 ^ (precision - 1), scaleFor (num / den) + 1, by decide, hs, .inr (Nat.le_refl _)⟩
    else none
  else
    if hs : scaleFor (num / den) ≤ 2045 then
      some ⟨roundedSignificand num den, scaleFor (num / den),
        Nat.lt_of_le_of_ne (roundedSignificand_le num den) hc, hs, full_roundedSignificand num den⟩
    else none

end Magnitude

/-! ## Doubles -/

/-- A double-precision number. -/
inductive Binary64 where
  | nan
  | infinite (negative : Bool)
  | finite (negative : Bool) (magnitude : Magnitude)
deriving DecidableEq, Inhabited

/-- Why a double has no whole part. -/
inductive NonFinite where
  | nan
  | infinite
deriving DecidableEq, Inhabited, Repr

/-- The power of two of the smallest step, without its sign. -/
def stepExponent : Nat := 1074

/-- How many smallest steps make up one. -/
def stepsPerUnit : Nat := 2 ^ stepExponent

namespace Binary64

/-- Positive zero. -/
def zero : Binary64 := .finite false .zero

/-- A signed count of smallest steps. -/
def signedSteps (negative : Bool) (m : Magnitude) : Int :=
  if negative then -(m.steps : Int) else m.steps

/-- The double nearest to `num / den` smallest steps under the given sign. -/
def ofSteps (negative : Bool) (num den : Nat) : Binary64 :=
  match Magnitude.nearest? num den with
  | some m => .finite negative m
  | none => .infinite negative

/-- The double nearest to `num / den` under the given sign. -/
def ofRatio (negative : Bool) (num den : Nat) : Binary64 := ofSteps negative (num * stepsPerUnit) den

/-- The double nearest to a whole number. -/
def ofInt (k : Int) : Binary64 := ofRatio (decide (k < 0)) k.natAbs 1

/-- The double nearest to `k / den`; a zero is positive. -/
def ofIntRatio (k : Int) (den : Nat) : Binary64 := ofRatio (decide (k < 0)) k.natAbs den

instance (n : Nat) : OfNat Binary64 n := ⟨ofRatio false n 1⟩

/-- Whether the double is neither infinite nor not-a-number. -/
def isFinite : Binary64 → Bool
  | .finite .. => true
  | _ => false

/-- The sign, which zeros and infinities carry too. -/
def isNegative : Binary64 → Bool
  | .nan => false
  | .infinite s => s
  | .finite s _ => s

/-! ## Order -/

/-- Strict order by value; not-a-number is unordered, and the zeros are equal. -/
def lt : Binary64 → Binary64 → Bool
  | .nan, _ => false
  | _, .nan => false
  | .infinite s, .infinite t => s && !t
  | .infinite s, .finite .. => s
  | .finite .., .infinite t => !t
  | .finite s m, .finite t n => signedSteps s m < signedSteps t n

/-- Equality by value; not-a-number differs from itself, and the zeros are equal. -/
def sameValue : Binary64 → Binary64 → Bool
  | .infinite s, .infinite t => s == t
  | .finite s m, .finite t n => signedSteps s m == signedSteps t n
  | _, _ => false

/-- Weak order by value. -/
def le (x y : Binary64) : Bool := lt x y || sameValue x y

instance : LT Binary64 := ⟨fun x y => lt x y = true⟩

instance : LE Binary64 := ⟨fun x y => le x y = true⟩

instance (x y : Binary64) : Decidable (x < y) := inferInstanceAs (Decidable (lt x y = true))

instance (x y : Binary64) : Decidable (x ≤ y) := inferInstanceAs (Decidable (le x y = true))

/-! ## Whole parts -/

/-- The greatest whole number not above the value. -/
def floor? : Binary64 → Except NonFinite Int
  | .nan => .error .nan
  | .infinite _ => .error .infinite
  | .finite s m => .ok (signedSteps s m / (stepsPerUnit : Int))

/-- The value without its fraction. -/
def truncate? : Binary64 → Except NonFinite Int
  | .nan => .error .nan
  | .infinite _ => .error .infinite
  | .finite s m => .ok (Int.tdiv (signedSteps s m) stepsPerUnit)

end Binary64

end WeatherTelegram
