import WeatherTelegram.Binary64.Basic

/-!
# `Binary64.Arithmetic` — the four operations and the sign

Each operation is exact on signed step counts and rounded once, ties to even. The sign of a zero
sum is negative only when both operands are negative; the sign of a product or quotient is that of
exactly one negative operand.

## Contents
- `neg`, `abs`, `copySign`: operations on the sign alone, never rounded.
- `add`, `sub`, `mul`, `div`, with the arithmetic instances.
-/

namespace WeatherTelegram

namespace Binary64

/-! ## Sign -/

/-- The value with the other sign. -/
protected def neg : Binary64 → Binary64
  | .nan => .nan
  | .infinite s => .infinite (!s)
  | .finite s m => .finite (!s) m

/-- The value without its sign. -/
protected def abs : Binary64 → Binary64
  | .nan => .nan
  | .infinite _ => .infinite false
  | .finite _ m => .finite false m

/-- The magnitude of `x` under the sign of `y`. -/
def copySign (x y : Binary64) : Binary64 :=
  match x with
  | .nan => .nan
  | .infinite _ => .infinite y.isNegative
  | .finite _ m => .finite y.isNegative m

/-! ## Operations -/

/-- The sum, rounded once. -/
protected def add : Binary64 → Binary64 → Binary64
  | .nan, _ => .nan
  | _, .nan => .nan
  | .infinite s, .infinite t => if s = t then .infinite s else .nan
  | .infinite s, .finite .. => .infinite s
  | .finite .., .infinite t => .infinite t
  | .finite s m, .finite t n =>
    if signedSteps s m + signedSteps t n = 0 then .finite (s && t) .zero
    else ofSteps (decide (signedSteps s m + signedSteps t n < 0))
      (signedSteps s m + signedSteps t n).natAbs 1

/-- The difference, rounded once. -/
protected def sub (x y : Binary64) : Binary64 := x.add y.neg

/-- The product, rounded once. -/
protected def mul : Binary64 → Binary64 → Binary64
  | .nan, _ => .nan
  | _, .nan => .nan
  | .infinite s, .infinite t => .infinite (s != t)
  | .infinite s, .finite t n => if n.steps = 0 then .nan else .infinite (s != t)
  | .finite s m, .infinite t => if m.steps = 0 then .nan else .infinite (s != t)
  | .finite s m, .finite t n => ofSteps (s != t) (m.steps * n.steps) stepsPerUnit

/-- The quotient, rounded once. -/
protected def div : Binary64 → Binary64 → Binary64
  | .nan, _ => .nan
  | _, .nan => .nan
  | .infinite _, .infinite _ => .nan
  | .infinite s, .finite t _ => .infinite (s != t)
  | .finite s _, .infinite t => .finite (s != t) .zero
  | .finite s m, .finite t n =>
    if n.steps = 0 then (if m.steps = 0 then .nan else .infinite (s != t))
    else ofSteps (s != t) (m.steps * stepsPerUnit) n.steps

instance : Neg Binary64 := ⟨Binary64.neg⟩

instance : Add Binary64 := ⟨Binary64.add⟩

instance : Sub Binary64 := ⟨Binary64.sub⟩

instance : Mul Binary64 := ⟨Binary64.mul⟩

instance : Div Binary64 := ⟨Binary64.div⟩

/-! ## Small laws of the sign -/

theorem abs_neg (x : Binary64) : x.neg.abs = x.abs := by
  cases x <;> rfl

end Binary64

end WeatherTelegram
