import WeatherTelegram.Binary64.Decimal

/-!
# `Binary64.Shortest` — the fewest decimal digits that read back

For each number of digits from one to seventeen the two decimals next to the value are tried; the first
count at which one of them reads back to the same magnitude wins. Of two that read back the nearer is
taken, and of two equally near ones the even one.

## Contents
- `decimalLength`: how many decimal digits a natural number has.
- `Magnitude.leadingExponent`: the power of ten of the first significant digit.
- `Magnitude.readsBack`, `Magnitude.shortestAt?`, `Magnitude.shortest`: the search.
-/

namespace WeatherTelegram

-- Powers of natural numbers are those of `Nat`, whatever algebra is loaded besides.
attribute [local instance (1100)] instPowNat

/-- How many decimal digits a natural number is written with. -/
def decimalLength (n : Nat) : Nat := (Nat.toDigits 10 n).length

namespace Magnitude

/-- The power of ten of the first significant digit of a nonzero magnitude. -/
def leadingExponent (m : Magnitude) : Int :=
  if stepsPerUnit ≤ m.steps then (decimalLength (m.steps / stepsPerUnit) : Int) - 1
  else -(decimalLength ((stepsPerUnit - 1) / m.steps) : Int)

/-- The quotient of the magnitude by a power of ten, as numerator and denominator. -/
def scaledBy (m : Magnitude) (exponent : Int) : Nat × Nat :=
  if 0 ≤ exponent then (m.steps, stepsPerUnit * 10 ^ exponent.toNat)
  else (m.steps * 10 ^ (-exponent).toNat, stepsPerUnit)

/-- Whether `digits * 10 ^ exponent` reads back as the magnitude. -/
def readsBack (m : Magnitude) (digits : Nat) (exponent : Int) : Bool :=
  nearestDecimal? digits exponent == some m

/-- The decimal of `count` digits that reads back, if one does. -/
def shortestAt? (m : Magnitude) (count : Nat) : Option (Nat × Int) :=
  let exponent := m.leadingExponent + 1 - count
  let (num, den) := m.scaledBy exponent
  let lower := num / den
  match m.readsBack lower exponent, m.readsBack (lower + 1) exponent with
  | true, true => some (roundHalfEven num den, exponent)
  | true, false => some (lower, exponent)
  | false, true => some (lower + 1, exponent)
  | false, false => none

/-- The decimal with the fewest digits that reads back, as digits and power of ten; seventeen digits
    always do. -/
def shortest (m : Magnitude) : Nat × Int :=
  match (List.range 17).findSome? fun i => m.shortestAt? (i + 1) with
  | some decimal => decimal
  | none =>
    let exponent := m.leadingExponent - 16
    let (num, den) := m.scaledBy exponent
    (roundHalfEven num den, exponent)

end Magnitude

end WeatherTelegram
