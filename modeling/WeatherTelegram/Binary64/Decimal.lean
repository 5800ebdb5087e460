import WeatherTelegram.Binary64.Basic
import WeatherTelegram.Text.Digit
import WeatherTelegram.Text.Substring

/-!
# `Binary64.Decimal` — decimal literals and the doubles nearest to them

## Contents
- `DecimalLiteral`: the parts of a literal, and `DecimalLiteral.parse?`, its grammar: an optional sign,
  digits with at most one point and at least one digit, and an optional exponent.
- `Magnitude.nearestDecimal?`: the magnitude nearest to `digits * 10 ^ exponent`.
- `Magnitude.ofDecimal?`: the same for digits in a list and exponents of any size.
- `DecimalLiteral.toBinary64`: the double nearest to what the literal denotes.
- `Binary64.ofText?`: free-form number texts, with blanks, grouped digits, infinities and not-a-number.
-/

namespace WeatherTelegram

-- Powers of natural numbers are those of `Nat`, whatever algebra is loaded besides.
attribute [local instance (1100)] instPowNat

/-! ## The grammar -/

/-- A decimal literal: sign, digits before and after the point, and the power of ten. -/
structure DecimalLiteral where
  negative : Bool
  whole : List Nat
  fraction : List Nat
  exponent : Int
deriving DecidableEq, Inhabited, Repr

namespace DecimalLiteral

/-- Takes a point and the digits after it off the front. -/
def takeFraction : Text → List Nat × Text
  | '.' :: rest => takeDigits rest
  | rest => ([], rest)

/-- The exponent that ends a literal; no text at all is the exponent zero. -/
def exponentOf? : Text → Option Int
  | [] => some 0
  | c :: rest =>
    if c = 'e' ∨ c = 'E' then
      match takeDigits (takeSign rest).2 with
      | ([], _) => none
      | (digits, []) =>
        some (if (takeSign rest).1 then -(valueOf digits : Int) else valueOf digits)
      | (_, _ :: _) => none
    else none

/-- Reads a whole text as a decimal literal. -/
def parse? (t : Text) : Option DecimalLiteral :=
  let (negative, unsigned) := takeSign t
  let (whole, afterWhole) := takeDigits unsigned
  let (fraction, afterFraction) := takeFraction afterWhole
  if whole.isEmpty && fraction.isEmpty then none
  else (exponentOf? afterFraction).map fun exponent => ⟨negative, whole, fraction, exponent⟩

end DecimalLiteral

/-! ## The nearest double -/

/-- The magnitude nearest to `digits * 10 ^ exponent`; `none` when it lies beyond the largest finite
    magnitude. -/
def Magnitude.nearestDecimal? (digits : Nat) (exponent : Int) : Option Magnitude :=
  if 0 ≤ exponent then Magnitude.nearest? (digits * 10 ^ exponent.toNat * stepsPerUnit) 1
  else Magnitude.nearest? (digits * stepsPerUnit) (10 ^ (-exponent).toNat)

/-- The magnitude nearest to the number `digits * 10 ^ exponent`, where the digits come without leading
    zeros; `none` when it lies beyond the largest finite magnitude. Numbers of `10 ^ 309` or more lie
    beyond it and numbers below `10 ^ (-324)` round to zero, so no larger power of ten is computed. -/
def Magnitude.ofDecimal? (digits : List Nat) (exponent : Int) : Option Magnitude :=
  if digits.isEmpty then some .zero
  else if 309 < digits.length + exponent then none
  else if digits.length + exponent < -323 then some .zero
  else Magnitude.nearestDecimal? (valueOf digits) exponent

/-- The double nearest to what a literal denotes. -/
def DecimalLiteral.toBinary64 (l : DecimalLiteral) : Binary64 :=
  match Magnitude.ofDecimal? ((l.whole ++ l.fraction).dropWhile (· == 0))
      (l.exponent - l.fraction.length) with
  | some m => .finite l.negative m
  | none => .infinite l.negative

/-! ## Free-form texts -/

/-- Drops the underscores of a text in which each of them stands between two digits. -/
def ungrouped? : Option Char → Text → Option Text
  | _, [] => some []
  | before, '_' :: rest =>
    match before, rest with
    | some b, c :: _ =>
      if isDecimalDigit b && isDecimalDigit c then ungrouped? (some '_') rest else none
    | _, _ => none
  | _, c :: rest => (ungrouped? (some c) rest).map (c :: ·)

namespace Binary64

/-- The value of the spellings that are no literals: infinities and not-a-number, in any case. -/
def ofWord? (t : Text) : Option Binary64 :=
  let (negative, word) := takeSign t
  let word := Text.asciiLower word
  if word = Text.ofString "inf" ∨ word = Text.ofString "infinity" then some (.infinite negative)
  else if word = Text.ofString "nan" then some .nan
  else none

/-- Reads a free-form number: blanks around it, grouped digits, a literal or a word. -/
def ofText? (t : Text) : Option Binary64 :=
  match ungrouped? none t.numberBody with
  | none => none
  | some body =>
    match DecimalLiteral.parse? body with
    | some l => some l.toBinary64
    | none => ofWord? body

end Binary64

end WeatherTelegram
