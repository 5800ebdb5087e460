import WeatherTelegram.Binary64.Arithmetic
import WeatherTelegram.Binary64.Decimal
import WeatherTelegram.Binary64.Written
import WeatherTelegram.Fault

/-!
# `Wire.Number` — the numbers of a telegram

Numbers travel as decimal literals and are kept in hundredths. A token that is no literal, whose value
does not fit single precision, or that carries the mark of a silent sensor reads as absent.

## Contents
- `Binary64.roundToHundredths`: halves away from zero, in double arithmetic.
- `silentMark`, `singleLimit`: the mark of a silent sensor and the widest value on the wire.
- `readNumber`, `readScaledNumber`, `readWhole`: tokens as numbers.
- `writeNumber`, `writeWhole`: numbers as tokens; absence is the empty token.
-/

namespace WeatherTelegram

/-! ## Rounding -/

/-- One half. -/
def half : Binary64 := Binary64.ofRatio false 1 2

/-- The value rounded to hundredths, halves away from zero, under its own sign. The hundredths are
    counted in double arithmetic and the count is divided exactly. -/
def Binary64.roundToHundredths (x : Binary64) : Except NonFinite Binary64 :=
  (x.abs * 100 + half).floor?.map fun count => (Binary64.ofIntRatio count 100).copySign x

/-! ## Reading -/

/-- What a station sends in place of the value of a silent sensor. -/
def silentMark : Binary64 := Binary64.ofRatio false 9999 10

/-- The widest single-precision value: 24 binary ones with 104 zeros after them. -/
def singleLimit : Binary64 := Binary64.ofInt 340282346638528859811704183484516925440

/-- Reads a token as a number in hundredths. With `keepsMark` the mark of a silent sensor counts as a
    value. -/
def readNumber (keepsMark : Bool) (token : Text) : Except NonFinite (Option Binary64) :=
  match DecimalLiteral.parse? token with
  | none => .ok none
  | some literal =>
    let value := literal.toBinary64
    if !value.isFinite || singleLimit.lt value.abs then .ok none
    else if !keepsMark && value.sameValue silentMark then .ok none
    else value.roundToHundredths.map some

/-- Reads a token as a number, multiplies it by a factor and rounds again. -/
def readScaledNumber (factor : Binary64) (keepsMark : Bool) (token : Text) :
    Except NonFinite (Option Binary64) := do
  match ← readNumber keepsMark token with
  | none => pure none
  | some value => (value * factor).roundToHundredths.map some

/-- Reads a token as a whole number of 32 bits; a token of more digits than the limit is a fault. -/
def readWhole (token : Text) : Except Fault (Option Int) :=
  let (negative, body) := takeSign token
  match digitsOf? body with
  | none => .ok none
  | some [] => .ok none
  | some digits =>
    if digitLimit < digits.length then .error (.digitsToRead digits.length)
    else
      let value : Int := if negative then -(valueOf digits : Int) else valueOf digits
      .ok (if -2147483648 ≤ value ∧ value ≤ 2147483647 then some value else none)

/-! ## Writing -/

/-- Writes a number with two decimal places. -/
def writeNumber : Option Binary64 → Except NonFinite Text
  | none => .ok []
  | some value => value.roundToHundredths.map (·.fixedText 2)

/-- Writes a whole number; one of more digits than the limit is a fault. -/
def writeWhole : Option Int → Except Fault Text
  | none => .ok []
  | some value =>
    if digitLimit < (Text.ofNat value.natAbs).length then .error .digitsToWrite
    else .ok (Text.ofInt value)

end WeatherTelegram
