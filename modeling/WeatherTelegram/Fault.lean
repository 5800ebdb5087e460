import WeatherTelegram.Binary64.Basic
import WeatherTelegram.Text.Quoted

/-!
# `Fault` — what can go wrong with a telegram

## Contents
- `Fault`: the causes.
- `Fault.message`: the one wording of each cause.
-/

namespace WeatherTelegram

/-- Why a telegram cannot be read or written. -/
inductive Fault where
  /-- No layout has this many tokens. -/
  | tokenCount (count : Int)
  /-- No layout goes by this number. -/
  | variant (number : Int)
  /-- The text of a field would break the telegram apart. -/
  | reserved (field value : Text)
  /-- A slot of this name and kind holds no field. -/
  | noFieldValue (slot kind : Text)
  /-- A number has no hundredths to round to. -/
  | notFinite (cause : NonFinite)
  /-- A whole number is written with too many digits to be read. -/
  | digitsToRead (count : Nat)
  /-- A whole number has too many digits to be written. -/
  | digitsToWrite
  /-- A moment lies outside the years that the calendar covers, or the machine has no answer for a time
      without a zone. -/
  | calendarRange
  /-- The time of receipt names no zone. -/
  | receiptZone
  /-- The time of the telegram names no zone. -/
  | stampZone
deriving DecidableEq, Inhabited

namespace Fault

/-- The words on both kinds of digit limit. -/
def digitLimitText : Text :=
  Text.ofString "Exceeds the limit (" ++ Text.ofNat digitLimit ++
    Text.ofString " digits) for integer string conversion"

/-- The words on how to raise the digit limit. -/
def raiseLimitText : Text :=
  Text.ofString "; use sys.set_int_max_str_digits() to increase the limit"

/-- The message of a fault. -/
def message : Fault → Text
  | .tokenCount count =>
    Text.ofString "invalid string: expected 19, 20, 23 or 24 tokens, got " ++ Text.ofInt count
  | .variant number => Text.ofInt number ++ Text.ofString " is not a valid Variant"
  | .reserved field value =>
    Text.ofString "Field '" ++ field ++ Text.ofString "' cannot be encoded: " ++ value.quoted ++
      Text.ofString " contains a reserved sequence"
  | .noFieldValue slot kind =>
    Text.ofString "Slot '" ++ slot ++ Text.ofString "': " ++ kind ++
      Text.ofString " slots carry no field value"
  | .notFinite .nan => Text.ofString "cannot convert float NaN to integer"
  | .notFinite .infinite => Text.ofString "cannot convert float infinity to integer"
  | .digitsToRead count =>
    digitLimitText ++ Text.ofString ": value has " ++ Text.ofNat count ++ Text.ofString " digits" ++
      raiseLimitText
  | .digitsToWrite => digitLimitText ++ raiseLimitText
  | .calendarRange => Text.ofString "date value out of range"
  | .receiptZone => Text.ofString "now must be timezone-aware"
  | .stampZone => Text.ofString "can't subtract offset-naive and offset-aware datetimes"

end Fault

end WeatherTelegram
