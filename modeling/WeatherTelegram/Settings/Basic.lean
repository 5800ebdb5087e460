import WeatherTelegram.Binary64.Arithmetic
import WeatherTelegram.Telegram.Layout
import WeatherTelegram.Text.Substring

/-!
# `Settings.Basic` — how simulated traffic is sent

## Contents
- `Settings`: where to, from which stations, in which layout, how often and how patiently.
- `Settings.numbers`: the numbers of the stations.
- `Setting`: the settings by name; `Given`: a value as it is given for one of them.
- `SettingFault`: why a given value is not accepted, with its code and its message.
-/

namespace WeatherTelegram

/-! ## Settings -/

/-- The settings of simulated traffic. -/
structure Settings where
  baseUrl : Text
  stationNumbers : Text
  variant : Variant
  requestCount : Nat
  timeout : Binary64

/-- The numbers of the stations. -/
def Settings.numbers (s : Settings) : List Text := listEntries s.stationNumbers

/-- The settings by name. -/
inductive Setting where
  | baseUrl
  | stationNumbers
  | variant
  | requestCount
  | timeout
deriving DecidableEq, Inhabited, Repr

namespace Setting

/-- All settings, in the order in which they are checked. -/
def all : List Setting := [baseUrl, stationNumbers, variant, requestCount, timeout]

/-- The name of a setting. -/
def name : Setting → Text
  | baseUrl => Text.ofString "gateway_base_url"
  | stationNumbers => Text.ofString "station_numbers"
  | variant => Text.ofString "telegram_variant"
  | requestCount => Text.ofString "request_count"
  | timeout => Text.ofString "request_timeout_s"

/-- Whether a name is that of a setting. -/
def isName (t : Text) : Bool := all.any (·.name == t)

end Setting

/-! ## Given values -/

/-- A value as it is given for a setting; one that is neither text nor number nor flag is of no use. -/
inductive Given where
  | text (text : Text)
  | whole (number : Int)
  | real (number : Binary64)
  | flag (flag : Bool)
  | other
deriving DecidableEq

/-- The value that a setting has unless another is given. -/
def Setting.default : Setting → Given
  | baseUrl => .text (Text.ofString "http://localhost:8000")
  | stationNumbers => .text (Text.ofString "639171234567")
  | variant => .whole 23
  | requestCount => .whole 100
  | timeout => .real (Binary64.ofInt 10)

/-! ## Faults -/

/-- Why a value that is given for a setting is not accepted. -/
inductive SettingFault where
  | notText
  | notWhole
  | notWholeForm
  | tooManyDigits
  | withFraction
  | notFinite
  | notReal
  | notRealForm
  | unknownName
  | scheme (given : Text)
  | noStation
  | variant
  | requestCount
  | timeout
deriving DecidableEq, Inhabited

namespace SettingFault

/-- The code of a fault. -/
def code : SettingFault → Text
  | notText => Text.ofString "string_type"
  | notWhole => Text.ofString "int_type"
  | notWholeForm => Text.ofString "int_parsing"
  | tooManyDigits => Text.ofString "int_parsing_size"
  | withFraction => Text.ofString "int_from_float"
  | notFinite => Text.ofString "finite_number"
  | notReal => Text.ofString "float_type"
  | notRealForm => Text.ofString "float_parsing"
  | unknownName => Text.ofString "extra_forbidden"
  | scheme _ | noStation | variant | requestCount | timeout => Text.ofString "value_error"

/-- The message of a value of the right form that is out of bounds. -/
def bounds (message : Text) : Text := Text.ofString "Value error, " ++ message

/-- The message of a fault. -/
def message : SettingFault → Text
  | notText => Text.ofString "Input should be a valid string"
  | notWhole => Text.ofString "Input should be a valid integer"
  | notWholeForm =>
    Text.ofString "Input should be a valid integer, unable to parse string as an integer"
  | tooManyDigits =>
    Text.ofString "Unable to parse input string as an integer, exceeded maximum size"
  | withFraction =>
    Text.ofString "Input should be a valid integer, got a number with a fractional part"
  | notFinite => Text.ofString "Input should be a finite number"
  | notReal => Text.ofString "Input should be a valid number"
  | notRealForm =>
    Text.ofString "Input should be a valid number, unable to parse string as a number"
  | unknownName => Text.ofString "Extra inputs are not permitted"
  | scheme given =>
    bounds (Text.ofString "GATEWAY_BASE_URL must start with http:// or https:// (got: '" ++
      given.take 20 ++ Text.ofString "')")
  | noStation => bounds (Text.ofString "STATION_NUMBERS must list at least one number")
  | variant => bounds (Text.ofString "TELEGRAM_VARIANT must be one of 19, 20, 23, 24")
  | requestCount => bounds (Text.ofString "REQUEST_COUNT must be >= 1 and <= 10000")
  | timeout => bounds (Text.ofString "REQUEST_TIMEOUT_S must be > 0")

end SettingFault

end WeatherTelegram
