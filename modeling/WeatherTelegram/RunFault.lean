import WeatherTelegram.Csv
import WeatherTelegram.Delivery.Transport
import WeatherTelegram.Fault
import WeatherTelegram.Settings.Basic
import WeatherTelegram.Settings.Load
import WeatherTelegram.Text.Utf8
import WeatherTelegram.Time.Iso

/-!
# `RunFault` — what ends a run of the program

## Contents
- `RunFault`: the causes, each with what is known about it.
- `RunFault.message`: the one wording of each.
-/

namespace WeatherTelegram

/-- Why a run of the program ends before its time. -/
inductive RunFault where
  /-- Settings were refused. -/
  | settings (problems : List SettingProblem)
  /-- A telegram could not be read or written. -/
  | telegram (fault : Fault)
  /-- A time was not understood. -/
  | time (error : IsoError)
  /-- A request failed in a way that is not absorbed. -/
  | delivery (failure : Failure)
  /-- A file holds octets that are no text. -/
  | octets (fault : OctetFault)
  /-- A table has a field that is too long. -/
  | table (fault : FieldTooLong)
  /-- A path holds a character that no path can hold. -/
  | path

/-- A problem with a setting, by its name. -/
def SettingProblem.message (p : SettingProblem) : Text :=
  p.name ++ ':' :: ' ' :: p.fault.message

/-- The message of a fault. -/
def RunFault.message : RunFault → Text
  | .settings problems => List.intercalate ['\n'] (problems.map SettingProblem.message)
  | .telegram fault => fault.message
  | .time error => error.message
  | .delivery failure => failure.message
  | .octets fault => fault.message
  | .table fault => fault.message
  | .path => Text.ofString "embedded null byte"

end WeatherTelegram
