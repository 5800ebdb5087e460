import WeatherTelegram.Text.Substring
import WeatherTelegram.Text.Utf8

/-!
# `Settings.Environment` — the variables of a process

A process is handed its variables as octets: each variable is `NAME=value` with a zero octet after it.

## Contents
- `octetEntries`: octets cut at each zero octet.
- `environmentOfOctets`: the variables with their values.
-/

namespace WeatherTelegram

/-- The octets between zero octets. -/
def octetEntries (octets : List UInt8) : List (List UInt8) := List.splitOn 0 octets

/-- A variable with its value, if the octets are text with a `=` after its name. -/
def variableOfOctets? (octets : List UInt8) : Option (Text × Text) :=
  match textOfOctets octets with
  | .ok t => Text.cut '=' t
  | .error _ => none

/-- The variables with their values; what is no variable is skipped. -/
def environmentOfOctets (octets : List UInt8) : List (Text × Text) :=
  (octetEntries octets).filterMap variableOfOctets?

end WeatherTelegram
