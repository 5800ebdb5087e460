import WeatherTelegram.Binary64.Basic
import WeatherTelegram.Text.Blank
import WeatherTelegram.Time.Instant

/-!
# `Reading` — what a station measures and reports about itself

A reading pairs an observation of the weather with the health of the device that made it. Every number
may be absent, which differs from a measured zero.

## Contents
- `Quantity`, `Gauge`, `Code`: the fields by kind, each with its name on the wire.
- `Observation`, `Health`, `Reading`: the records, as functions of their fields.
- `Observation.withValue`, `Health.withGauge`, `Health.withCode`: one field replaced.
- `Observation.presence`, `Observation.presentCount`: how complete an observation is.
-/

namespace WeatherTelegram

/-! ## Fields -/

/-- What a station measures of the weather. -/
inductive Quantity where
  | temperature
  | humidity
  | pressure
  | windSpeed
  | gustSpeed
  | windDirection
  | radiation
  | dewPoint
  | windChill
  | rainRate
deriving DecidableEq, Inhabited, Repr

/-- What a station measures of itself. -/
inductive Gauge where
  | mainBattery
  | backupBattery
  | current
  | firstBarometer
  | secondBarometer
  | temperatureAccuracy
  | humidityAccuracy
deriving DecidableEq, Inhabited, Repr

/-- The texts by which a station names its parts. -/
inductive Code where
  | modem
  | firmware
deriving DecidableEq, Inhabited, Repr

namespace Quantity

/-- All quantities, in the order in which completeness is scored. -/
def all : List Quantity :=
  [temperature, humidity, pressure, windSpeed, gustSpeed, windDirection, radiation, dewPoint, windChill,
   rainRate]

theorem mem_all (q : Quantity) : q ∈ all := by cases q <;> decide

/-- The short name of a quantity. -/
def name : Quantity → Text
  | temperature => ['t', 'e', 'm', 'p']
  | humidity => ['r', 'h']
  | pressure => ['p', 'r', 'e', 's']
  | windSpeed => ['w', 's', 'p', 'd']
  | gustSpeed => ['w', 's', 'p', 'd', 'x']
  | windDirection => ['w', 'd', 'i', 'r']
  | radiation => ['s', 'r', 'a', 'd']
  | dewPoint => ['t', 'd']
  | windChill => ['w', 'c', 'h', 'i', 'l', 'l']
  | rainRate => ['r', 'r']

/-- The quantity of a short name. -/
def ofName? (t : Text) : Option Quantity := all.find? (·.name == t)

end Quantity

namespace Gauge

/-- All gauges. -/
def all : List Gauge :=
  [mainBattery, backupBattery, current, firstBarometer, secondBarometer, temperatureAccuracy,
   humidityAccuracy]

theorem mem_all (g : Gauge) : g ∈ all := by cases g <;> decide

/-- The short name of a gauge. -/
def name : Gauge → Text
  | mainBattery => ['v', 'b', '1']
  | backupBattery => ['v', 'b', '2']
  | current => ['c', 'u', 'r', 'r']
  | firstBarometer => ['b', 'p', '1']
  | secondBarometer => ['b', 'p', '2']
  | temperatureAccuracy => ['t', 'e', 'm', 'p', '_', 'a', 'r', 'q']
  | humidityAccuracy => ['r', 'h', '_', 'a', 'r', 'q']

/-- The gauge of a short name. -/
def ofName? (t : Text) : Option Gauge := all.find? (·.name == t)

end Gauge

namespace Code

/-- All codes. -/
def all : List Code := [modem, firmware]

/-- The short name of a code. -/
def name : Code → Text
  | modem => ['c', 'm']
  | firmware => ['f', 'p', 'm']

/-- The code of a short name. -/
def ofName? (t : Text) : Option Code := all.find? (·.name == t)

end Code

/-! ## Records -/

/-- One observation of the weather: the measured values and the time they hold for. -/
structure Observation where
  value : Quantity → Option Binary64
  timestamp : Instant

/-- The state of the device: its gauges, codes and signal strength, and how its telegram was read. -/
structure Health where
  gauge : Gauge → Option Binary64
  code : Code → Text
  signal : Option Int
  errorMessage : Text
  message : Text
  presentCount : Int
  presence : Text
  timestamp : Instant
  minutesDifference : Int

/-- An observation and the health of the device that made it. -/
structure Reading where
  observation : Observation
  health : Health

namespace Observation

/-- The observation with one value replaced. -/
def withValue (o : Observation) (q : Quantity) (v : Option Binary64) : Observation :=
  { o with value := fun p => if p = q then v else o.value p }

@[simp] theorem value_withValue (o : Observation) (p q : Quantity) (v : Option Binary64) :
    (o.withValue q v).value p = if p = q then v else o.value p := rfl

/-- One mark per quantity in order: `1` where a value is present and `0` where it is absent. -/
def presence (o : Observation) : Text :=
  Quantity.all.map fun q => if (o.value q).isSome then '1' else '0'

/-- How many values are present. -/
def presentCount (o : Observation) : Nat := Quantity.all.countP fun q => (o.value q).isSome

theorem length_presence (o : Observation) : o.presence.length = 10 := rfl

end Observation

namespace Health

/-- The health record of a device that reports nothing, at a given time. -/
def blank (timestamp : Instant) : Health :=
  ⟨fun _ => none, fun _ => [], none, [], [], 0, [], timestamp, 0⟩

/-- The health record with one gauge replaced. -/
def withGauge (h : Health) (g : Gauge) (v : Option Binary64) : Health :=
  { h with gauge := fun f => if f = g then v else h.gauge f }

/-- The health record with one code replaced. -/
def withCode (h : Health) (c : Code) (t : Text) : Health :=
  { h with code := fun d => if d = c then t else h.code d }

end Health

end WeatherTelegram
