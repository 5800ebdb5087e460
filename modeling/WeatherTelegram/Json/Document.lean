import WeatherTelegram.Journal
import WeatherTelegram.Json.Written
import WeatherTelegram.Reading

/-!
# `Json.Document` — readings and reports as documents

## Contents
- `Observation.toJson`, `Health.toJson`, `Reading.toJson`: readings, with their fields in one order.
- `Event.toJson`, `Event.journalLine`: an event with its level and channel, and as a line of the journal.
-/

namespace WeatherTelegram

/-- The quantities in the order of a document. -/
def Quantity.documentOrder : List Quantity :=
  [pressure, rainRate, humidity, temperature, dewPoint, windDirection, windSpeed, gustSpeed, radiation,
   windChill]

/-- The document of a moment: its written form, with `Z` for universal time. -/
def Instant.toJson (t : Instant) : Json := .text t.zuluText

/-- The document of a value that may be absent. -/
def Binary64.optionToJson (x : Option Binary64) : Json := .ofOption .ofBinary64 x

/-- The document of an observation. -/
def Observation.toJson (o : Observation) : Json :=
  .object ((Quantity.documentOrder.map fun q => (q.name, Binary64.optionToJson (o.value q))) ++
    [(Text.ofString "timestamp", o.timestamp.toJson)])

/-- The field of a gauge. -/
def Health.gaugeField (h : Health) (g : Gauge) : Text × Json :=
  (g.name, Binary64.optionToJson (h.gauge g))

/-- The field of a code. -/
def Health.codeField (h : Health) (c : Code) : Text × Json := (c.name, .text (h.code c))

/-- The document of a health record. -/
def Health.toJson (h : Health) : Json :=
  .object
    ([.mainBattery, .backupBattery, .current, .firstBarometer, .secondBarometer].map h.gaugeField ++
    [h.codeField .modem, (Text.ofString "ss", .ofOption .ofInt h.signal),
     h.gaugeField .temperatureAccuracy, h.gaugeField .humidityAccuracy, h.codeField .firmware,
     (Text.ofString "error_msg", .text h.errorMessage), (Text.ofString "message", .text h.message),
     (Text.ofString "data_count", .ofInt h.presentCount),
     (Text.ofString "data_status", .text h.presence),
     (Text.ofString "timestamp", h.timestamp.toJson),
     (Text.ofString "minutes_difference", .ofInt h.minutesDifference)])

/-- The document of a reading. -/
def Reading.toJson (r : Reading) : Json :=
  .object [(Text.ofString "observation", r.observation.toJson),
    (Text.ofString "health", r.health.toJson)]

/-- The fields of an event. -/
def Event.fields (e : Event) : List (Text × Json) :=
  [(Text.ofString "level", .text e.level.label), (Text.ofString "logger", .text e.channel.label),
    (Text.ofString "msg", .text e.text)]

/-- The document of an event. -/
def Event.toJson (e : Event) : Json := .object e.fields

/-- The line of the journal for an event at a time. -/
def Event.journalLine (e : Event) (now : Instant) : Text :=
  (Json.object ((Text.ofString "ts", .text now.isoText) :: e.fields)).line

end WeatherTelegram
