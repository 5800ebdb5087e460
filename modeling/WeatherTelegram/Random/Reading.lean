import WeatherTelegram.Random.Source
import WeatherTelegram.Reading

/-!
# `Random.Reading` — plausible readings by chance

A random reading has every value of every field, in hundredths and within the span that deployed
stations report, so nothing of it is lost on the wire.

## Contents
- `Span`, `Span.pick`: an interval, and the value in it that a unit number picks.
- `Quantity.span`, `Gauge.span`: the spans of the fields.
- `drawValues`, `drawCode`: values and letters drawn in order.
- `randomReading`: a whole reading, stamped with a time on the stations' clock.
-/

namespace WeatherTelegram

/-! ## Values in a span -/

/-- The nearest double to the exact value in hundredths, ties to even. -/
def Binary64.toHundredths : Binary64 → Binary64
  | .finite s m => .ofRatio s (roundHalfEven (m.steps * 100) stepsPerUnit) 100
  | x => x

/-- An interval with whole ends. -/
structure Span where
  low : Int
  high : Int
deriving DecidableEq, Inhabited, Repr

/-- The value in hundredths at the part `u` of a span. -/
def Span.pick (s : Span) (u : Binary64) : Binary64 :=
  let low := Binary64.ofInt s.low
  (low + (Binary64.ofInt s.high - low) * u).toHundredths

/-- The span of a quantity. -/
def Quantity.span : Quantity → Span
  | temperature => ⟨20, 37⟩
  | humidity => ⟨0, 100⟩
  | pressure => ⟨990, 1100⟩
  | windSpeed => ⟨20, 35⟩
  | gustSpeed => ⟨35, 50⟩
  | windDirection => ⟨0, 359⟩
  | radiation => ⟨0, 990⟩
  | dewPoint => ⟨15, 40⟩
  | windChill => ⟨20, 35⟩
  | rainRate => ⟨0, 100⟩

/-- The span of a gauge. -/
def Gauge.span : Gauge → Span
  | mainBattery => ⟨0, 20⟩
  | backupBattery => ⟨0, 20⟩
  | current => ⟨0, 1⟩
  | firstBarometer => ⟨0, 30⟩
  | secondBarometer => ⟨0, 30⟩
  | temperatureAccuracy => ⟨20, 35⟩
  | humidityAccuracy => ⟨0, 100⟩

/-! ## Drawing -/

/-- One value for each key of a list, drawn in its order; other keys have none. -/
def drawValues {κ σ : Type} [DecidableEq κ] [RandomSource σ] (span : κ → Span) :
    List κ → σ → (κ → Option Binary64) × σ
  | [], s => (fun _ => none, s)
  | k :: keys, s =>
    let (u, s) := RandomSource.unit s
    let (rest, s) := drawValues span keys s
    (fun j => if j = k then some ((span k).pick u) else rest j, s)

/-- The letters of a code. -/
def letters : Text := Text.ofString "abcdefghijklmnopqrstuvwxyzABCDEFGHIJKLMNOPQRSTUVWXYZ"

/-- The letter at the part `u` of the letters. -/
def letterAt (u : Binary64) : Char :=
  match (u * Binary64.ofInt letters.length).floor? with
  | .ok k => letters.getD k.toNat 'a'
  | .error _ => 'a'

/-- A code of a number of letters. -/
def drawCode {σ : Type} [RandomSource σ] : Nat → σ → Text × σ
  | 0, s => ([], s)
  | count + 1, s =>
    let (u, s) := RandomSource.unit s
    let (rest, s) := drawCode count s
    (letterAt u :: rest, s)

/-- How many letters a code has. -/
def codeLength : Nat := 6

/-- A random reading for a time on the stations' clock, of which the whole second is kept. -/
def readingAt {σ : Type} [RandomSource σ] (timestamp : Instant) (s : σ) : Reading × σ :=
  let (values, s) := drawValues Quantity.span Quantity.all s
  let (gauges, s) := drawValues Gauge.span Gauge.all s
  let (modem, s) := drawCode codeLength s
  let (firmware, s) := drawCode codeLength s
  let (signal, s) := RandomSource.percent s
  (⟨⟨values, timestamp⟩,
    { Health.blank timestamp with
      gauge := gauges
      code := fun c => match c with
        | .modem => modem
        | .firmware => firmware
      signal := some (signal : Int) }⟩, s)

/-- A random reading for a moment, which has to lie in the years of the stations' clock. -/
def randomReading [HostZone] {σ : Type} [RandomSource σ] (now : Instant) (s : σ) :
    Option (Reading × σ) :=
  now.toStation?.map fun timestamp => readingAt timestamp.wholeSecond s

end WeatherTelegram
