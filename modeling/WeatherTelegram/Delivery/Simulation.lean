import WeatherTelegram.Delivery.Sender
import WeatherTelegram.Random.Reading
import WeatherTelegram.RunFault
import WeatherTelegram.Telegram.Encode

/-!
# `Delivery.Simulation` — random telegrams to the gateway

A simulation posts the telegrams of random readings, each stamped with the time at which it is made, and
takes the stations in turn.

## Contents
- `Settings.station`: the station whose turn it is.
- `simulateFrom`: the requests that are left.
- `simulate`: a whole simulation, with its reports.
-/

namespace WeatherTelegram

/-- The station whose turn it is after so many requests. -/
def Settings.station (s : Settings) (i : Nat) : Text := s.numbers.getD (i % s.numbers.length) []

/-- The telegram of a random reading for a moment, and the random source after it. -/
def randomTelegram [HostZone] {σ : Type} [RandomSource σ] (variant : Variant) (now : Instant)
    (source : σ) : Except Fault (Text × σ) :=
  match randomReading now source with
  | none => .error .calendarRange
  | some (reading, source) => (encodeAs reading variant).map fun telegram => (telegram, source)

/-- Makes the `left` requests after the first `i`, the `i`-th at the time `clock i`. -/
def simulateFrom [HostZone] {σ : Type} [RandomSource σ] (settings : Settings) (sender : Sender)
    (clock : Nat → Instant) :
    Nat → Nat → σ → Replies → Tally → Traced Effect RunFault Tally
  | 0, _, _, _, tally => pure tally
  | left + 1, i, source, replies, tally => do
    let (telegram, source) ←
      (Traced.ofExcept (randomTelegram settings.variant (clock i) source)).mapError .telegram
    let taken ← (sender.deliver replies.head (settings.station i) telegram).mapError .delivery
    simulateFrom settings sender clock left (i + 1) source replies.tail (tally.after (.ok taken))

/-- Posts as many random telegrams as the settings ask for. -/
def simulate [HostZone] {σ : Type} [RandomSource σ] (settings : Settings) (sender : Sender)
    (clock : Nat → Instant) (source : σ) (replies : Replies) : Traced Effect RunFault Tally := do
  Traced.report (.simulationStarted settings.requestCount settings.variant.size sender.url
    settings.numbers.length)
  let tally ← simulateFrom settings sender clock settings.requestCount 0 source replies .zero
  Traced.report (.simulationDone tally.sent tally.failed)
  pure tally

end WeatherTelegram
