import WeatherTelegram.Binary64.Arithmetic
import WeatherTelegram.Binary64.Basic
import WeatherTelegram.Binary64.Decimal
import WeatherTelegram.Binary64.Shortest
import WeatherTelegram.Binary64.Written
import WeatherTelegram.Command.Line
import WeatherTelegram.Command.Run
import WeatherTelegram.Command.Word
import WeatherTelegram.Csv
import WeatherTelegram.Delivery.Effect
import WeatherTelegram.Delivery.Replay
import WeatherTelegram.Delivery.Sender
import WeatherTelegram.Delivery.Simulation
import WeatherTelegram.Delivery.Transport
import WeatherTelegram.Fault
import WeatherTelegram.Gateway.Mobile
import WeatherTelegram.Gateway.Route
import WeatherTelegram.Gateway.Submission
import WeatherTelegram.Gateway.Webhook
import WeatherTelegram.Journal
import WeatherTelegram.Json.Basic
import WeatherTelegram.Json.Document
import WeatherTelegram.Json.Parsed
import WeatherTelegram.Json.Written
import WeatherTelegram.Main
import WeatherTelegram.Random.Reading
import WeatherTelegram.Random.Source
import WeatherTelegram.Random.Twister
import WeatherTelegram.Reading
import WeatherTelegram.RunFault
import WeatherTelegram.Settings.Basic
import WeatherTelegram.Settings.EnvFile
import WeatherTelegram.Settings.Environment
import WeatherTelegram.Settings.Load
import WeatherTelegram.Telegram.Decode
import WeatherTelegram.Telegram.Encode
import WeatherTelegram.Telegram.Framing
import WeatherTelegram.Telegram.Layout
import WeatherTelegram.Text.Blank
import WeatherTelegram.Text.Digit
import WeatherTelegram.Text.Printable
import WeatherTelegram.Text.Quoted
import WeatherTelegram.Text.Substring
import WeatherTelegram.Text.Utf8
import WeatherTelegram.Time.Calendar
import WeatherTelegram.Time.Instant
import WeatherTelegram.Time.Iso
import WeatherTelegram.Time.Plausibility
import WeatherTelegram.Time.Stamp
import WeatherTelegram.Traced
import WeatherTelegram.Wire.Number
import WeatherTelegram.Proofs.Binary64.Rounding
import WeatherTelegram.Proofs.Binary64.Value
import WeatherTelegram.Proofs.Binary64.Canonical
import WeatherTelegram.Proofs.Binary64.Nearest
import WeatherTelegram.Proofs.Wire.Hundredths
import WeatherTelegram.Proofs.Text.Digit
import WeatherTelegram.Proofs.Binary64.Literal
import WeatherTelegram.Proofs.Binary64.Shortest
import WeatherTelegram.Proofs.Binary64.Written
import WeatherTelegram.Proofs.Wire.Token
import WeatherTelegram.Proofs.Wire.Whole
import WeatherTelegram.Proofs.Wire.Unit
import WeatherTelegram.Proofs.Wire.Written
import WeatherTelegram.Proofs.Wire.Accuracy
import WeatherTelegram.Proofs.Wire.Grid
import WeatherTelegram.Proofs.Wire.Order
import WeatherTelegram.Proofs.Wire.Single
import WeatherTelegram.Proofs.Telegram.Framing
import WeatherTelegram.Proofs.Time.Moment
import WeatherTelegram.Proofs.Time.Stamp
import WeatherTelegram.Proofs.Time.Iso
import WeatherTelegram.Proofs.Time.Form
import WeatherTelegram.Proofs.Time.Calendar
import WeatherTelegram.Proofs.Time.ReadBack
import WeatherTelegram.Proofs.Time.Plausibility
import WeatherTelegram.Proofs.Time.Window
import WeatherTelegram.Proofs.Telegram.Fields
import WeatherTelegram.Proofs.Telegram.Decode
import WeatherTelegram.Proofs.Telegram.Encode
import WeatherTelegram.Proofs.Telegram.Slot
import WeatherTelegram.Proofs.Telegram.Refusal
import WeatherTelegram.Proofs.Telegram.RoundTrip
import WeatherTelegram.Proofs.Telegram.Relay
import WeatherTelegram.Proofs.Telegram.Forward
import WeatherTelegram.Proofs.Telegram.Agreement
import WeatherTelegram.Proofs.Telegram.Position
import WeatherTelegram.Proofs.Telegram.Presence
import WeatherTelegram.Proofs.Telegram.Silence
import WeatherTelegram.Proofs.Telegram.Range
import WeatherTelegram.Proofs.Telegram.Invariant
import WeatherTelegram.Proofs.Time.Difference
import WeatherTelegram.Proofs.Telegram.Isolation
import WeatherTelegram.Proofs.Random.Source
import WeatherTelegram.Proofs.Random.Reading
import WeatherTelegram.Proofs.Telegram.Drawn
import WeatherTelegram.Proofs.Json.Document
import WeatherTelegram.Proofs.Gateway.Traffic
import WeatherTelegram.Proofs.Gateway.Mobile
import WeatherTelegram.Proofs.Gateway.Outcome
import WeatherTelegram.Proofs.Gateway.StationKey
import WeatherTelegram.Proofs.Settings.Load
import WeatherTelegram.Proofs.Settings.Bounds
import WeatherTelegram.Proofs.Delivery.Sender
import WeatherTelegram.Proofs.Delivery.Replay
import WeatherTelegram.Proofs.Delivery.Simulation
import WeatherTelegram.Proofs.Delivery.Failure
