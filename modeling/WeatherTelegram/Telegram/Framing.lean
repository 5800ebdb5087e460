import WeatherTelegram.Fault
import WeatherTelegram.Telegram.Layout
import WeatherTelegram.Text.Substring

/-!
# `Telegram.Framing` — from message text to tokens

Messages pass through gateways that add `>` marks and write a plus as `%20`. Once these are undone, plus
signs part the tokens, and the first token is a marker that carries nothing.

## Contents
- `plusForSpaceCode`: every `%20` as a plus sign.
- `clean`: a message without the traces of gateways.
- `tokens`: the tokens after the leading marker.
- `Variant.ofTokenCount`, `Variant.ofMessage`: the layout for a number of tokens, and of a message.
-/

namespace WeatherTelegram

/-- The sign between tokens. -/
def delimiter : Char := '+'

/-- Writes a plus sign for every `%20`. -/
def plusForSpaceCode : Text → Text
  | '%' :: '2' :: '0' :: rest => delimiter :: plusForSpaceCode rest
  | c :: rest => c :: plusForSpaceCode rest
  | [] => []

/-- A message without `>` marks, with plus signs for `%20`, and trimmed. -/
def clean (raw : Text) : Text := (plusForSpaceCode (raw.filter (· != '>'))).trim

/-- The tokens of a cleaned message, without the leading marker. -/
def tokens (message : Text) : List Text := (List.splitOn delimiter message).drop 1

/-- The layout for a number of tokens; any other number is a fault. -/
def Variant.ofTokenCount (count : Int) : Except Fault Variant :=
  match Variant.ofNumber? count with
  | some v => .ok v
  | none => .error (.tokenCount count)

/-- The layout of a message. -/
def Variant.ofMessage (raw : Text) : Except Fault Variant :=
  Variant.ofTokenCount (tokens (clean raw)).length

end WeatherTelegram
