import WeatherTelegram.Text.Digit
import WeatherTelegram.Text.Printable

/-!
# `Text.Quoted` — a text in quotes, for messages

A quoted text shows every character that prints as itself and escapes all others, so that no message
breaks a line or hides a character. The single quote is used unless the text holds single quotes and
no double quote.

## Contents
- `quoteFor`: the quote that a text is set in.
- `escaped`: one character between quotes.
- `Text.quoted`: the whole text in quotes.
-/

namespace WeatherTelegram

/-- The double quote if the text holds a single one and no double one, else the single quote. -/
def quoteFor (t : Text) : Char :=
  if '\x27' ∈ t ∧ '"' ∉ t then '"' else '\x27'

/-- Hexadecimal digits of a code point after an escape letter, filled up to a width. -/
def hexEscape (letter : Char) (width : Nat) (c : Char) : Text :=
  '\\' :: letter :: Text.zeroFilled width (Nat.toDigits 16 c.toNat)

/-- One character as it is shown between the quotes `quote`. -/
def escaped (quote c : Char) : Text :=
  if c = quote || c = '\\' then ['\\', c]
  else if c = '\n' then ['\\', 'n']
  else if c = '\r' then ['\\', 'r']
  else if c = '\t' then ['\\', 't']
  else if isPrintable c then [c]
  else if c.toNat < 0x100 then hexEscape 'x' 2 c
  else if c.toNat < 0x10000 then hexEscape 'u' 4 c
  else hexEscape 'U' 8 c

/-- The text in quotes, with the characters that do not print escaped. -/
def Text.quoted (t : Text) : Text :=
  quoteFor t :: t.flatMap (escaped (quoteFor t)) ++ [quoteFor t]

end WeatherTelegram
