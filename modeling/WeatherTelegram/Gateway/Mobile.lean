import WeatherTelegram.Text.Digit
import WeatherTelegram.Text.Substring

/-!
# `Gateway.Mobile` — the numbers of stations

A subscriber number is a digit from 1 to 9 and nine more digits. It comes bare, after a zero, or after
the code of the country with or without a plus, and perhaps amid other text; its one form is the code of
the country and the subscriber number.

## Contents
- `subscriberAt?`: the subscriber number at the front of a text.
- `mobileAt?`: the subscriber number at the front, with what may come before it.
- `mobileNumber?`: the number in a text, in its one form.
-/

namespace WeatherTelegram

/-- The code of the country. -/
def countryCode : Text := ['6', '3']

/-- How many digits follow the first digit of a subscriber number. -/
def subscriberTail : Nat := 9

/-- The subscriber number at the front of a text, as it is written: an ASCII digit from 1 to 9 and nine
    digits of any script. -/
def subscriberAt? (t : Text) : Option Text :=
  match t with
  | [] => none
  | c :: rest =>
    let tail := rest.take subscriberTail
    if '1' ≤ c ∧ c ≤ '9' ∧ tail.length = subscriberTail ∧ tail.all isDecimalDigit then some (c :: tail)
    else none

/-- What may come before a subscriber number, in the order in which it is tried. -/
def mobilePrefixes : List Text := ['+' :: countryCode, countryCode, ['0'], []]

/-- The subscriber number at the front of a text, after one of the things that may come before it. -/
def mobileAt? (t : Text) : Option Text :=
  mobilePrefixes.findSome? fun lead =>
    if Text.startsWith lead t then subscriberAt? (t.drop lead.length) else none

/-- The first subscriber number in a text. -/
def subscriberIn? : Text → Option Text
  | [] => none
  | c :: rest =>
    match mobileAt? (c :: rest) with
    | some number => some number
    | none => subscriberIn? rest

/-- The number in a text: the code of the country and the first subscriber number. -/
def mobileNumber? (t : Text) : Option Text := (subscriberIn? t).map (countryCode ++ ·)

end WeatherTelegram
