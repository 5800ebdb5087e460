import WeatherTelegram.Text.Substring
import WeatherTelegram.Time.Instant

/-!
# `Time.Stamp` — the timestamps of telegrams

A station writes its own local time in one of two styles. The reader knows four forms, told apart by
the presence of a slash and by length alone; each reads fixed positions and lets any characters stand
between them.

## Contents
- `StampStyle`: the two written styles.
- `stampFields?`: the six numbers of a token, as texts, in the form that its length selects.
- `Instant.ofStamp?`: the reading of the stations' clock that a token denotes.
- `Instant.stampText?`: a moment in either style.
-/

namespace WeatherTelegram

/-- How a timestamp is written: parts joined by colons, or date and time joined by a slash. -/
inductive StampStyle where
  | colon
  | slash
deriving DecidableEq, Inhabited, Repr

/-! ## Reading -/

/-- Year, month, day, hour, minute and second of a timestamp as they are written. -/
structure StampFields where
  year : Text
  month : Text
  day : Text
  hour : Text
  minute : Text
  second : Text
deriving DecidableEq, Inhabited

/-- The century that two-digit years belong to. -/
def centuryText : Text := ['2', '0']

/-- The written fields of a trimmed token, if it has the length of one of the four forms: 17 characters
    or at least 19 without a slash, 13 or 15 with a slash between date and time. -/
def stampFields? (s : Text) : Option StampFields :=
  if '/' ∈ s then
    if s.length = 13 then
      if s[6]? = some '/' then
        some ⟨centuryText ++ s.slice 0 2, s.slice 2 4, s.slice 4 6, s.slice 7 9, s.slice 9 11,
          s.slice 11 13⟩
      else none
    else if s.length = 15 ∧ s[8]? = some '/' then
      some ⟨s.slice 0 4, s.slice 4 6, s.slice 6 8, s.slice 9 11, s.slice 11 13, s.slice 13 15⟩
    else none
  else if s.length = 17 then
    some ⟨centuryText ++ s.slice 0 2, s.slice 3 5, s.slice 6 8, s.slice 9 11, s.slice 12 14,
      s.slice 15 17⟩
  else if s.length < 19 then none
  else some ⟨s.slice 0 4, s.slice 5 7, s.slice 8 10, s.slice 11 13, s.slice 14 16, s.slice 17 19⟩

/-- The reading of the stations' clock with these fields: ASCII digits that make up a valid date and
    time. -/
def StampFields.toInstant? (f : StampFields) : Option Instant := do
  let year ← asciiNumber? f.year
  let month ← asciiNumber? f.month
  let day ← asciiNumber? f.day
  let hour ← asciiNumber? f.hour
  let minute ← asciiNumber? f.minute
  let second ← asciiNumber? f.second
  let date ← Date.of? year month day
  let time ← TimeOfDay.of? hour minute second 0
  pure ⟨⟨date, time⟩, .station⟩

namespace Instant

/-- The reading of the stations' clock that a token denotes. -/
def ofStamp? (token : Text) : Option Instant := (stampFields? token.trim).bind StampFields.toInstant?

/-! ## Writing -/

/-- A reading in one of the two styles; the year is not filled up with zeros. -/
def stampText (style : StampStyle) (t : Instant) : Text :=
  let date := t.localTime.date
  let time := t.localTime.time
  match style with
  | .colon =>
    Text.ofNat date.year ++ ':' :: Text.padded 2 date.month ++ ':' :: Text.padded 2 date.day ++
      ':' :: Text.padded 2 time.hour ++ ':' :: Text.padded 2 time.minute ++
      ':' :: Text.padded 2 time.second
  | .slash =>
    Text.ofNat date.year ++ Text.padded 2 date.month ++ Text.padded 2 date.day ++
      '/' :: Text.padded 2 time.hour ++ Text.padded 2 time.minute ++ Text.padded 2 time.second

/-- A moment as the stations' clock shows it, in one of the two styles. -/
def stampText? [HostZone] (style : StampStyle) (t : Instant) : Option Text :=
  t.toStation?.map (stampText style)

end Instant

end WeatherTelegram
