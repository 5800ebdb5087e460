import WeatherTelegram.Text.Digit
import WeatherTelegram.Time.Calendar

/-!
# `Time.Instant` — clock readings, their zones and the moments they denote

A clock reading is a date, a time of day to the microsecond and the zone of the clock. Readings with
zones denote moments, in whole microseconds of universal time; a reading without one is understood by the
zone of the machine, which is no part of the program.

## Contents
- `TimeOfDay`, `LocalTime`: a time of day, and a date with a time of day.
- `LocalTime.microseconds`, `LocalTime.ofMicroseconds?`: the count since the start of year 1 and back.
- `Zone`, `Instant`: the clock of the stations, a clock with a fixed offset, one that is set forward and
  back, a clock without a zone.
- `HostZone`: the zone of the machine.
- `Instant.moment?`, `Instant.since?`: the moment of a reading, and the time from one reading to another.
- `Instant.stationAt?`, `Instant.toStation?`: the same moment on the stations' clock.
- `Instant.ofEpoch?`: the moment some time after the start of 1970.
- `Instant.isoText`, `Instant.zuluText`: the written forms.
-/

namespace WeatherTelegram

/-! ## Times -/

/-- A time of day, to the microsecond. -/
structure TimeOfDay where
  hour : Nat
  minute : Nat
  second : Nat
  microsecond : Nat
  hour_lt : hour < 24
  minute_lt : minute < 60
  second_lt : second < 60
  microsecond_lt : microsecond < 1000000
deriving DecidableEq

namespace TimeOfDay

/-- Midnight. -/
def midnight : TimeOfDay := ⟨0, 0, 0, 0, by decide, by decide, by decide, by decide⟩

instance : Inhabited TimeOfDay := ⟨midnight⟩

/-- The time of day with these parts, if there is one. -/
def of? (hour minute second microsecond : Nat) : Option TimeOfDay :=
  if hh : hour < 24 then
    if hm : minute < 60 then
      if hs : second < 60 then
        if hu : microsecond < 1000000 then
          some ⟨hour, minute, second, microsecond, hh, hm, hs, hu⟩
        else none
      else none
    else none
  else none

/-- The time of day without its fraction of a second. -/
def wholeSecond (t : TimeOfDay) : TimeOfDay :=
  ⟨t.hour, t.minute, t.second, 0, t.hour_lt, t.minute_lt, t.second_lt, by decide⟩

end TimeOfDay

/-- How many microseconds a day has. -/
def microsecondsPerDay : Nat := 86400000000

/-- A date and a time of day. -/
structure LocalTime where
  date : Date
  time : TimeOfDay
deriving DecidableEq, Inhabited

namespace LocalTime

/-- The microseconds since the start of year 1. -/
def microseconds (t : LocalTime) : Nat :=
  t.date.dayNumber * microsecondsPerDay +
    (((t.time.hour * 60 + t.time.minute) * 60 + t.time.second) * 1000000 + t.time.microsecond)

/-- The time of day that lies a number of microseconds after midnight. -/
def timeOfMicroseconds (n : Nat) : TimeOfDay :=
  ⟨n / 3600000000 % 24, n / 60000000 % 60, n / 1000000 % 60, n % 1000000,
    Nat.mod_lt _ (by decide), Nat.mod_lt _ (by decide), Nat.mod_lt _ (by decide),
    Nat.mod_lt _ (by decide)⟩

/-- The local time a number of microseconds after the start of year 1, within the years 1 to 9999. -/
def ofMicroseconds? (n : Int) : Option LocalTime :=
  if n < 0 then none
  else (Date.ofDayNumber? (n.toNat / microsecondsPerDay)).map fun date =>
    ⟨date, timeOfMicroseconds (n.toNat % microsecondsPerDay)⟩

end LocalTime

/-! ## Zones and readings -/

/-- The clock that a reading was taken from: one without a known zone, one a fixed number of
    microseconds ahead of universal time, the clock of the stations, or a clock that is set forward and
    back through the year. Of the last kind there are many, told apart by number; how far one is ahead
    may differ from reading to reading. -/
inductive Zone where
  | floating
  | fixed (offset : Int)
  | station
  | shifting (clock : Nat) (offset : Int)
deriving DecidableEq, Inhabited, Repr

/-- The stations' clock is eight hours ahead of universal time. -/
def stationOffset : Int := 28800000000

/-- How far a clock is ahead of universal time, in microseconds, if that is known. -/
def Zone.offset? : Zone → Option Int
  | .floating => none
  | .fixed offset => some offset
  | .station => some stationOffset
  | .shifting _ offset => some offset

/-- Universal time. -/
def Zone.utc : Zone := .fixed 0

/-- The zone of the machine, by which readings without one are understood: how far its clock is ahead of
    universal time at a local time, or nothing where it has no answer. Which of two equal local times is
    meant is for the machine to say; its own words on a failure are not kept. -/
class HostZone where
  offset? : LocalTime → Option Int

/-- A machine in universal time, which stands for any that is not named. To find the offset at a local
    time it looks at the day before as well, so that it has no answer on the first day of the calendar. -/
instance HostZone.universal : HostZone :=
  ⟨fun t => if t.date.dayNumber = 0 then none else some 0⟩

/-- A reading of a clock. -/
structure Instant where
  localTime : LocalTime
  zone : Zone
deriving DecidableEq, Inhabited

namespace Instant

/-- Whether the zone of the clock is known. -/
def isZoned (t : Instant) : Bool := t.zone.offset?.isSome

/-- The moment of a reading, in microseconds of universal time since the start of year 1. -/
def moment? (t : Instant) : Option Int :=
  t.zone.offset?.map fun offset => (t.localTime.microseconds : Int) - offset

/-- Whether two readings are of one clock that is set forward and back. -/
def sharesClock (t earlier : Instant) : Bool :=
  match t.zone, earlier.zone with
  | .shifting clock _, .shifting clock' _ => clock == clock'
  | _, _ => false

/-- The microseconds from an earlier reading to this one, if the zones of both are known. Moments are
    compared, save for two readings of one clock that is set forward and back: these are as far apart as
    the clock shows them, whether it was set in between or not. -/
def since? (t earlier : Instant) : Option Int :=
  match t.moment?, earlier.moment? with
  | some m, some m' =>
    if t.sharesClock earlier then
      some ((t.localTime.microseconds : Int) - earlier.localTime.microseconds)
    else some (m - m')
  | _, _ => none

/-- How far the clock of a reading is ahead of universal time, in microseconds, by its own zone or, for
    want of one, by that of the machine. -/
def offset? [HostZone] (t : Instant) : Option Int :=
  t.zone.offset?.or (HostZone.offset? t.localTime)

/-- What the stations' clock shows at a moment, if both its universal and its station time lie in the
    years 1 to 9999. -/
def stationAt? (moment : Int) : Option Instant :=
  (LocalTime.ofMicroseconds? moment).bind fun _ =>
    (LocalTime.ofMicroseconds? (moment + stationOffset)).map fun localTime => ⟨localTime, .station⟩

/-- The same moment on the stations' clock; a reading of that clock is left as it is. -/
def toStation? [HostZone] (t : Instant) : Option Instant :=
  match t.zone with
  | .station => some t
  | _ => t.offset?.bind fun offset => stationAt? (t.localTime.microseconds - offset)

/-- The reading without its fraction of a second. -/
def wholeSecond (t : Instant) : Instant :=
  ⟨⟨t.localTime.date, t.localTime.time.wholeSecond⟩, t.zone⟩

/-- The reading with universal time for an unknown zone. -/
def orUtc (t : Instant) : Instant :=
  if t.isZoned then t else ⟨t.localTime, .utc⟩

/-- The start of 1970 in universal time, in microseconds since the start of year 1. -/
def epoch : Int := 719162 * microsecondsPerDay

/-- The moment a number of microseconds after the start of 1970, in universal time. -/
def ofEpoch? (microseconds : Int) : Option Instant :=
  (LocalTime.ofMicroseconds? (epoch + microseconds)).map fun localTime => ⟨localTime, .utc⟩

end Instant

/-! ## Written forms -/

/-- Hours, minutes and, where they are not zero, seconds and their fraction. -/
def clockText (microseconds : Nat) : Text :=
  Text.padded 2 (microseconds / 3600000000) ++ ':' :: Text.padded 2 (microseconds / 60000000 % 60) ++
    if microseconds % 60000000 = 0 then []
    else ':' :: Text.padded 2 (microseconds / 1000000 % 60) ++
      if microseconds % 1000000 = 0 then [] else '.' :: Text.padded 6 (microseconds % 1000000)

/-- The offset of a clock with its sign; nothing for a clock without a zone. -/
def Zone.text (z : Zone) : Text :=
  match z.offset? with
  | none => []
  | some offset => (if offset < 0 then '-' else '+') :: clockText offset.natAbs

namespace LocalTime

/-- Date and time of day, with the fraction of a second where there is one. -/
def isoText (t : LocalTime) : Text :=
  Text.padded 4 t.date.year ++ '-' :: Text.padded 2 t.date.month ++ '-' :: Text.padded 2 t.date.day ++
    'T' :: Text.padded 2 t.time.hour ++ ':' :: Text.padded 2 t.time.minute ++
    ':' :: Text.padded 2 t.time.second ++
    if t.time.microsecond = 0 then [] else '.' :: Text.padded 6 t.time.microsecond

end LocalTime

namespace Instant

/-- Date, time and offset. -/
def isoText (t : Instant) : Text := t.localTime.isoText ++ t.zone.text

/-- Date, time and offset, with `Z` for universal time. -/
def zuluText (t : Instant) : Text :=
  if t.zone.offset? = some 0 then t.localTime.isoText ++ ['Z'] else t.isoText

end Instant

end WeatherTelegram
