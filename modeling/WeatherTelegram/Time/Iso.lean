import WeatherTelegram.Text.Quoted
import WeatherTelegram.Time.Instant

/-!
# `Time.Iso` — reading ISO 8601 dates and times

A date is written `YYYY-MM-DD`, `YYYYMMDD`, `YYYY-Www`, `YYYYWww` or one of the last two with a weekday. One
character of any kind may separate it from a time `HH[[:]MM[[:]SS[(.|,)f…]]]`, and an offset may follow:
`Z`, or a signed time. Digits are ASCII. Positions count octets, so that one separator may take several.

The reading is lenient where time and offset meet: one character before the sign of the offset is
passed over, and so is everything between a fraction of six or more digits and that sign.

## Contents
- `IsoError` with `IsoError.message`: why a text denotes no time.
- `separatorPosition`, `isoDate?`: where the date ends, and its parts.
- `clockParts?`, `isoTime?`: hours to microseconds, and the time with its offset.
- `Instant.ofIso`: the whole reading.
-/

namespace WeatherTelegram

/-! ## Errors -/

/-- Why a text does not denote a date and time. -/
inductive IsoError where
  | malformed (text : Text)
  | year (value : Nat)
  | month
  | day
  | hour
  | minute
  | second
  | offset (microseconds : Int)
deriving DecidableEq, Inhabited

/-- A length of time as days and the seconds and microseconds left over, the last two not negative. -/
def durationText (microseconds : Int) : Text :=
  let days := microseconds / (microsecondsPerDay : Int)
  let rest := microseconds % (microsecondsPerDay : Int)
  let part (name : String) (k : Int) : List Text :=
    if k = 0 then [] else [Text.ofString name ++ '=' :: Text.ofInt k]
  let parts := part "days" days ++ part "seconds" (rest / 1000000) ++
    part "microseconds" (rest % 1000000)
  let shown := if parts.isEmpty then ['0'] else List.intercalate [',', ' '] parts
  Text.ofString "datetime.timedelta(" ++ shown ++ [')']

/-- The message of an error. -/
def IsoError.message : IsoError → Text
  | .malformed text => Text.ofString "Invalid isoformat string: " ++ text.quoted
  | .year value => Text.ofString "year " ++ Text.ofNat value ++ Text.ofString " is out of range"
  | .month => Text.ofString "month must be in 1..12"
  | .day => Text.ofString "day is out of range for month"
  | .hour => Text.ofString "hour must be in 0..23"
  | .minute => Text.ofString "minute must be in 0..59"
  | .second => Text.ofString "second must be in 0..59"
  | .offset microseconds =>
    Text.ofString ("offset must be a timedelta strictly between -timedelta(hours=24) and " ++
      "timedelta(hours=24), not ") ++ durationText microseconds ++ ['.']

/-! ## Octets and digits -/

/-- The text with each code point beyond ASCII written as the octets of its UTF-8 form. -/
def octets (t : Text) : Text :=
  t.flatMap fun c => (String.utf8EncodeChar c).map fun b => Char.ofNat b.toNat

/-- The values of exactly `count` ASCII digits at the front, and what follows. -/
def takeAsciiDigits : (count : Nat) → Text → Option (List Nat × Text)
  | 0, t => some ([], t)
  | _ + 1, [] => none
  | count + 1, c :: rest => do
    let d ← asciiDigit? c
    let (digits, rest) ← takeAsciiDigits count rest
    pure (d :: digits, rest)

/-- The number written with exactly `count` ASCII digits at the front, and what follows. -/
def takeNumber (count : Nat) (t : Text) : Option (Nat × Text) :=
  (takeAsciiDigits count t).map fun (digits, rest) => (valueOf digits, rest)

/-! ## Dates -/

/-- The position after the date. The fifth and sixth characters tell the forms apart; a week date with
    hyphens is taken to end before a hyphen that two more characters and a digit make ambiguous. -/
def separatorPosition (t : Text) : Option Nat :=
  let at? (i : Nat) : Char := t.getD i '\x00'
  if t.length = 7 then some 7
  else if at? 4 = '-' then
    if at? 5 = 'W' then
      if at? 8 = '-' then
        if t.length = 9 then none
        else if (at? 10).isDigit then some 8 else some 10
      else some 8
    else some 10
  else if at? 4 = 'W' then
    let digits := ((t.drop 7).takeWhile Char.isDigit).length
    if digits < 2 then some (7 + digits)
    else if (7 + digits) % 2 = 0 then some 7 else some 8
  else some 8

/-- A year, week and weekday as a day number, if the year has that week. -/
def dayOfWeek? (year week day : Nat) : Option Int :=
  if 1 ≤ year ∧ (1 ≤ week ∧ week ≤ 52 ∨ week = 53 ∧ hasWeek53 year) ∧ 1 ≤ day ∧ day ≤ 7 then
    some (isoWeekStart year + ((week - 1) * 7 + (day - 1) : Nat))
  else none

/-- Takes a hyphen off the front when hyphens are in use, and nothing otherwise. -/
def takeHyphen (hyphens : Bool) (t : Text) : Option Text :=
  if hyphens then
    match t with
    | '-' :: rest => some rest
    | _ => none
  else some t

/-- Year, month and day of a text that holds nothing but a date. They may lie outside the calendar; a
    week date after its end counts as the year that follows. -/
def isoDate? (t : Text) : Option (Nat × Nat × Nat) := do
  let (year, rest) ← takeNumber 4 t
  let hyphens := rest.head? == some '-'
  let rest := if hyphens then rest.drop 1 else rest
  match rest with
  | 'W' :: rest => do
    let (week, rest) ← takeNumber 2 rest
    let day ←
      if rest.isEmpty then some 1
      else do
        let rest ← takeHyphen hyphens rest
        let (day, _) ← takeNumber 1 rest
        pure day
    let n ← dayOfWeek? year week day
    match Date.ofDayNumber? n.toNat with
    | some d => some (d.year, d.month, d.day)
    | none => some (10000, 1, 1)
  | _ => do
    let (month, rest) ← takeNumber 2 rest
    let rest ← takeHyphen hyphens rest
    let (day, _) ← takeNumber 2 rest
    pure (year, month, day)

/-! ## Times -/

/-- Hours, minutes, seconds and microseconds at the front of a text. -/
structure ClockParts where
  hour : Nat
  minute : Nat
  second : Nat
  microsecond : Nat
deriving DecidableEq, Inhabited

/-- The fraction of a second: up to six digits count, and the digits after them are passed over. -/
def fractionParts? (t : Text) : Option (Nat × Text) := do
  let (digits, rest) ← takeAsciiDigits (min 6 t.length) t
  pure (valueOf (digits ++ List.replicate (6 - digits.length) 0), rest.dropWhile Char.isDigit)

/-- Hours to microseconds of a whole text, from the two digits of `part` (0 for the hours) on; the flag
    says whether something was left over at its end, where a zero character ends a text as well. `tail`
    is what stands after the text. -/
def clockParts? (tail : Char) (colons : Bool) : (fuel part : Nat) → ClockParts → Text →
    Option (ClockParts × Bool)
  | 0, _, parts, t => do
    let (micro, rest) ← fractionParts? t
    pure ({ parts with microsecond := micro }, rest.headD tail != '\x00')
  | fuel + 1, part, parts, t => do
    let (n, rest) ← takeNumber 2 t
    let parts :=
      match part with
      | 0 => { parts with hour := n }
      | 1 => { parts with minute := n }
      | _ => { parts with second := n }
    match rest with
    | [] => pure (parts, tail != '\x00')
    | c :: after =>
      let colons := if part = 0 then c == ':' else colons
      if after.isEmpty then pure (parts, c != '\x00')
      else if colons && c == ':' then clockParts? tail colons fuel (part + 1) parts after
      else if c = '.' ∨ c = ',' then clockParts? tail colons 0 (part + 1) parts after
      else if colons then none
      else clockParts? tail colons fuel (part + 1) parts (c :: after)

/-- The time and, if one is given, the offset in microseconds. -/
def isoTime? (t : Text) : Option (ClockParts × Option Int) :=
  let isMark (c : Char) : Bool := c == '+' || c == '-' || c == 'Z'
  let front := t.takeWhile (!isMark ·)
  match t.dropWhile (!isMark ·) with
  | [] => do
    let (parts, leftOver) ← clockParts? '\x00' true 3 0 default front
    if leftOver then none else some (parts, none)
  | mark :: zone => do
    let (parts, _) ← clockParts? mark true 3 0 default front
    if mark = 'Z' then
      if zone.isEmpty then some (parts, some 0) else none
    else
      let (z, leftOver) ← clockParts? '\x00' true 3 0 default zone
      let seconds := (z.hour * 60 + z.minute) * 60 + z.second
      let size := if seconds = 0 then 0 else seconds * 1000000 + z.microsecond
      if leftOver then none
      else some (parts, some (if mark = '-' then -(size : Int) else size))

/-! ## Dates with times -/

/-- The date with the given parts, or the first of them that the calendar does not have. -/
def checkedDate (year month day : Nat) : Except IsoError Date :=
  if ¬ (1 ≤ year ∧ year ≤ 9999) then .error (.year year)
  else if ¬ (1 ≤ month ∧ month ≤ 12) then .error .month
  else
    match Date.of? year month day with
    | some d => .ok d
    | none => .error .day

/-- The time of day with the given parts, or the first of them that is out of range. -/
def checkedTime (parts : ClockParts) : Except IsoError TimeOfDay :=
  if 24 ≤ parts.hour then .error .hour
  else if 60 ≤ parts.minute then .error .minute
  else
    match TimeOfDay.of? parts.hour parts.minute parts.second parts.microsecond with
    | some t => .ok t
    | none => .error .second

/-- The zone with an offset, which has to be shorter than a day. -/
def checkedZone : Option Int → Except IsoError Zone
  | none => .ok .floating
  | some offset =>
    if offset.natAbs < microsecondsPerDay then .ok (.fixed offset) else .error (.offset offset)

/-- The parts of a text that has the form of a date and, after one separator, a time. -/
def isoParts? (t : Text) : Option ((Nat × Nat × Nat) × ClockParts × Option Int) := do
  let bytes := octets t
  if bytes.length < 7 then none
  else
    let position ← separatorPosition bytes
    let date ← isoDate? (bytes.take position)
    match bytes.drop position with
    | [] => pure (date, default, none)
    | lead :: rest =>
      let width :=
        if lead.toNat < 0x80 then 1
        else if lead.toNat < 0xE0 then 2
        else if lead.toNat < 0xF0 then 3
        else 4
      let (parts, offset) ← isoTime? (rest.drop (width - 1))
      pure (date, parts, offset)

/-- Reads a date with an optional time and offset; without an offset the zone is unknown. -/
def Instant.ofIso (t : Text) : Except IsoError Instant :=
  match isoParts? t with
  | none => .error (.malformed t)
  | some ((year, month, day), parts, offset) => do
    let zone ← checkedZone offset
    let date ← checkedDate year month day
    let time ← checkedTime parts
    pure ⟨⟨date, time⟩, zone⟩

end WeatherTelegram
