/-!
# `Time.Calendar` — dates of the Gregorian calendar, years 1 to 9999

Days are numbered from 0 on the first of January of year 1. The day number of a date and the date of
a day number are defined separately: the first counts leap years, the second splits off cycles of
400, 100, 4 and 1 years.

## Contents
- `isLeapYear`, `daysInMonth`, `daysBeforeYear`, `daysBeforeMonth`.
- `Date`: a year, month and day that the calendar has, with `Date.of?` and `Date.dayNumber`.
- `Date.ofDayNumber?`: the date of a day number, `none` after year 9999.
- `weekday`, `isoWeekStart`: weekdays (Monday is 0) and the Monday of a year's first week.
-/

namespace WeatherTelegram

/-! ## Lengths of years and months -/

/-- Every fourth year is a leap year, except the centuries that 400 does not divide. -/
def isLeapYear (year : Nat) : Bool := year % 4 == 0 && (year % 100 != 0 || year % 400 == 0)

/-- How many days a month has. -/
def daysInMonth (year month : Nat) : Nat :=
  match month with
  | 2 => if isLeapYear year then 29 else 28
  | 4 | 6 | 9 | 11 => 30
  | _ => 31

/-- How many days lie before the first of January of a year. -/
def daysBeforeYear (year : Nat) : Nat :=
  (year - 1) * 365 + (year - 1) / 4 - (year - 1) / 100 + (year - 1) / 400

/-- How many days of a year lie before the first of a month. -/
def daysBeforeMonth (year : Nat) : Nat → Nat
  | 0 => 0
  | 1 => 0
  | month + 2 => daysBeforeMonth year (month + 1) + daysInMonth year (month + 1)

/-- How many days a year has. -/
def daysInYear (year : Nat) : Nat := if isLeapYear year then 366 else 365

theorem daysBeforeMonth_twelve (year : Nat) :
    daysBeforeMonth year 12 + daysInMonth year 12 = daysInYear year := by
  simp only [daysBeforeMonth, daysInMonth, daysInYear]
  split <;> rfl

/-! ## Dates -/

/-- How many days the years 1 to 9999 have. -/
def dayLimit : Nat := 3652059

/-- A date of the calendar. -/
structure Date where
  year : Nat
  month : Nat
  day : Nat
  year_mem : 1 ≤ year ∧ year ≤ 9999
  month_mem : 1 ≤ month ∧ month ≤ 12
  day_mem : 1 ≤ day ∧ day ≤ daysInMonth year month
deriving DecidableEq

namespace Date

instance : Inhabited Date := ⟨⟨1, 1, 1, by decide, by decide, by decide⟩⟩

/-- The date of a year, month and day, if the calendar has it. -/
def of? (year month day : Nat) : Option Date :=
  if hy : 1 ≤ year ∧ year ≤ 9999 then
    if hm : 1 ≤ month ∧ month ≤ 12 then
      if hd : 1 ≤ day ∧ day ≤ daysInMonth year month then some ⟨year, month, day, hy, hm, hd⟩ else none
    else none
  else none

/-- The number of the date's day. -/
def dayNumber (d : Date) : Nat :=
  daysBeforeYear d.year + daysBeforeMonth d.year d.month + (d.day - 1)

/-! ### From a day number -/

/-- The year of a day and the day's position in that year. -/
def splitYear (n : Nat) : Nat × Nat :=
  let fourCenturies := n / 146097
  let inFourCenturies := n % 146097
  let centuries := min 3 (inFourCenturies / 36524)
  let inCentury := inFourCenturies - centuries * 36524
  let fourYears := inCentury / 1461
  let inFourYears := inCentury % 1461
  let years := min 3 (inFourYears / 365)
  (fourCenturies * 400 + centuries * 100 + fourYears * 4 + years + 1, inFourYears - years * 365)

/-- The month that holds a position in the year, searched from `month` on with `rest` days to go, and
    the day of that month; December holds all that is left. -/
def splitMonth (year : Nat) : Nat → Nat → Nat → Nat × Nat
  | 0, month, rest => (month, rest + 1)
  | later + 1, month, rest =>
    if rest < daysInMonth year month then (month, rest + 1)
    else splitMonth year later (month + 1) (rest - daysInMonth year month)

theorem splitYear_year (n : Nat) (h : n < dayLimit) :
    1 ≤ (splitYear n).1 ∧ (splitYear n).1 ≤ 9999 := by
  unfold dayLimit at h
  simp only [splitYear]
  omega

theorem splitYear_day (n : Nat) : (splitYear n).2 < daysInYear (splitYear n).1 := by
  have key : (splitYear n).2 < 365 ∨
      ((splitYear n).2 = 365 ∧ (splitYear n).1 % 4 = 0 ∧
        ((splitYear n).1 % 100 ≠ 0 ∨ (splitYear n).1 % 400 = 0)) := by
    simp only [splitYear]
    omega
  rcases key with h | ⟨h, h4, h100⟩
  · unfold daysInYear
    split <;> omega
  · have hleap : isLeapYear (splitYear n).1 = true := by
      simp only [isLeapYear, Bool.and_eq_true, Bool.or_eq_true, beq_iff_eq, bne_iff_ne]
      exact ⟨h4, h100⟩
    rw [daysInYear, hleap, if_pos rfl, h]
    omega

theorem splitMonth_mem (year : Nat) : ∀ later month rest : Nat, 1 ≤ month → later + month = 12 →
    daysBeforeMonth year month + rest < daysInYear year →
    (1 ≤ (splitMonth year later month rest).1 ∧ (splitMonth year later month rest).1 ≤ 12) ∧
    (1 ≤ (splitMonth year later month rest).2 ∧
      (splitMonth year later month rest).2 ≤
        daysInMonth year (splitMonth year later month rest).1)
  | 0, month, rest, hm, hl, hr => by
    obtain rfl : month = 12 := by omega
    have := daysBeforeMonth_twelve year
    simp only [splitMonth]
    omega
  | later + 1, month, rest, hm, hl, hr => by
    unfold splitMonth
    split
    · simp only
      omega
    · refine splitMonth_mem year later (month + 1) _ (by omega) (by omega) ?_
      obtain ⟨k, rfl⟩ : ∃ k, month = k + 1 := ⟨month - 1, by omega⟩
      rw [daysBeforeMonth]
      omega

/-- The date of a day number, if it lies in the years 1 to 9999. -/
def ofDayNumber? (n : Nat) : Option Date :=
  if h : n < dayLimit then
    have hs := splitMonth_mem (splitYear n).1 11 1 (splitYear n).2 (by omega) (by omega)
      (by rw [daysBeforeMonth, Nat.zero_add]; exact splitYear_day n)
    some ⟨(splitYear n).1, (splitMonth (splitYear n).1 11 1 (splitYear n).2).1,
      (splitMonth (splitYear n).1 11 1 (splitYear n).2).2, splitYear_year n h, hs.1, hs.2⟩
  else none

end Date

/-! ## Weeks -/

/-- The weekday of a day number; Monday is 0. -/
def weekday (n : Nat) : Nat := n % 7

/-- The day number of the Monday of a year's first week, the week of its first Thursday; it may lie
    before the first day of year 1. -/
def isoWeekStart (year : Nat) : Int :=
  let first := daysBeforeYear year
  if weekday first ≤ 3 then (first : Int) - weekday first else (first : Int) - weekday first + 7

/-- Whether a year has a fifty-third week: it begins on a Thursday, or on a Wednesday before a leap
    day. -/
def hasWeek53 (year : Nat) : Bool :=
  let first := weekday (daysBeforeYear year)
  first == 3 || (first == 2 && isLeapYear year)

end WeatherTelegram
