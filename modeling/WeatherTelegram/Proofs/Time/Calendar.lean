import Mathlib.Data.Nat.Init
import Mathlib.Tactic.SplitIfs
import WeatherTelegram.Proofs.Time.Moment

/-!
# `Proofs.Time.Calendar` — every date and every moment is found again by its count

The days of a year lie before those of the next, and the days of a month before those of the next, so a
day number belongs to one date, and the date that is split off from it is that date. With the time of day
the same holds of microseconds, and it is plain which clocks the clock of the stations can show.

## Contents
- **Dates.** `daysBeforeYear_block`, `daysBeforeMonth_block`, `dayNumber_injective`,
  `ofDayNumber?_dayNumber`.
- **Local times.** `ofMicroseconds?_microseconds`, `exists_ofMicroseconds?_iff`.
- **Moments.** `IsConvertible`, `exists_toStation?_iff`, `toStation?_of_localTime`.
-/

namespace WeatherTelegram

/-! ## Dates -/

namespace Date

/-- A year that `k` divides adds one to the multiples of `k`. -/
theorem div_eq_div_pred {year : ℕ} (h : 1 ≤ year) (k : ℕ) :
    year / k = (year - 1) / k + if year % k = 0 then 1 else 0 := by
  obtain ⟨n, rfl⟩ : ∃ n, year = n + 1 := ⟨year - 1, by omega⟩
  simp only [Nat.succ_div, Nat.add_sub_cancel, Nat.dvd_iff_mod_eq_zero]

theorem daysBeforeYear_succ {year : ℕ} (h : 1 ≤ year) :
    daysBeforeYear (year + 1) = daysBeforeYear year + daysInYear year := by
  have hcentury : (year - 1) / 100 ≤ year - 1 := Nat.div_le_self _ _
  have hmultiples : year % 400 = 0 → year % 100 = 0 ∧ year % 4 = 0 := by omega
  have hcenturies : year % 100 = 0 → year % 4 = 0 := by omega
  unfold daysBeforeYear daysInYear isLeapYear
  simp only [Bool.and_eq_true, Bool.or_eq_true, beq_iff_eq, bne_iff_ne]
  rw [Nat.add_sub_cancel, div_eq_div_pred h 4, div_eq_div_pred h 100, div_eq_div_pred h 400]
  generalize (year - 1) / 4 = fours, (year - 1) / 100 = centuries, (year - 1) / 400 = cycles at *
  split_ifs <;> omega

/-- A year ends before a later one begins. -/
theorem daysBeforeYear_block {year later : ℕ} (h : 1 ≤ year) (hlt : year < later) :
    daysBeforeYear year + daysInYear year ≤ daysBeforeYear later := by
  induction later, hlt using Nat.le_induction with
  | base => exact Nat.le_of_eq (daysBeforeYear_succ h).symm
  | succ later hlt ih =>
    rw [daysBeforeYear_succ (by omega)]
    omega

/-- A month ends before a later one begins. -/
theorem daysBeforeMonth_block (year : ℕ) {month later : ℕ} (h : 1 ≤ month) (hlt : month < later) :
    daysBeforeMonth year month + daysInMonth year month ≤ daysBeforeMonth year later := by
  have hsucc : ∀ {m : ℕ}, 1 ≤ m →
      daysBeforeMonth year (m + 1) = daysBeforeMonth year m + daysInMonth year m := by
    rintro (_ | m) hm
    · omega
    · rfl
  induction later, hlt using Nat.le_induction with
  | base => exact Nat.le_of_eq (hsucc h).symm
  | succ later hlt ih =>
    rw [hsucc (by omega)]
    omega

/-- The months of a date lie within its year. -/
theorem dayOfYear_lt (d : Date) :
    daysBeforeMonth d.year d.month + (d.day - 1) < daysInYear d.year := by
  have hmonth := d.month_mem
  have hday := d.day_mem
  have htwelve := daysBeforeMonth_twelve d.year
  rcases Nat.lt_or_eq_of_le hmonth.2 with hlt | heq
  · have hblock := daysBeforeMonth_block d.year hmonth.1 hlt
    omega
  · rw [heq] at hday ⊢
    omega

theorem lt_dayNumber_of_year_lt {d e : Date} (h : d.year < e.year) : d.dayNumber < e.dayNumber := by
  have hblock := daysBeforeYear_block d.year_mem.1 h
  have hwithin := d.dayOfYear_lt
  unfold dayNumber
  omega

theorem lt_dayNumber_of_month_lt {d e : Date} (hyear : d.year = e.year) (h : d.month < e.month) :
    d.dayNumber < e.dayNumber := by
  have hblock := daysBeforeMonth_block d.year d.month_mem.1 h
  have hday := d.day_mem
  unfold dayNumber
  rw [← hyear]
  omega

/-- **A day number belongs to one date.** -/
theorem dayNumber_injective {d e : Date} (h : d.dayNumber = e.dayNumber) : d = e := by
  have hyear : d.year = e.year := by
    rcases Nat.lt_trichotomy d.year e.year with hlt | heq | hgt
    · exact absurd h (Nat.ne_of_lt (lt_dayNumber_of_year_lt hlt))
    · exact heq
    · exact absurd h.symm (Nat.ne_of_lt (lt_dayNumber_of_year_lt hgt))
  have hmonth : d.month = e.month := by
    rcases Nat.lt_trichotomy d.month e.month with hlt | heq | hgt
    · exact absurd h (Nat.ne_of_lt (lt_dayNumber_of_month_lt hyear hlt))
    · exact heq
    · exact absurd h.symm (Nat.ne_of_lt (lt_dayNumber_of_month_lt hyear.symm hgt))
  have hday : d.day = e.day := by
    have hd := d.day_mem.1
    have he := e.day_mem.1
    unfold dayNumber at h
    rw [hyear, hmonth] at h
    omega
  cases d
  cases e
  simp only [mk.injEq]
  exact ⟨hyear, hmonth, hday⟩

theorem dayNumber_lt (d : Date) : d.dayNumber < dayLimit := by
  have hyear : d.year < 10000 := Nat.lt_succ_of_le d.year_mem.2
  have hblock := daysBeforeYear_block d.year_mem.1 hyear
  have hwithin := d.dayOfYear_lt
  have hlimit : daysBeforeYear 10000 = dayLimit := rfl
  unfold dayNumber
  omega

/-- **A date is found again by its number.** -/
theorem ofDayNumber?_dayNumber (d : Date) : ofDayNumber? d.dayNumber = some d := by
  obtain ⟨e, he⟩ : ∃ e, ofDayNumber? d.dayNumber = some e := by
    unfold ofDayNumber?
    rw [dif_pos d.dayNumber_lt]
    exact ⟨_, rfl⟩
  rw [he, dayNumber_injective (dayNumber_of_ofDayNumber? he)]

end Date

/-! ## Local times -/

namespace LocalTime

/-- A time of day is found again by its microseconds since midnight. -/
theorem timeOfMicroseconds_self (t : TimeOfDay) :
    timeOfMicroseconds (((t.hour * 60 + t.minute) * 60 + t.second) * 1000000 + t.microsecond) = t := by
  have hh := t.hour_lt
  have hm := t.minute_lt
  have hs := t.second_lt
  have hu := t.microsecond_lt
  cases t
  simp only [timeOfMicroseconds, TimeOfDay.mk.injEq] at *
  omega

/-- **A local time is found again by its microseconds.** -/
theorem ofMicroseconds?_microseconds (t : LocalTime) : ofMicroseconds? t.microseconds = some t := by
  have hh := t.time.hour_lt
  have hm := t.time.minute_lt
  have hs := t.time.second_lt
  have hu := t.time.microsecond_lt
  have hrest : ((t.time.hour * 60 + t.time.minute) * 60 + t.time.second) * 1000000 +
      t.time.microsecond < microsecondsPerDay := by
    unfold microsecondsPerDay
    omega
  have hday : t.microseconds / microsecondsPerDay = t.date.dayNumber := by
    unfold microseconds
    rw [Nat.mul_comm, Nat.mul_add_div (by decide), Nat.div_eq_of_lt hrest, Nat.add_zero]
  have htime : t.microseconds % microsecondsPerDay =
      ((t.time.hour * 60 + t.time.minute) * 60 + t.time.second) * 1000000 + t.time.microsecond := by
    unfold microseconds
    rw [Nat.mul_comm, Nat.mul_add_mod, Nat.mod_eq_of_lt hrest]
  unfold ofMicroseconds?
  rw [if_neg (by omega), Int.toNat_natCast, hday, htime, Date.ofDayNumber?_dayNumber,
    timeOfMicroseconds_self]
  rfl

/-- The counts that are local times are those within the years of the calendar. -/
theorem exists_ofMicroseconds?_iff (n : ℤ) :
    (∃ t, ofMicroseconds? n = some t) ↔ 0 ≤ n ∧ n < dayLimit * microsecondsPerDay := by
  constructor
  · rintro ⟨t, ht⟩
    have hcount := microseconds_of_ofMicroseconds? ht
    have hday := t.date.dayNumber_lt
    have hh := t.time.hour_lt
    have hm := t.time.minute_lt
    have hs := t.time.second_lt
    have hu := t.time.microsecond_lt
    unfold microseconds microsecondsPerDay at *
    omega
  · rintro ⟨hleast, hmost⟩
    exact exists_ofMicroseconds? hleast hmost

end LocalTime

/-! ## Moments -/

namespace Instant

theorem exists_stationAt?_iff (m : ℤ) :
    (∃ st, stationAt? m = some st) ↔ 0 ≤ m ∧ m + stationOffset < dayLimit * microsecondsPerDay := by
  constructor
  · rintro ⟨st, hst⟩
    obtain ⟨u, hu, hst⟩ := Option.bind_eq_some_iff.mp hst
    obtain ⟨l, hl, _⟩ := Option.map_eq_some_iff.mp hst
    exact ⟨((LocalTime.exists_ofMicroseconds?_iff _).mp ⟨u, hu⟩).1,
      ((LocalTime.exists_ofMicroseconds?_iff _).mp ⟨l, hl⟩).2⟩
  · rintro ⟨hleast, hmost⟩
    unfold stationOffset at hmost
    obtain ⟨u, hu⟩ := LocalTime.exists_ofMicroseconds? (n := m) hleast (by omega)
    obtain ⟨l, hl⟩ := LocalTime.exists_ofMicroseconds? (n := m + stationOffset)
      (by unfold stationOffset; omega) (by unfold stationOffset; omega)
    unfold stationAt?
    rw [hu, hl]
    exact ⟨_, rfl⟩

section

variable [HostZone]

/-- A time that the clock of the stations can show: one of that clock, or one whose universal time and
    whose station time both lie in the years of the calendar. A time without a zone has these by the
    zone of the machine, if that has an answer. -/
def IsConvertible (t : Instant) : Prop :=
  t.zone = .station ∨ ∃ offset, t.offset? = some offset ∧ 0 ≤ t.localTime.microseconds - offset ∧
    t.localTime.microseconds - offset + stationOffset < dayLimit * microsecondsPerDay

theorem exists_toStation?_iff (t : Instant) : (∃ st, t.toStation? = some st) ↔ t.IsConvertible := by
  unfold IsConvertible
  by_cases hzone : t.zone = .station
  · exact iff_of_true ⟨t, toStation?_of_station hzone⟩ (.inl hzone)
  rw [toStation?_of_ne hzone, or_iff_right hzone]
  constructor
  · rintro ⟨st, hst⟩
    obtain ⟨offset, hoffset, hst⟩ := Option.bind_eq_some_iff.mp hst
    exact ⟨offset, hoffset, (exists_stationAt?_iff _).mp ⟨st, hst⟩⟩
  · rintro ⟨offset, hoffset, hinside⟩
    obtain ⟨st, hst⟩ := (exists_stationAt?_iff _).mpr hinside
    exact ⟨st, Option.bind_eq_some_iff.mpr ⟨offset, hoffset, hst⟩⟩

/-- For the first morning of the calendar a machine in universal time has no answer. -/
example : @toStation? .universal ⟨⟨⟨1, 1, 1, by decide, by decide, by decide⟩,
    { TimeOfDay.midnight with hour := 5, hour_lt := by decide }⟩, .floating⟩ = none := rfl

/-- A moment that its own clock tells is convertible wherever the machine stands. -/
theorem isConvertible_of_moment? {t : Instant} {m : ℤ} (h : t.moment? = some m) :
    t.IsConvertible ↔
      t.zone = .station ∨ 0 ≤ m ∧ m + stationOffset < dayLimit * microsecondsPerDay := by
  obtain ⟨offset, hoffset, rfl⟩ := Option.map_eq_some_iff.mp h
  unfold IsConvertible
  rw [offset?_of_zone hoffset]
  simp only [Option.some.injEq, exists_eq_left']

/-- The clock of the stations shows a moment as its local time there, from the second day of the calendar
    on. -/
theorem toStation?_of_localTime {t : Instant} {m : ℤ} {l : LocalTime} (hm : t.moment? = some m)
    (hl : LocalTime.ofMicroseconds? (m + stationOffset) = some l) (hday : 1 ≤ l.date.dayNumber) :
    t.toStation? = some ⟨l, .station⟩ := by
  have hcount := LocalTime.microseconds_of_ofMicroseconds? hl
  have hleast : microsecondsPerDay ≤ l.microseconds := by
    unfold LocalTime.microseconds microsecondsPerDay
    omega
  obtain ⟨st, hst⟩ : ∃ st, t.toStation? = some st := by
    rw [exists_toStation?_iff, isConvertible_of_moment? hm]
    refine .inr ?_
    have hmost := ((LocalTime.exists_ofMicroseconds?_iff _).mp ⟨l, hl⟩).2
    unfold stationOffset microsecondsPerDay at *
    omega
  -- its own count is that of the moment, so that the local time is the same
  have hmoment := moment?_of_toStation? hst hm
  have hzone := zone_of_toStation? hst
  obtain ⟨local', zone⟩ := st
  obtain rfl : zone = .station := hzone
  have hsame : (local'.microseconds : ℤ) = m + stationOffset := by
    have heq : (local'.microseconds : ℤ) - stationOffset = m := Option.some.inj hmoment
    omega
  have hself := local'.ofMicroseconds?_microseconds
  rw [hsame, hl] at hself
  rw [hst, ← Option.some.inj hself]

end

end Instant

end WeatherTelegram
