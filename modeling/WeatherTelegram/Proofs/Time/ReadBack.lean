import WeatherTelegram.Proofs.Time.Calendar
import WeatherTelegram.Proofs.Time.Stamp

/-!
# `Proofs.Time.ReadBack` — a moment that was written is read back

Any clock's moment is written as the clock of the stations shows it, without the fraction of the second.
From the year 1000 on, what is written is in a form that the reader takes for what it is, so that it
gives the moment back, to the second; before, the two styles are read alike, whatever they are read as.

## Contents
- `stampText_wholeSecond`: a written timestamp shows whole seconds.
- `stampText?_readBack`: from any clock to a text and back.
-/

namespace WeatherTelegram

namespace Instant

/-- The fraction of the second is not written. -/
theorem stampText_wholeSecond (style : StampStyle) (t : Instant) :
    stampText style t.wholeSecond = stampText style t := by
  cases style <;> rfl

/-- A date from the year 1000 on is none of the first days of the calendar. -/
theorem one_le_dayNumber {d : Date} (h : 1000 ≤ d.year) : 1 ≤ d.dayNumber := by
  unfold Date.dayNumber daysBeforeYear
  omega

/-- **What was written is read back.** A moment of any clock that the stations' clock shows in the years
    1000 to 9999 is read back from either style as the time on that clock without its fraction of a
    second, which is at most the moment and less than a second before it. Whatever the year, a time that
    the stations' clock can show is written in both styles, with the digits of its year in front, and
    both are read alike. -/
theorem stampText?_readBack [HostZone] {t : Instant} {m : ℤ} (hm : t.moment? = some m) :
    (∀ l, LocalTime.ofMicroseconds? (m + stationOffset) = some l → 1000 ≤ l.date.year → ∀ style,
      ∃ text taken, t.stampText? style = some text ∧
        ofStamp? text = some (Instant.mk l .station).wholeSecond ∧
        (Instant.mk l .station).wholeSecond.moment? = some taken ∧ taken ≤ m ∧ m < taken + 1000000) ∧
    (t.IsConvertible → ∃ st colon slash, t.toStation? = some st ∧ st.moment? = some m ∧
      t.stampText? .colon = some colon ∧ t.stampText? .slash = some slash ∧
      Text.ofNat st.localTime.date.year <+: colon ∧ Text.ofNat st.localTime.date.year <+: slash ∧
      ofStamp? colon = ofStamp? slash) := by
  refine ⟨fun l hl hyear style => ?_, fun hconvertible => ?_⟩
  · have hst := toStation?_of_localTime hm hl (one_le_dayNumber hyear)
    have hmoment := moment?_wholeSecond (moment?_of_toStation? hst hm)
    have hsecond := l.time.microsecond_lt
    refine ⟨stampText style ⟨l, .station⟩, _, ?_, ?_, hmoment, ?_, ?_⟩
    · unfold stampText?
      rw [hst]
      rfl
    · rw [← stampText_wholeSecond]
      exact ofStamp?_stampText style rfl rfl hyear
    · show m - (l.time.microsecond : ℤ) ≤ m
      omega
    · show m < m - (l.time.microsecond : ℤ) + 1000000
      omega
  · obtain ⟨st, hst⟩ := (exists_toStation?_iff t).mpr hconvertible
    have hwritten : ∀ style, t.stampText? style = some (stampText style st) := by
      intro style
      unfold stampText?
      rw [hst]
      rfl
    exact ⟨st, _, _, hst, moment?_of_toStation? hst hm, hwritten .colon, hwritten .slash,
      year_prefix_stampText .colon st, year_prefix_stampText .slash st,
      ofStamp?_stampText_congr .colon .slash st⟩

/-- The last microsecond of a twenty-eighth of February, five hours behind universal time. -/
def leapEve : Instant :=
  ⟨⟨⟨2024, 2, 28, by decide, by decide, by decide⟩,
    ⟨23, 59, 59, 999999, by decide, by decide, by decide, by decide⟩⟩, .fixed (-18000000000)⟩

/-- The stations are in the leap day by then. -/
def leapNoon : LocalTime :=
  ⟨{ leapEve.localTime.date with day := 29, day_mem := by decide },
    { leapEve.localTime.time with hour := 12, hour_lt := by decide }⟩

theorem stampText?_readBack_leapEve :
    ∃ m, leapEve.moment? = some m ∧ LocalTime.ofMicroseconds? (m + stationOffset) = some leapNoon ∧
      leapEve.IsConvertible ∧
      (∃ text, leapEve.stampText? .slash = some text ∧
        ofStamp? text = some (Instant.mk leapNoon .station).wholeSecond) ∧
      ∃ colon slash, leapEve.stampText? .colon = some colon ∧ leapEve.stampText? .slash = some slash ∧
        ofStamp? colon = ofStamp? slash := by
  have hlocal : LocalTime.ofMicroseconds?
      ((leapEve.localTime.microseconds - (-18000000000) : ℤ) + stationOffset) = some leapNoon := by
    decide +kernel
  have hconvertible : leapEve.IsConvertible := (exists_toStation?_iff leapEve).mp
    ⟨_, toStation?_of_localTime rfl hlocal (by decide)⟩
  obtain ⟨hback, halike⟩ := stampText?_readBack (t := leapEve) rfl
  obtain ⟨text, _, htext, hread, _⟩ := hback leapNoon hlocal (by decide) .slash
  obtain ⟨_, colon, slash, _, _, hcolon, hslash, _, _, hsame⟩ := halike hconvertible
  exact ⟨_, rfl, hlocal, hconvertible, ⟨text, htext, hread⟩, colon, slash, hcolon, hslash, hsame⟩

end Instant

end WeatherTelegram
