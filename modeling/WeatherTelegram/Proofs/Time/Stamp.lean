import WeatherTelegram.Proofs.Text.Digit
import WeatherTelegram.Proofs.Time.Moment
import WeatherTelegram.Time.Stamp

/-!
# `Proofs.Time.Stamp` — a written timestamp is read back

Both styles write a year and five numbers of two digits one after the other. The reader tells its forms
apart by their length, so that the year alone decides what is read: four digits stand for themselves, two
are taken for the end of a year of this century, and one or three are in no form. The two styles are thus
read alike for every year, and a year of four digits is read back.

## Contents
- `exists_ofNat_of_le`, `LocalTime.exists_padded`: the digits of years and of the other parts.
- `StampFields.ofTime` and `toInstant?_ofTime`: the fields of a local time, and the time they denote.
- `stampYear?`, `stampFields?_stampText`: the fields that are read from what was written.
- `ofStamp?_stampText_congr`, `ofStamp?_stampText`: the two styles, and a timestamp that is read back.
- `station_of_ofStamp?`: what any token can be read as.
-/

namespace WeatherTelegram

/-! ## Digits -/

theorem exists_ofNat_of_le {n : ℕ} (h : n ≤ 9999) : (∃ a, Text.ofNat n = [a]) ∨
    (∃ a b, Text.ofNat n = [a, b]) ∨ (∃ a b c, Text.ofNat n = [a, b, c]) ∨
    ∃ a b c d, Text.ofNat n = [a, b, c, d] := by
  have hfour := (length_ofNat_le_iff (n := n) (show 0 < 4 by decide)).mpr (by omega)
  have hpos := List.length_pos_iff.mpr (ofNat_ne_nil n)
  obtain hone | htwo | hthree | hfour : (Text.ofNat n).length = 1 ∨ (Text.ofNat n).length = 2 ∨
      (Text.ofNat n).length = 3 ∨ (Text.ofNat n).length = 4 := by omega
  · exact .inl (List.length_eq_one_iff.mp hone)
  · exact .inr (.inl (List.length_eq_two.mp htwo))
  · exact .inr (.inr (.inl (List.length_eq_three.mp hthree)))
  · exact .inr (.inr (.inr (List.length_eq_four.mp hfour)))

theorem length_ofNat_four {n : ℕ} (hleast : 1000 ≤ n) (hmost : n ≤ 9999) :
    (Text.ofNat n).length = 4 := by
  have hfour := (length_ofNat_le_iff (n := n) (show 0 < 4 by decide)).mpr (by omega)
  have hthree := (length_ofNat_le_iff (n := n) (show 0 < 3 by decide)).not.mpr (by omega)
  omega

theorem exists_padded_two {n : ℕ} (h : n < 100) : ∃ a b, Text.padded 2 n = [a, b] :=
  List.length_eq_two.mp (length_padded (by decide) h)

/-- All parts of a local time but its year are written with two digits. -/
theorem LocalTime.exists_padded (t : LocalTime) :
    (∃ a b, Text.padded 2 t.date.month = [a, b]) ∧ (∃ a b, Text.padded 2 t.date.day = [a, b]) ∧
    (∃ a b, Text.padded 2 t.time.hour = [a, b]) ∧ (∃ a b, Text.padded 2 t.time.minute = [a, b]) ∧
    ∃ a b, Text.padded 2 t.time.second = [a, b] := by
  have hmonth := t.date.month_mem
  have hday := t.date.day_le
  have hhour := t.time.hour_lt
  have hminute := t.time.minute_lt
  have hsecond := t.time.second_lt
  exact ⟨exists_padded_two (by omega), exists_padded_two (by omega), exists_padded_two (by omega),
    exists_padded_two (by omega), exists_padded_two (by omega)⟩

theorem isBlank_of_isDigit {c : Char} (h : c.isDigit = true) : isBlank c = false := by
  rw [isDigit_iff_toNat] at h
  unfold isBlank
  simp only [Bool.or_eq_false_iff, Bool.and_eq_false_iff, decide_eq_false_iff_not, beq_eq_false_iff_ne]
  omega

/-- Nothing is trimmed off a text with a digit at either end, and behind it only the end is. -/
theorem trim_append_of_isDigits {s first last : Text} (hfirst : first <+: s) (hlast : last <:+ s)
    (hd : IsDigits first) (hd' : IsDigits last) (hne : first ≠ []) (hne' : last ≠ []) (tail : Text) :
    (s ++ tail).trim = s ++ Text.trimEnd isBlank tail := by
  apply Text.trim_append_of_visible
  · intro c hc
    obtain ⟨rest, rfl⟩ := hfirst
    rw [List.head?_append_of_ne_nil _ hne] at hc
    exact isBlank_of_isDigit (hd c (List.mem_of_mem_head? hc))
  · intro c hc
    obtain ⟨rest, rfl⟩ := hlast
    rw [List.getLast?_append_of_ne_nil _ hne'] at hc
    exact isBlank_of_isDigit (hd' c (List.mem_of_getLast? hc))
  · intro hnil
    rw [hnil] at hfirst
    exact hne (List.prefix_nil.mp hfirst)

theorem trim_of_isDigits {s first last : Text} (hfirst : first <+: s) (hlast : last <:+ s)
    (hd : IsDigits first) (hd' : IsDigits last) (hne : first ≠ []) (hne' : last ≠ []) : s.trim = s := by
  have h := trim_append_of_isDigits hfirst hlast hd hd' hne hne' []
  simpa [Text.trimEnd] using h

theorem slash_not_mem_of_isDigits {t : Text} (h : IsDigits t) : '/' ∉ t := fun hmem =>
  absurd (h _ hmem) (by decide)

/-! ## Fields -/

theorem Date.of?_eq_some_iff {year month day : ℕ} {d : Date} :
    Date.of? year month day = some d ↔ year = d.year ∧ month = d.month ∧ day = d.day := by
  constructor
  · intro h
    unfold Date.of? at h
    split at h
    · split at h
      · split at h
        · cases h
          exact ⟨rfl, rfl, rfl⟩
        · cases h
      · cases h
    · cases h
  · rintro ⟨rfl, rfl, rfl⟩
    unfold Date.of?
    rw [dif_pos d.year_mem, dif_pos d.month_mem, dif_pos d.day_mem]

theorem TimeOfDay.of?_eq_some_iff {hour minute second microsecond : ℕ} {t : TimeOfDay} :
    TimeOfDay.of? hour minute second microsecond = some t ↔
      hour = t.hour ∧ minute = t.minute ∧ second = t.second ∧ microsecond = t.microsecond := by
  constructor
  · intro h
    unfold TimeOfDay.of? at h
    split at h
    · split at h
      · split at h
        · split at h
          · cases h
            exact ⟨rfl, rfl, rfl, rfl⟩
          · cases h
        · cases h
      · cases h
    · cases h
  · rintro ⟨rfl, rfl, rfl, rfl⟩
    unfold TimeOfDay.of?
    rw [dif_pos t.hour_lt, dif_pos t.minute_lt, dif_pos t.second_lt, dif_pos t.microsecond_lt]

/-- **The fields are read as the time whose numbers they are**, a whole second of the stations' clock. -/
theorem toInstant?_eq_some_iff {f : StampFields} {t : Instant} :
    f.toInstant? = some t ↔ t.zone = .station ∧ t.localTime.time.microsecond = 0 ∧
      asciiNumber? f.year = some t.localTime.date.year ∧
      asciiNumber? f.month = some t.localTime.date.month ∧
      asciiNumber? f.day = some t.localTime.date.day ∧
      asciiNumber? f.hour = some t.localTime.time.hour ∧
      asciiNumber? f.minute = some t.localTime.time.minute ∧
      asciiNumber? f.second = some t.localTime.time.second := by
  unfold StampFields.toInstant?
  simp only [Option.bind_eq_bind, Option.bind_eq_some_iff, Option.pure_def, Option.some.injEq,
    Date.of?_eq_some_iff, TimeOfDay.of?_eq_some_iff]
  constructor
  · rintro ⟨_, hyear, _, hmonth, _, hday, _, hhour, _, hminute, _, hsecond, date, ⟨rfl, rfl, rfl⟩,
      time, ⟨rfl, rfl, rfl, hwhole⟩, rfl⟩
    exact ⟨rfl, hwhole.symm, hyear, hmonth, hday, hhour, hminute, hsecond⟩
  · rintro ⟨hzone, hwhole, hyear, hmonth, hday, hhour, hminute, hsecond⟩
    exact ⟨_, hyear, _, hmonth, _, hday, _, hhour, _, hminute, _, hsecond, _, ⟨rfl, rfl, rfl⟩,
      _, ⟨rfl, rfl, rfl, hwhole.symm⟩, by rw [← hzone]⟩

/-- The fields of a local time as they are written. -/
def StampFields.ofTime (t : LocalTime) : StampFields :=
  ⟨Text.ofNat t.date.year, Text.padded 2 t.date.month, Text.padded 2 t.date.day,
    Text.padded 2 t.time.hour, Text.padded 2 t.time.minute, Text.padded 2 t.time.second⟩

theorem toInstant?_ofTime {t : LocalTime} (h : t.time.microsecond = 0) :
    (StampFields.ofTime t).toInstant? = some ⟨t, .station⟩ :=
  toInstant?_eq_some_iff.mpr ⟨rfl, h, asciiNumber?_ofNat _, asciiNumber?_padded _ _,
    asciiNumber?_padded _ _, asciiNumber?_padded _ _, asciiNumber?_padded _ _, asciiNumber?_padded _ _⟩

/-! ## Timestamps -/

namespace Instant

/-- What the reader takes a written year for: two digits belong to the century, and four stand for
    themselves. -/
def stampYear? (year : Text) : Option Text :=
  if year.length = 2 then some (centuryText ++ year)
  else if year.length = 4 then some year
  else none

/-- **The year decides the form**, whatever the style. -/
theorem stampFields?_stampText (style : StampStyle) (t : Instant) :
    stampFields? (stampText style t) = (stampYear? (Text.ofNat t.localTime.date.year)).map fun year =>
      { StampFields.ofTime t.localTime with year := year } := by
  obtain ⟨⟨m₁, m₂, hm⟩, ⟨d₁, d₂, hd⟩, ⟨h₁, h₂, hh⟩, ⟨i₁, i₂, hi⟩, ⟨s₁, s₂, hs⟩⟩ :=
    t.localTime.exists_padded
  -- a year of one or of three digits makes a length that no form has
  have hyear := exists_ofNat_of_le t.localTime.date.year_mem.2
  cases style with
  | colon =>
    have hslash : '/' ∉ stampText .colon t := by
      simp only [stampText, List.mem_append, List.mem_cons, not_or]
      simp only [slash_not_mem_of_isDigits (isDigits_ofNat _),
        slash_not_mem_of_isDigits (isDigits_padded _ _)]
      decide
    rw [stampFields?, if_neg hslash]
    simp only [stampText, StampFields.ofTime, hm, hd, hh, hi, hs]
    rcases hyear with ⟨a, hy⟩ | ⟨a, b, hy⟩ | ⟨a, b, c, hy⟩ | ⟨a, b, c, d, hy⟩ <;> rw [hy] <;> rfl
  | slash =>
    have hslash : '/' ∈ stampText .slash t := by
      simp [stampText]
    rw [stampFields?, if_pos hslash]
    simp only [stampText, StampFields.ofTime, hm, hd, hh, hi, hs]
    rcases hyear with ⟨a, hy⟩ | ⟨a, b, hy⟩ | ⟨a, b, c, hy⟩ | ⟨a, b, c, d, hy⟩ <;> rw [hy] <;> rfl

/-- A timestamp begins with its year, without zeros in front. -/
theorem year_prefix_stampText (style : StampStyle) (t : Instant) :
    Text.ofNat t.localTime.date.year <+: stampText style t := by
  cases style with
  | colon =>
    simp only [stampText, List.append_assoc]
    exact List.prefix_append _ _
  | slash =>
    simp only [stampText, List.append_assoc]
    exact List.prefix_append _ _

/-- It ends with its seconds. -/
theorem second_suffix_stampText (style : StampStyle) (t : Instant) :
    Text.padded 2 t.localTime.time.second <:+ stampText style t := by
  cases style with
  | colon =>
    simp only [stampText]
    rw [List.append_cons]
    exact List.suffix_append _ _
  | slash => exact List.suffix_append _ _

theorem trim_stampText (style : StampStyle) (t : Instant) :
    (stampText style t).trim = stampText style t :=
  trim_of_isDigits (year_prefix_stampText style t) (second_suffix_stampText style t) (isDigits_ofNat _)
    (isDigits_padded _ _) (ofNat_ne_nil _) (padded_ne_nil _ _)

/-- **Both styles are read alike**, years of any number of digits included. -/
theorem ofStamp?_stampText_congr (style style' : StampStyle) (t : Instant) :
    ofStamp? (stampText style t) = ofStamp? (stampText style' t) := by
  simp only [ofStamp?, trim_stampText, stampFields?_stampText]

/-- **A written timestamp is read back**, to the second. -/
theorem ofStamp?_stampText (style : StampStyle) {t : Instant} (hzone : t.zone = .station)
    (hwhole : t.localTime.time.microsecond = 0) (hyear : 1000 ≤ t.localTime.date.year) :
    ofStamp? (stampText style t) = some t := by
  have hfour := length_ofNat_four hyear t.localTime.date.year_mem.2
  have hself : stampYear? (Text.ofNat t.localTime.date.year) = some (Text.ofNat t.localTime.date.year) := by
    rw [stampYear?, if_neg (by omega), if_pos hfour]
  rw [ofStamp?, trim_stampText, stampFields?_stampText, hself, Option.map_some, Option.bind_some]
  exact (toInstant?_ofTime hwhole).trans (by rw [← hzone])

/-- What is read is a whole second of the stations' clock. -/
theorem station_of_ofStamp? {token : Text} {t : Instant} (h : ofStamp? token = some t) :
    t.zone = .station ∧ t.localTime.time.microsecond = 0 := by
  obtain ⟨fields, _, h⟩ := Option.bind_eq_some_iff.mp h
  obtain ⟨hzone, hwhole, _⟩ := toInstant?_eq_some_iff.mp h
  exact ⟨hzone, hwhole⟩

end Instant

end WeatherTelegram
