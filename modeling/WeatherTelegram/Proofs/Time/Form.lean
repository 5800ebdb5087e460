import WeatherTelegram.Proofs.Time.Stamp

/-!
# `Proofs.Time.Form` — the four forms of a timestamp, and nothing else

A token is read if, without the blanks around it, it has the length of one of four forms, the slash
where the form has it and nowhere in the others, and at the places of the form the numbers of a local
time: two digits each, the year four, of which the short forms leave out the century. The places fit the
length, so that each of them holds the whole number, filled up with zeros. What stands between the places,
and behind the last of a parted form, is not looked at.

## Contents
- `StampForm`, `StampForm.Admits`: where a form has its numbers, and which texts have the form.
- `StampForm.fields`, `stampFields?_eq_some_iff`: the form of a text, and what is read from it.
- `StampForm.Spells`, `toInstant?_fields_iff`: a local time spelled out at the places of a form.
- `Separators`, `LocalTime.parted`, `LocalTime.joined`: the spellings of a local time.
- `ofStamp?_forms`: a token is read in its four forms, and every spelling of a time is read as that time.
-/

namespace WeatherTelegram

/-! ## Forms -/

/-- A form of timestamps: the digits of the year that it leaves out, how many it has, and the places at
    which the other numbers begin. -/
structure StampForm where
  century : Text
  yearWidth : ℕ
  month : ℕ
  day : ℕ
  hour : ℕ
  minute : ℕ
  second : ℕ

namespace StampForm

/-- One character between any two numbers, and a year of this century in two digits. -/
def shortParted : StampForm := ⟨centuryText, 2, 3, 6, 9, 12, 15⟩

/-- One character between any two numbers. -/
def parted : StampForm := ⟨[], 4, 5, 8, 11, 14, 17⟩

/-- A slash between date and time, and a year of this century in two digits. -/
def shortJoined : StampForm := ⟨centuryText, 2, 2, 4, 7, 9, 11⟩

/-- A slash between date and time. -/
def joined : StampForm := ⟨[], 4, 4, 6, 9, 11, 13⟩

/-- The texts of a form, told by their length and by the slash. -/
inductive Admits : StampForm → Text → Prop
  | shortParted {s : Text} (hslash : '/' ∉ s) (hlength : s.length = 17) : Admits shortParted s
  | parted {s : Text} (hslash : '/' ∉ s) (hlength : 19 ≤ s.length) : Admits parted s
  | shortJoined {s : Text} (hlength : s.length = 13) (hslash : s[6]? = some '/') : Admits shortJoined s
  | joined {s : Text} (hlength : s.length = 15) (hslash : s[8]? = some '/') : Admits joined s

/-- What stands at the places of the form. -/
def fields (form : StampForm) (s : Text) : StampFields :=
  ⟨form.century ++ s.slice 0 form.yearWidth, s.slice form.month (form.month + 2),
    s.slice form.day (form.day + 2), s.slice form.hour (form.hour + 2),
    s.slice form.minute (form.minute + 2), s.slice form.second (form.second + 2)⟩

/-- The numbers of a local time stand at the places of the form, with zeros in front of the short ones. -/
structure Spells (form : StampForm) (s : Text) (t : LocalTime) : Prop where
  year : form.century ++ s.slice 0 form.yearWidth = Text.padded 4 t.date.year
  month : s.slice form.month (form.month + 2) = Text.padded 2 t.date.month
  day : s.slice form.day (form.day + 2) = Text.padded 2 t.date.day
  hour : s.slice form.hour (form.hour + 2) = Text.padded 2 t.time.hour
  minute : s.slice form.minute (form.minute + 2) = Text.padded 2 t.time.minute
  second : s.slice form.second (form.second + 2) = Text.padded 2 t.time.second

end StampForm

open StampForm (Admits Spells)

/-- **The form of a text decides what is read from it.** -/
theorem stampFields?_eq_some_iff {s : Text} {f : StampFields} :
    stampFields? s = some f ↔ ∃ form, Admits form s ∧ f = form.fields s := by
  constructor
  · intro h
    unfold stampFields? at h
    split at h
    · split at h
      · split at h
        · exact ⟨_, .shortJoined ‹_› ‹_›, (Option.some.inj h).symm⟩
        · cases h
      · split at h
        · obtain ⟨hlength, hslash⟩ := ‹s.length = 15 ∧ s[8]? = some '/'›
          exact ⟨_, .joined hlength hslash, (Option.some.inj h).symm⟩
        · cases h
    · split at h
      · exact ⟨_, .shortParted ‹_› ‹_›, (Option.some.inj h).symm⟩
      · split at h
        · cases h
        · exact ⟨_, .parted ‹_› (by omega), (Option.some.inj h).symm⟩
  · rintro ⟨form, hform, rfl⟩
    unfold stampFields?
    cases hform with
    | shortParted hslash hlength =>
      rw [if_neg hslash, if_pos hlength]
      rfl
    | parted hslash hlength =>
      rw [if_neg hslash, if_neg (by omega), if_neg (by omega)]
      rfl
    | shortJoined hlength hslash =>
      rw [if_pos (List.mem_of_getElem? hslash), if_pos hlength, if_pos hslash]
      rfl
    | joined hlength hslash =>
      rw [if_pos (List.mem_of_getElem? hslash), if_neg (by omega), if_pos ⟨hlength, hslash⟩]
      rfl

/-! ## Local times -/

theorem length_slice {s : Text} {start stop : ℕ} (h : stop ≤ s.length) :
    (s.slice start stop).length = stop - start := by
  rw [Text.slice, List.length_drop, List.length_take, Nat.min_eq_left h]

theorem StampForm.Admits.length_year {form : StampForm} {s : Text} (h : Admits form s) :
    (form.century ++ s.slice 0 form.yearWidth).length = 4 := by
  have hend : form.yearWidth ≤ s.length := by
    cases h with
    | shortParted _ hlength => exact hlength ▸ (by decide : 2 ≤ 17)
    | parted _ hlength => exact le_trans (by decide : 4 ≤ 19) hlength
    | shortJoined hlength _ => exact hlength ▸ (by decide : 2 ≤ 13)
    | joined hlength _ => exact hlength ▸ (by decide : 4 ≤ 15)
  rw [List.length_append, length_slice hend]
  cases h <;> rfl

/-- A text of a form is long enough for all of its numbers. -/
theorem StampForm.Admits.length_slice {form : StampForm} {s : Text} {place : ℕ} (h : Admits form s)
    (hplace : place ∈ [form.month, form.day, form.hour, form.minute, form.second]) :
    (s.slice place (place + 2)).length = 2 := by
  have hend : place + 2 ≤ s.length := by
    cases h with
    | shortParted _ hlength =>
      exact hlength ▸ (by decide : ∀ place ∈ [3, 6, 9, 12, 15], place + 2 ≤ 17) place hplace
    | parted _ hlength =>
      exact le_trans ((by decide : ∀ place ∈ [5, 8, 11, 14, 17], place + 2 ≤ 19) place hplace) hlength
    | shortJoined hlength _ =>
      exact hlength ▸ (by decide : ∀ place ∈ [2, 4, 7, 9, 11], place + 2 ≤ 13) place hplace
    | joined hlength _ =>
      exact hlength ▸ (by decide : ∀ place ∈ [4, 6, 9, 11, 13], place + 2 ≤ 15) place hplace
  rw [WeatherTelegram.length_slice hend]
  omega

/-- **What a form is read as.** -/
theorem toInstant?_fields_iff {form : StampForm} {s : Text} (h : Admits form s) {t : Instant} :
    (form.fields s).toInstant? = some t ↔
      t.zone = .station ∧ t.localTime.time.microsecond = 0 ∧ Spells form s t.localTime := by
  have hnumber {place n : ℕ}
      (hplace : place ∈ [form.month, form.day, form.hour, form.minute, form.second]) :
      asciiNumber? (s.slice place (place + 2)) = some n ↔ s.slice place (place + 2) = Text.padded 2 n :=
    asciiNumber?_eq_some_iff (by decide) (h.length_slice hplace)
  rw [toInstant?_eq_some_iff, StampForm.fields,
    asciiNumber?_eq_some_iff (by decide) h.length_year, hnumber (by simp), hnumber (by simp),
    hnumber (by simp), hnumber (by simp), hnumber (by simp)]
  constructor
  · rintro ⟨hzone, hwhole, hyear, hmonth, hday, hhour, hminute, hsecond⟩
    exact ⟨hzone, hwhole, hyear, hmonth, hday, hhour, hminute, hsecond⟩
  · rintro ⟨hzone, hwhole, hyear, hmonth, hday, hhour, hminute, hsecond⟩
    exact ⟨hzone, hwhole, hyear, hmonth, hday, hhour, hminute, hsecond⟩

/-- **A token is read in its four forms and in no other.** -/
theorem Instant.ofStamp?_eq_some_iff {token : Text} {t : Instant} :
    ofStamp? token = some t ↔ t.zone = .station ∧ t.localTime.time.microsecond = 0 ∧
      ∃ form, Admits form token.trim ∧ Spells form token.trim t.localTime := by
  unfold ofStamp?
  rw [Option.bind_eq_some_iff]
  constructor
  · rintro ⟨f, hf, ht⟩
    obtain ⟨form, hform, rfl⟩ := stampFields?_eq_some_iff.mp hf
    obtain ⟨hzone, hwhole, hspells⟩ := (toInstant?_fields_iff hform).mp ht
    exact ⟨hzone, hwhole, form, hform, hspells⟩
  · rintro ⟨hzone, hwhole, form, hform, hspells⟩
    exact ⟨_, stampFields?_eq_some_iff.mpr ⟨form, hform, rfl⟩,
      (toInstant?_fields_iff hform).mpr ⟨hzone, hwhole, hspells⟩⟩

/-! ## Spellings -/

/-- What stands between the numbers of a parted form: anything but a slash. -/
structure Separators where
  afterYear : Char
  afterMonth : Char
  afterDay : Char
  afterHour : Char
  afterMinute : Char
  free : '/' ∉ [afterYear, afterMonth, afterDay, afterHour, afterMinute]

namespace LocalTime

/-- The last two digits of the year. -/
def shortYear (t : LocalTime) : Text := Text.padded 2 (t.date.year % 100)

/-- The digits of the year. -/
def longYear (t : LocalTime) : Text := Text.padded 4 t.date.year

/-- The parts of a time behind its year, with a separator between any two. -/
def parted (t : LocalTime) (year : Text) (c : Separators) : Text :=
  year ++ [c.afterYear] ++ Text.padded 2 t.date.month ++ [c.afterMonth] ++ Text.padded 2 t.date.day ++
    [c.afterDay] ++ Text.padded 2 t.time.hour ++ [c.afterHour] ++ Text.padded 2 t.time.minute ++
    [c.afterMinute] ++ Text.padded 2 t.time.second

/-- The date behind its year and the time of day, with a slash between them. -/
def joined (t : LocalTime) (year : Text) : Text :=
  year ++ Text.padded 2 t.date.month ++ Text.padded 2 t.date.day ++ ['/'] ++
    Text.padded 2 t.time.hour ++ Text.padded 2 t.time.minute ++ Text.padded 2 t.time.second

/-- The year without its century, in the years 2000 to 2099. -/
theorem century_shortYear {t : LocalTime} (hfirst : 2000 ≤ t.date.year) (hlast : t.date.year ≤ 2099) :
    centuryText ++ t.shortYear = Text.padded 4 t.date.year := by
  have htwo : t.shortYear.length = 2 := length_padded (by decide) (by omega)
  have hdigits : IsDigits (centuryText ++ t.shortYear) :=
    isDigits_append (by simp [IsDigits, centuryText]) (isDigits_padded _ _)
  apply (asciiNumber?_eq_some_iff (by decide) (by rw [List.length_append, htwo]; rfl)).mp
  have hvalue : valueOf (digitValues (centuryText ++ t.shortYear)) = t.date.year := calc
    _ = valueOf (digitValues centuryText) * 10 ^ (digitValues t.shortYear).length +
        valueOf (digitValues t.shortYear) := by
      rw [← valueOf_append, digitValues, digitValues, digitValues, List.map_append]
    _ = 20 * 10 ^ 2 + t.date.year % 100 := by
      rw [length_digitValues, htwo, shortYear, valueOf_padded]
      rfl
    _ = t.date.year := by omega
  rw [asciiNumber?_of_isDigits hdigits (by simp [centuryText]), hvalue]

theorem exists_shortYear (t : LocalTime) : ∃ a b, t.shortYear = [a, b] :=
  exists_padded_two (by omega)

theorem exists_longYear (t : LocalTime) : ∃ a b c d, t.longYear = [a, b, c, d] :=
  List.length_eq_four.mp (length_padded (by decide) (by have := t.date.year_mem; omega))

/-- Parted forms have no slash. -/
theorem slash_not_mem_parted {t : LocalTime} {year : Text} (hyear : IsDigits year) (c : Separators) :
    '/' ∉ t.parted year c := by
  have hfree := c.free
  simp only [List.mem_cons, List.not_mem_nil, or_false, not_or] at hfree
  simp only [parted, List.mem_append, List.mem_singleton, not_or,
    slash_not_mem_of_isDigits hyear, slash_not_mem_of_isDigits (isDigits_padded _ _)]
  tauto

theorem shortParted_spells {t : LocalTime} (hfirst : 2000 ≤ t.date.year) (hlast : t.date.year ≤ 2099)
    (c : Separators) : Admits .shortParted (t.parted t.shortYear c) ∧
      Spells .shortParted (t.parted t.shortYear c) t := by
  have hyear := century_shortYear hfirst hlast
  have hslash : '/' ∉ t.parted t.shortYear c := slash_not_mem_parted (isDigits_padded _ _) c
  obtain ⟨⟨m₁, m₂, hm⟩, ⟨d₁, d₂, hd⟩, ⟨h₁, h₂, hh⟩, ⟨i₁, i₂, hi⟩, ⟨s₁, s₂, hs⟩⟩ := t.exists_padded
  obtain ⟨a, b, hy⟩ := t.exists_shortYear
  simp only [parted, hy, hm, hd, hh, hi, hs, List.cons_append, List.nil_append] at hslash hyear ⊢
  exact ⟨.shortParted hslash rfl, hyear, hm.symm, hd.symm, hh.symm, hi.symm, hs.symm⟩

theorem parted_spells (t : LocalTime) (c : Separators) {tail : Text} (htail : '/' ∉ tail) :
    Admits .parted (t.parted t.longYear c ++ tail) ∧ Spells .parted (t.parted t.longYear c ++ tail) t := by
  have hslash : '/' ∉ t.parted t.longYear c ++ tail := by
    rw [List.mem_append, not_or]
    exact ⟨slash_not_mem_parted (isDigits_padded _ _) c, htail⟩
  obtain ⟨⟨m₁, m₂, hm⟩, ⟨d₁, d₂, hd⟩, ⟨h₁, h₂, hh⟩, ⟨i₁, i₂, hi⟩, ⟨s₁, s₂, hs⟩⟩ := t.exists_padded
  obtain ⟨y₁, y₂, y₃, y₄, hy⟩ := t.exists_longYear
  have hlength : 19 ≤ (t.parted t.longYear c ++ tail).length := by
    simp only [parted, hy, hm, hd, hh, hi, hs, List.length_append, List.length_cons, List.length_nil]
    omega
  simp only [parted, hy, hm, hd, hh, hi, hs, List.cons_append, List.nil_append] at hslash hlength ⊢
  exact ⟨.parted hslash hlength, hy.symm, hm.symm, hd.symm, hh.symm, hi.symm, hs.symm⟩

theorem shortJoined_spells {t : LocalTime} (hfirst : 2000 ≤ t.date.year) (hlast : t.date.year ≤ 2099) :
    Admits .shortJoined (t.joined t.shortYear) ∧ Spells .shortJoined (t.joined t.shortYear) t := by
  have hyear := century_shortYear hfirst hlast
  obtain ⟨⟨m₁, m₂, hm⟩, ⟨d₁, d₂, hd⟩, ⟨h₁, h₂, hh⟩, ⟨i₁, i₂, hi⟩, ⟨s₁, s₂, hs⟩⟩ := t.exists_padded
  obtain ⟨a, b, hy⟩ := t.exists_shortYear
  simp only [joined, hy, hm, hd, hh, hi, hs, List.cons_append, List.nil_append] at hyear ⊢
  exact ⟨.shortJoined rfl rfl, hyear, hm.symm, hd.symm, hh.symm, hi.symm, hs.symm⟩

theorem joined_spells (t : LocalTime) :
    Admits .joined (t.joined t.longYear) ∧ Spells .joined (t.joined t.longYear) t := by
  obtain ⟨⟨m₁, m₂, hm⟩, ⟨d₁, d₂, hd⟩, ⟨h₁, h₂, hh⟩, ⟨i₁, i₂, hi⟩, ⟨s₁, s₂, hs⟩⟩ := t.exists_padded
  obtain ⟨y₁, y₂, y₃, y₄, hy⟩ := t.exists_longYear
  simp only [joined, hy, hm, hd, hh, hi, hs, List.cons_append, List.nil_append]
  exact ⟨.joined rfl rfl, hy.symm, hm.symm, hd.symm, hh.symm, hi.symm, hs.symm⟩

/-! ### Their ends -/

theorem year_prefix_parted (t : LocalTime) (year : Text) (c : Separators) : year <+: t.parted year c := by
  simp only [parted, List.append_assoc]
  exact List.prefix_append _ _

theorem second_suffix_parted (t : LocalTime) (year : Text) (c : Separators) :
    Text.padded 2 t.time.second <:+ t.parted year c := List.suffix_append _ _

theorem year_prefix_joined (t : LocalTime) (year : Text) : year <+: t.joined year := by
  simp only [joined, List.append_assoc]
  exact List.prefix_append _ _

theorem second_suffix_joined (t : LocalTime) (year : Text) :
    Text.padded 2 t.time.second <:+ t.joined year := List.suffix_append _ _

/-- A parted spelling loses nothing but the blanks at the end of what follows it. -/
theorem trim_parted (t : LocalTime) (width n : ℕ) (c : Separators) (tail : Text) :
    (t.parted (Text.padded width n) c ++ tail).trim =
      t.parted (Text.padded width n) c ++ Text.trimEnd isBlank tail :=
  trim_append_of_isDigits (year_prefix_parted _ _ _) (second_suffix_parted _ _ _) (isDigits_padded _ _)
    (isDigits_padded _ _) (padded_ne_nil _ _) (padded_ne_nil _ _) tail

theorem trim_joined (t : LocalTime) (width n : ℕ) :
    (t.joined (Text.padded width n)).trim = t.joined (Text.padded width n) :=
  trim_of_isDigits (year_prefix_joined _ _) (second_suffix_joined _ _) (isDigits_padded _ _)
    (isDigits_padded _ _) (padded_ne_nil _ _) (padded_ne_nil _ _)

end LocalTime

namespace Instant

theorem ofStamp?_blanks {front back : Text} (hfront : ∀ c ∈ front, isBlank c = true)
    (hback : ∀ c ∈ back, isBlank c = true) (s : Text) : ofStamp? (front ++ s ++ back) = ofStamp? s := by
  unfold ofStamp?
  rw [Text.trim_append_right hback, Text.trim_append_left hfront]

theorem ofStamp?_of_spells {token s : Text} {form : StampForm} {t : LocalTime} (htrim : token.trim = s)
    (h : Admits form s ∧ Spells form s t) : ofStamp? token = some (Instant.mk t .station).wholeSecond := by
  obtain ⟨hform, hyear, hmonth, hday, hhour, hminute, hsecond⟩ := h
  exact ofStamp?_eq_some_iff.mpr ⟨rfl, rfl, form, htrim ▸ hform,
    htrim ▸ ⟨hyear, hmonth, hday, hhour, hminute, hsecond⟩⟩

/-- **A token is read in its four forms and in no other**, as the valid local time that it spells out.
    In the years of this century all spellings of a time, whatever separates their parts, surrounds them
    or follows the longest, are read as that time, to the second. -/
theorem ofStamp?_forms :
    (∀ token t, ofStamp? token = some t ↔ t.zone = .station ∧ t.localTime.time.microsecond = 0 ∧
      ∃ form, Admits form token.trim ∧ Spells form token.trim t.localTime) ∧
    ∀ t : LocalTime, 2000 ≤ t.date.year → t.date.year ≤ 2099 → ∀ front back tail : Text,
      (∀ c ∈ front, isBlank c = true) → (∀ c ∈ back, isBlank c = true) → '/' ∉ tail → ∀ c : Separators,
      ∀ s ∈ [t.parted t.shortYear c, t.parted t.longYear c, t.parted t.longYear c ++ tail,
        t.joined t.shortYear, t.joined t.longYear],
      ofStamp? (front ++ s ++ back) = some (Instant.mk t .station).wholeSecond := by
  refine ⟨fun token t => ofStamp?_eq_some_iff, ?_⟩
  intro t hfirst hlast front back tail hfront hback htail c
  -- of what follows the longest spelling, a part may be trimmed off
  have hrest : ∀ tail : Text, '/' ∉ tail →
      ofStamp? (t.parted t.longYear c ++ tail) = some (Instant.mk t .station).wholeSecond := by
    intro tail htail
    have hkept : '/' ∉ Text.trimEnd isBlank tail := fun hmem =>
      htail ((Text.trimEnd_prefix isBlank tail).subset hmem)
    exact ofStamp?_of_spells (t.trim_parted _ _ c tail) (t.parted_spells c hkept)
  have hshort : (t.parted t.shortYear c).trim = t.parted t.shortYear c := by
    have h := t.trim_parted 2 (t.date.year % 100) c []
    rw [List.append_nil] at h
    exact h.trans (List.append_nil _)
  have hlong := hrest [] List.not_mem_nil
  rw [List.append_nil] at hlong
  have hread : ∀ s ∈ [t.parted t.shortYear c, t.parted t.longYear c, t.parted t.longYear c ++ tail,
      t.joined t.shortYear, t.joined t.longYear],
      ofStamp? s = some (Instant.mk t .station).wholeSecond := by
    simp only [List.forall_mem_cons]
    refine ⟨?_, hlong, hrest tail htail, ?_, ?_, fun s hs => absurd hs List.not_mem_nil⟩
    · exact ofStamp?_of_spells hshort (LocalTime.shortParted_spells hfirst hlast c)
    · exact ofStamp?_of_spells (t.trim_joined _ _) (LocalTime.shortJoined_spells hfirst hlast)
    · exact ofStamp?_of_spells (t.trim_joined _ _) t.joined_spells
  intro s hs
  rw [ofStamp?_blanks hfront hback]
  exact hread s hs

/-- Late on the last day of a leap year. -/
def yearsEnd : LocalTime :=
  ⟨⟨2096, 12, 31, by decide, by decide, by decide⟩,
    { TimeOfDay.midnight with hour := 22, minute := 58, hour_lt := by decide, minute_lt := by decide }⟩

/-- The separators of ISO 8601. -/
def isoSeparators : Separators := ⟨'-', '-', 'T', ':', ':', by decide⟩

theorem ofStamp?_forms_yearsEnd :
    2000 ≤ yearsEnd.date.year ∧ yearsEnd.date.year ≤ 2099 ∧ (∀ c ∈ [' '], isBlank c = true) ∧
      (∀ c ∈ ['\r', '\n'], isBlank c = true) ∧ '/' ∉ ['Z', ' '] ∧
      ofStamp? ([' '] ++ (yearsEnd.parted yearsEnd.longYear isoSeparators ++ ['Z', ' ']) ++ ['\r', '\n']) =
        some ⟨yearsEnd, .station⟩ := by
  have hfront : ∀ c ∈ [' '], isBlank c = true := by simp [isBlank]
  have hback : ∀ c ∈ ['\r', '\n'], isBlank c = true := by simp [isBlank]
  have htail : '/' ∉ ['Z', ' '] := by decide
  exact ⟨by decide, by decide, hfront, hback, htail,
    ofStamp?_forms.2 yearsEnd (by decide) (by decide) _ _ _ hfront hback htail isoSeparators _ (by simp)⟩

end Instant

end WeatherTelegram
