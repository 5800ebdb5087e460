import WeatherTelegram.Proofs.Time.Stamp
import WeatherTelegram.Time.Iso

/-!
# `Proofs.Time.Iso` — a reading of a clock is read from its own text

A reading is written as a date, a time and an offset, each number in a width of its own. The reader takes
the same widths off the front, so what it needs is where date, time and offset end: the date with its
tenth character, since a hyphen and a digit stand in the fifth and the sixth, and the time with the first
sign or `Z`, since its characters are digits, colons and points. One offset is not read as it is written:
what is under a second is taken for nothing.

## Contents
- **Octets and digits.** `octets_of_ascii`, `takeNumber_padded`.
- **Times.** `clockParts?_clock`, `clockParts?_clockText`, `isoTime?_utc`, `isoTime?_signed`.
- **Dates.** `separatorPosition_date`, `isoDate?_date`.
- **Readings.** `Instant.ofIso_zuluText`.
-/

namespace WeatherTelegram

/-! ## Octets and digits -/

theorem utf8EncodeChar_of_ascii {c : Char} (h : c.toNat < 0x80) :
    (String.utf8EncodeChar c).map (fun b => Char.ofNat b.toNat) = [c] := by
  have hsize : c.utf8Size = 1 := by
    rw [Char.utf8Size_eq_one_iff, UInt32.le_iff_toNat_le]
    have hval : c.toNat = c.val.toNat := rfl
    have hmost : (127 : UInt32).toNat = 127 := rfl
    omega
  rw [String.utf8EncodeChar_eq_singleton hsize, List.map_singleton]
  have hoctet : c.val.toUInt8.toNat = c.toNat := by
    rw [UInt32.toNat_toUInt8]
    exact Nat.mod_eq_of_lt (show c.toNat < 256 by omega)
  rw [hoctet, Char.ofNat_toNat]

/-- ASCII is written as it stands. -/
theorem octets_of_ascii {t : Text} (h : ∀ c ∈ t, c.toNat < 0x80) : octets t = t := by
  induction t with
  | nil => rfl
  | cons c rest ih =>
    have hrest := ih fun d hd => h d (List.mem_cons_of_mem c hd)
    unfold octets at hrest ⊢
    rw [List.flatMap_cons, utf8EncodeChar_of_ascii (h c List.mem_cons_self), hrest]
    rfl

theorem takeAsciiDigits_append {t : Text} (h : IsDigits t) (rest : Text) :
    takeAsciiDigits t.length (t ++ rest) = some (digitValues t, rest) := by
  induction t with
  | nil => rfl
  | cons c t ih =>
    rw [List.length_cons, List.cons_append, takeAsciiDigits,
      asciiDigit?_of_isDigit (h c List.mem_cons_self), ih fun d hd => h d (List.mem_cons_of_mem c hd)]
    rfl

theorem takeAsciiDigits_padded {width n : ℕ} [NeZero width] (hn : n < 10 ^ width) (rest : Text) :
    takeAsciiDigits width (Text.padded width n ++ rest) =
      some (digitValues (Text.padded width n), rest) := by
  have h := takeAsciiDigits_append (isDigits_padded width n) rest
  rwa [length_padded (Nat.pos_of_neZero width) hn] at h

/-- A number of some width is taken off the front. -/
theorem takeNumber_padded {width n : ℕ} [NeZero width] (hn : n < 10 ^ width) (rest : Text) :
    takeNumber width (Text.padded width n ++ rest) = some (n, rest) := by
  unfold takeNumber
  rw [takeAsciiDigits_padded hn, Option.map_some]
  simp only [valueOf_padded]

/-! ## Times -/

/-- The fraction of a second, where there is one. -/
def fractionText (microsecond : ℕ) : Text :=
  if microsecond = 0 then [] else '.' :: Text.padded 6 microsecond

theorem fractionParts?_padded {n : ℕ} (hn : n < 1000000) :
    fractionParts? (Text.padded 6 n) = some (n, []) := by
  have hlength : (Text.padded 6 n).length = 6 := length_padded (Nat.pos_of_neZero 6) hn
  have htake := takeAsciiDigits_padded (show n < 10 ^ 6 from hn) []
  rw [List.append_nil] at htake
  unfold fractionParts?
  rw [hlength, Nat.min_self, htake]
  simp only [Option.bind_eq_bind, Option.bind_some, length_digitValues, hlength, Nat.sub_self,
    List.replicate_zero, List.append_nil, valueOf_padded, List.dropWhile_nil, Option.pure_def]

section

variable {h m s u : ℕ} (tail : Char)

/-- Hours are taken off the front with the colon after them. -/
theorem clockParts?_hour (hh : h < 100) {after : Text} (hne : after ≠ []) :
    clockParts? tail true 3 0 default (Text.padded 2 h ++ ':' :: after) =
      clockParts? tail true 2 1 ⟨h, 0, 0, 0⟩ after := by
  rw [clockParts?, takeNumber_padded hh]
  simp [hne]
  rfl

/-- So are minutes. -/
theorem clockParts?_minute (hm : m < 100) {after : Text} (hne : after ≠ []) :
    clockParts? tail true 2 1 ⟨h, 0, 0, 0⟩ (Text.padded 2 m ++ ':' :: after) =
      clockParts? tail true 1 2 ⟨h, m, 0, 0⟩ after := by
  rw [clockParts?, takeNumber_padded hm]
  simp [hne]

/-- They may be the last. -/
theorem clockParts?_lastMinute (hm : m < 100) :
    clockParts? tail true 2 1 ⟨h, 0, 0, 0⟩ (Text.padded 2 m) = some (⟨h, m, 0, 0⟩, tail != '\x00') := by
  have htake := takeNumber_padded (show m < 10 ^ 2 from hm) []
  rw [List.append_nil] at htake
  rw [clockParts?, htake]
  rfl

/-- Seconds come last, with or without a fraction. -/
theorem clockParts?_second (hs : s < 100) (hu : u < 1000000) :
    clockParts? tail true 1 2 ⟨h, m, 0, 0⟩ (Text.padded 2 s ++ fractionText u) =
      some (⟨h, m, s, u⟩, tail != '\x00') := by
  rw [clockParts?, takeNumber_padded hs, fractionText]
  by_cases hzero : u = 0
  · subst hzero
    rfl
  · rw [if_neg hzero]
    simp [padded_ne_nil, clockParts?, fractionParts?_padded hu]

/-- **A whole clock is read**, whatever stands behind it. -/
theorem clockParts?_clock (hh : h < 100) (hm : m < 100) (hs : s < 100) (hu : u < 1000000) :
    clockParts? tail true 3 0 default
      (Text.padded 2 h ++ ':' :: (Text.padded 2 m ++ ':' :: (Text.padded 2 s ++ fractionText u))) =
        some (⟨h, m, s, u⟩, tail != '\x00') := by
  have hsecond : Text.padded 2 s ++ fractionText u ≠ [] :=
    List.append_ne_nil_of_left_ne_nil (padded_ne_nil 2 s) _
  have hminute : Text.padded 2 m ++ ':' :: (Text.padded 2 s ++ fractionText u) ≠ [] :=
    List.append_ne_nil_of_left_ne_nil (padded_ne_nil 2 m) _
  rw [clockParts?_hour tail hh hminute, clockParts?_minute tail hm hsecond, clockParts?_second tail hs hu]

end

/-- The length of an offset is read, of whole minutes as well as of less. -/
theorem clockParts?_clockText {n : ℕ} (hn : n < microsecondsPerDay) :
    clockParts? '\x00' true 3 0 default (clockText n) =
      some (⟨n / 3600000000, n / 60000000 % 60, n / 1000000 % 60, n % 1000000⟩, false) := by
  unfold microsecondsPerDay at hn
  have hminutes : n / 60000000 % 60 < 60 := by omega
  have hseconds : n / 1000000 % 60 < 60 := by omega
  have hparts : n % 1000000 < 1000000 := by omega
  unfold clockText
  by_cases hwhole : n % 60000000 = 0
  · rw [if_pos hwhole, List.append_nil, clockParts?_hour _ (by omega) (padded_ne_nil 2 _),
      clockParts?_lastMinute _ (by omega)]
    have hsecond : n / 1000000 % 60 = 0 := by omega
    have hpart : n % 1000000 = 0 := by omega
    rw [hsecond, hpart]
    rfl
  · rw [if_neg hwhole, List.append_assoc, List.cons_append]
    exact clockParts?_clock '\x00' (by omega) (by omega) (by omega) hparts

/-! ## Zones -/

/-- All characters belong to a time: digits, colons and points. -/
def IsClockText (t : Text) : Prop := ∀ c ∈ t, c.isDigit = true ∨ c = ':' ∨ c = '.'

theorem isClockText_padded (width n : ℕ) : IsClockText (Text.padded width n) := fun c hc =>
  .inl (isDigits_padded width n c hc)

theorem isClockText_append {s t : Text} (hs : IsClockText s) (ht : IsClockText t) : IsClockText (s ++ t) := by
  intro c hc
  rcases List.mem_append.mp hc with hc | hc
  · exact hs c hc
  · exact ht c hc

theorem isClockText_cons {c : Char} {t : Text} (hc : c = ':' ∨ c = '.') (ht : IsClockText t) :
    IsClockText (c :: t) := by
  intro d hd
  rcases List.mem_cons.mp hd with rfl | hd
  · exact .inr hc
  · exact ht d hd

theorem isClockText_fractionText (u : ℕ) : IsClockText (fractionText u) := by
  unfold fractionText
  split
  · exact fun c hc => absurd hc List.not_mem_nil
  · exact isClockText_cons (.inr rfl) (isClockText_padded 6 u)

theorem isClockText_clockText (n : ℕ) : IsClockText (clockText n) := by
  unfold clockText
  refine isClockText_append (isClockText_append (isClockText_padded 2 _)
    (isClockText_cons (.inl rfl) (isClockText_padded 2 _))) ?_
  split
  · exact fun c hc => absurd hc List.not_mem_nil
  · exact isClockText_append (isClockText_cons (.inl rfl) (isClockText_padded 2 _))
      (isClockText_fractionText _)

theorem lt_of_isDigit {c : Char} (h : c.isDigit = true) : c.toNat < 0x80 := by
  rw [isDigit_iff_toNat] at h
  omega

theorem IsClockText.lt {t : Text} (h : IsClockText t) : ∀ c ∈ t, c.toNat < 0x80 := by
  intro c hc
  rcases h c hc with hc | rfl | rfl
  · exact lt_of_isDigit hc
  · decide
  · decide

/-- No character of a time is one of those that end it. -/
theorem IsClockText.not_mark {t : Text} (h : IsClockText t) :
    ∀ c ∈ t, (!(c == '+' || c == '-' || c == 'Z')) = true := by
  intro c hc
  rcases h c hc with hc | rfl | rfl
  · simp only [Bool.not_eq_true', Bool.or_eq_false_iff, beq_eq_false_iff_ne]
    refine ⟨⟨?_, ?_⟩, ?_⟩
    · rintro rfl
      cases hc
    · rintro rfl
      cases hc
    · rintro rfl
      cases hc
  · rfl
  · rfl

section

variable {t : Text} {parts : ClockParts}

/-- A time in universal time. -/
theorem isoTime?_utc (ht : IsClockText t)
    (hparts : clockParts? 'Z' true 3 0 default t = some (parts, true)) :
    isoTime? (t ++ ['Z']) = some (parts, some 0) := by
  unfold isoTime?
  simp only
  rw [List.takeWhile_append_of_pos ht.not_mark, List.dropWhile_append_of_pos ht.not_mark]
  simp [hparts]

/-- A time with a signed offset, which is not under a second. -/
theorem isoTime?_signed (ht : IsClockText t) (negative : Bool) {n : ℕ} (hn : n < microsecondsPerDay)
    (hsecond : n = 0 ∨ 1000000 ≤ n)
    (hparts : ∀ tail, tail ≠ '\x00' → clockParts? tail true 3 0 default t = some (parts, true)) :
    isoTime? (t ++ (if negative then '-' else '+') :: clockText n) =
      some (parts, some (if negative then -(n : ℤ) else n)) := by
  have hsize : (if (n / 3600000000 * 60 + n / 60000000 % 60) * 60 + n / 1000000 % 60 = 0 then 0
      else ((n / 3600000000 * 60 + n / 60000000 % 60) * 60 + n / 1000000 % 60) * 1000000 + n % 1000000) =
        n := by
    split
    · omega
    · omega
  unfold isoTime?
  simp only
  rw [List.takeWhile_append_of_pos ht.not_mark, List.dropWhile_append_of_pos ht.not_mark]
  cases negative with
  | false =>
    rw [if_neg Bool.false_ne_true, List.takeWhile_cons_of_neg (by decide), List.append_nil,
      List.dropWhile_cons_of_neg (by decide)]
    simp only [hparts '+' (by decide), clockParts?_clockText hn, Option.bind_eq_bind, Option.bind_some, hsize]
    rfl
  | true =>
    rw [if_pos rfl, List.takeWhile_cons_of_neg (by decide), List.append_nil,
      List.dropWhile_cons_of_neg (by decide)]
    simp only [hparts '-' (by decide), clockParts?_clockText hn, Option.bind_eq_bind, Option.bind_some, hsize]
    rfl

end

/-! ## Dates -/

/-- A date, with hyphens between its parts. -/
def Date.text (d : Date) : Text :=
  Text.padded 4 d.year ++ '-' :: (Text.padded 2 d.month ++ '-' :: Text.padded 2 d.day)

/-- A date has ten characters, with a hyphen in the fifth place and a digit in the sixth. -/
theorem Date.exists_text (d : Date) : ∃ y₁ y₂ y₃ y₄ m₁ m₂ d₁ d₂,
    Text.padded 4 d.year = [y₁, y₂, y₃, y₄] ∧ Text.padded 2 d.month = [m₁, m₂] ∧
      Text.padded 2 d.day = [d₁, d₂] ∧ m₁ ≠ 'W' ∧
      d.text = [y₁, y₂, y₃, y₄, '-', m₁, m₂, '-', d₁, d₂] := by
  obtain ⟨⟨m₁, m₂, hmonth⟩, ⟨d₁, d₂, hday⟩, _⟩ := LocalTime.exists_padded ⟨d, .midnight⟩
  obtain ⟨y₁, y₂, y₃, y₄, hyear⟩ := List.length_eq_four.mp
    (length_padded (Nat.pos_of_neZero 4) (show d.year < 10 ^ 4 from Nat.lt_succ_of_le d.year_mem.2))
  have hdigit : m₁.isDigit = true := isDigits_padded 2 d.month m₁ (by simp [hmonth])
  refine ⟨y₁, y₂, y₃, y₄, m₁, m₂, d₁, d₂, hyear, hmonth, hday, ?_, ?_⟩
  · rintro rfl
    cases hdigit
  · simp [Date.text, hyear, hmonth, hday]

theorem separatorPosition_date (d : Date) (rest : Text) : separatorPosition (d.text ++ rest) = some 10 := by
  obtain ⟨_, _, _, _, m₁, _, _, _, _, _, _, hne, htext⟩ := d.exists_text
  rw [htext]
  simp [separatorPosition, hne]

/-- **A date is read**, by its hyphens and by their places. -/
theorem isoDate?_date (d : Date) : isoDate? d.text = some (d.year, d.month, d.day) := by
  have hyear : d.year < 10 ^ 4 := Nat.lt_succ_of_le d.year_mem.2
  have hmonth : d.month < 10 ^ 2 := by
    have := d.month_mem
    omega
  have hday : d.day < 10 ^ 2 := by
    have := d.day_le
    omega
  obtain ⟨_, _, _, _, m₁, m₂, _, _, _, hmonthText, _, hne, _⟩ := d.exists_text
  have htakeMonth := takeNumber_padded hmonth ('-' :: Text.padded 2 d.day)
  have htakeDay := takeNumber_padded hday []
  rw [hmonthText] at htakeMonth
  rw [List.append_nil] at htakeDay
  unfold isoDate? Date.text
  rw [takeNumber_padded hyear, hmonthText]
  -- no week date begins with the digit of a month
  simp only [Option.bind_eq_bind, Option.bind_some, List.head?_cons, beq_self_eq_true, if_true,
    List.drop_succ_cons, List.drop_zero, List.cons_append, List.nil_append] at htakeMonth ⊢
  split
  · rename_i heq
    exact absurd (List.head_eq_of_cons_eq heq) hne
  · simp [htakeMonth, takeHyphen, htakeDay]

/-! ## Readings -/

theorem Date.ascii_text (d : Date) : ∀ c ∈ d.text, c.toNat < 0x80 := by
  intro c hc
  simp only [Date.text, List.mem_append, List.mem_cons] at hc
  rcases hc with hc | rfl | hc | rfl | hc
  · exact lt_of_isDigit (isDigits_padded _ _ c hc)
  · decide
  · exact lt_of_isDigit (isDigits_padded _ _ c hc)
  · decide
  · exact lt_of_isDigit (isDigits_padded _ _ c hc)

/-- The date ends with the tenth character, and the time begins after one more. -/
theorem isoParts?_of_isoTime? (d : Date) {time : Text} (hascii : ∀ c ∈ time, c.toNat < 0x80)
    {parts : ClockParts} {offset : Option ℤ} (htime : isoTime? time = some (parts, offset)) :
    isoParts? (d.text ++ 'T' :: time) = some ((d.year, d.month, d.day), parts, offset) := by
  have hoctets : octets (d.text ++ 'T' :: time) = d.text ++ 'T' :: time := by
    apply octets_of_ascii
    intro c hc
    rcases List.mem_append.mp hc with hc | hc
    · exact d.ascii_text c hc
    · rcases List.mem_cons.mp hc with rfl | hc
      · decide
      · exact hascii c hc
  have hlength : d.text.length = 10 := by
    obtain ⟨_, _, _, _, _, _, _, _, _, _, _, _, htext⟩ := d.exists_text
    rw [htext]
    rfl
  have hseven : ¬ (d.text ++ 'T' :: time).length < 7 := by
    rw [List.length_append]
    omega
  unfold isoParts?
  rw [hoctets]
  simp only [if_neg hseven, separatorPosition_date, Option.bind_eq_bind, Option.bind_some,
    List.take_left' hlength, List.drop_left' hlength, isoDate?_date]
  rw [show (if 'T'.toNat < 0x80 then 1 else if 'T'.toNat < 0xE0 then 2 else
    if 'T'.toNat < 0xF0 then 3 else 4) = 1 from rfl]
  simp only [Nat.sub_self, List.drop_zero, htime, Option.bind_some]
  rfl

/-- The numbers of a time of day. -/
def TimeOfDay.parts (t : TimeOfDay) : ClockParts := ⟨t.hour, t.minute, t.second, t.microsecond⟩

/-- A time of day as it is written. -/
def TimeOfDay.text (t : TimeOfDay) : Text :=
  Text.padded 2 t.hour ++ ':' :: (Text.padded 2 t.minute ++
    ':' :: (Text.padded 2 t.second ++ fractionText t.microsecond))

theorem TimeOfDay.isClockText_text (t : TimeOfDay) : IsClockText t.text :=
  isClockText_append (isClockText_padded 2 _) <| isClockText_cons (.inl rfl) <|
    isClockText_append (isClockText_padded 2 _) <| isClockText_cons (.inl rfl) <|
      isClockText_append (isClockText_padded 2 _) (isClockText_fractionText _)

theorem TimeOfDay.clockParts?_text (t : TimeOfDay) (tail : Char) :
    clockParts? tail true 3 0 default t.text = some (t.parts, tail != '\x00') := by
  have hhour := t.hour_lt
  have hminute := t.minute_lt
  have hsecond := t.second_lt
  exact clockParts?_clock tail (by omega) (by omega) (by omega) t.microsecond_lt

theorem LocalTime.isoText_eq (t : LocalTime) : t.isoText = t.date.text ++ 'T' :: t.time.text := by
  simp [LocalTime.isoText, Date.text, TimeOfDay.text, fractionText]

namespace Instant

/-- What follows a date and its letter is read as the time and the offset. -/
theorem ofIso_of_isoTime? {t : LocalTime} {zone : Text} (hascii : ∀ c ∈ zone, c.toNat < 0x80) {offset : ℤ}
    (hlt : offset.natAbs < microsecondsPerDay)
    (hzone : isoTime? (t.time.text ++ zone) = some (t.time.parts, some offset)) :
    ofIso (t.isoText ++ zone) = .ok ⟨t, .fixed offset⟩ := by
  have hdate : checkedDate t.date.year t.date.month t.date.day = .ok t.date := by
    have hyear := t.date.year_mem
    have hmonth := t.date.month_mem
    unfold checkedDate
    rw [if_neg (by omega), if_neg (by omega), Date.of?_eq_some_iff.mpr ⟨rfl, rfl, rfl⟩]
  have htime : checkedTime t.time.parts = .ok t.time := by
    unfold checkedTime TimeOfDay.parts
    rw [if_neg (Nat.not_le.mpr t.time.hour_lt), if_neg (Nat.not_le.mpr t.time.minute_lt),
      TimeOfDay.of?_eq_some_iff.mpr ⟨rfl, rfl, rfl, rfl⟩]
  have hascii' : ∀ c ∈ t.time.text ++ zone, c.toNat < 0x80 := by
    intro c hc
    rcases List.mem_append.mp hc with hc | hc
    · exact t.time.isClockText_text.lt c hc
    · exact hascii c hc
  rw [t.isoText_eq, List.append_assoc, List.cons_append]
  unfold ofIso
  rw [isoParts?_of_isoTime? t.date hascii' hzone]
  simp only [checkedZone, if_pos hlt, hdate, htime]
  rfl

/-- **A reading is read from its own text**, with the offset of its clock, unless that is under a second. -/
theorem ofIso_zuluText {t : Instant} {offset : ℤ} (hoffset : t.zone.offset? = some offset)
    (hlt : offset.natAbs < microsecondsPerDay) (hsecond : offset = 0 ∨ 1000000 ≤ offset.natAbs) :
    ofIso t.zuluText = .ok ⟨t.localTime, .fixed offset⟩ := by
  have hclock := t.localTime.time.isClockText_text
  have hparts := t.localTime.time.clockParts?_text
  unfold zuluText
  by_cases hzero : offset = 0
  · subst hzero
    rw [if_pos hoffset]
    exact ofIso_of_isoTime? (by simp) hlt (isoTime?_utc hclock (hparts 'Z'))
  · have hnotUtc : t.zone.offset? ≠ some 0 := by
      rw [hoffset]
      exact fun h => hzero (Option.some.inj h)
    have htext : t.zone.text = (if decide (offset < 0) then '-' else '+') :: clockText offset.natAbs := by
      unfold Zone.text
      rw [hoffset]
      simp
    have hopen : ∀ tail, tail ≠ '\x00' →
        clockParts? tail true 3 0 default t.localTime.time.text = some (t.localTime.time.parts, true) := by
      intro tail htail
      rw [hparts tail, bne_iff_ne.mpr htail]
    have htime := isoTime?_signed hclock (decide (offset < 0)) hlt (by omega) hopen
    rw [signed_natAbs] at htime
    rw [if_neg hnotUtc, isoText, htext]
    apply ofIso_of_isoTime? _ hlt htime
    intro c hc
    rcases List.mem_cons.mp hc with rfl | hc
    · split <;> decide
    · exact (isClockText_clockText _).lt c hc

end Instant

end WeatherTelegram
