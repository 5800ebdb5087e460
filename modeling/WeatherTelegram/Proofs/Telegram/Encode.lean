import WeatherTelegram.Proofs.Telegram.Decode
import WeatherTelegram.Proofs.Telegram.Framing

/-!
# `Proofs.Telegram.Encode` — what is written is framed safely

Numbers, voltages and timestamps are written with digits, signs and separators of their own, and texts
pass only without reserved parts. So every token that is written stands alone, the telegram begins and
ends with a zero, and reading cuts it into the very tokens that were written.

## Contents
- **Tokens.** `mem_fixedText`, `isPlain_fixedText`, `isReserved_of_write`.
- **Rows.** `mapM_eq_ok_iff`, `mapM_eq_error_iff`, `mapM_congr`, `encodeAs_eq_ok_iff`, `getLast?_of_forall₂`.
- **Telegrams.** `Writes`, `telegramOf`, `Writes.clean_telegramOf`, `Writes.outcome_decode`;
  `encode_framed`.
-/

namespace WeatherTelegram

open Binary64

/-! ## Tokens -/

theorem isPlain_singleton {c : Char} (hc : c ≠ delimiter ∧ c ≠ '>' ∧ c ≠ '%') : Text.IsPlain [c] :=
  Text.isPlain_nil.cons hc

/-- The characters of written numbers besides digits. -/
def numberMarks : List Char := ['-', '.', 'i', 'n', 'f', 'a']

theorem numberMarks_plain {c : Char} (h : c ∈ numberMarks) :
    c ≠ delimiter ∧ c ≠ '>' ∧ c ≠ '%' ∧ c ≠ '#' := by
  simp only [numberMarks, List.mem_cons, List.not_mem_nil, or_false] at h
  rcases h with rfl | rfl | rfl | rfl | rfl | rfl <;> decide

theorem mem_fixedText {x : Binary64} {c : Char} (h : c ∈ x.fixedText 2) :
    c.isDigit = true ∨ c ∈ numberMarks := by
  have hsign : ∀ s, c ∈ signText s → c ∈ numberMarks := by
    intro s hs
    cases s with
    | false => cases hs
    | true =>
      rw [List.mem_singleton.mp hs]
      decide
  cases x with
  | nan =>
    simp only [fixedText, List.mem_cons, List.not_mem_nil, or_false] at h
    rcases h with rfl | rfl | rfl <;> exact .inr (by decide)
  | infinite s =>
    rcases List.mem_append.mp h with hs | hrest
    · exact .inr (hsign s hs)
    · simp only [List.mem_cons, List.not_mem_nil, or_false] at hrest
      rcases hrest with rfl | rfl | rfl <;> exact .inr (by decide)
  | finite s m =>
    rcases List.mem_append.mp h with hs | hrest
    · exact .inr (hsign s hs)
    · rw [pointed_two, List.mem_append, List.mem_cons] at hrest
      rcases hrest with hwhole | rfl | hfraction
      · exact .inl (isDigits_ofNat _ c hwhole)
      · exact .inr (by decide)
      · exact .inl (isDigits_padded _ _ c hfraction)

theorem isPlain_fixedText (x : Binary64) : (x.fixedText 2).IsPlain := by
  intro c hc
  rcases mem_fixedText hc with hdigit | hmark
  · exact ne_of_isDigit hdigit
  · obtain ⟨hdelimiter, hreceipt, hcode, _⟩ := numberMarks_plain hmark
    exact ⟨hdelimiter, hreceipt, hcode⟩

/-- No number is written with the mark of a voltage. -/
theorem hash_not_mem_of_writeNumber {x : Binary64} {t : Text} (h : writeNumber (some x) = .ok t) :
    '#' ∉ t := by
  obtain ⟨y, _, rfl⟩ := map_ok_iff.mp h
  intro hmem
  rcases mem_fixedText hmem with hdigit | hmark
  · exact absurd hdigit (by decide)
  · exact (numberMarks_plain hmark).2.2.2 rfl

theorem isPlain_of_writeNumber {x : Option Binary64} {t : Text} (h : writeNumber x = .ok t) :
    t.IsPlain := by
  cases x with
  | none =>
    cases h
    exact Text.isPlain_nil
  | some x =>
    obtain ⟨y, _, rfl⟩ := map_ok_iff.mp h
    exact isPlain_fixedText y

theorem isPlain_of_writeVoltage {x : Option Binary64} {t : Text} (h : writeVoltage x = .ok t) :
    t.IsPlain := by
  cases x with
  | none =>
    cases h
    exact Text.isPlain_nil
  | some x =>
    obtain ⟨w, hw, rfl⟩ := map_ok_iff.mp h
    exact (isPlain_of_writeNumber hw).append (isPlain_singleton (by decide))

theorem isPlain_of_writeWhole {k : Option ℤ} {t : Text} (h : writeWhole k = .ok t) : t.IsPlain := by
  cases k with
  | none =>
    cases h
    exact Text.isPlain_nil
  | some k =>
    simp only [writeWhole] at h
    split at h
    · cases h
    · cases h
      unfold Text.ofInt
      split
      · exact (isDigits_ofNat _).isPlain.cons (by decide)
      · exact (isDigits_ofNat _).isPlain

theorem isPlain_stampText (style : StampStyle) (t : Instant) : (t.stampText style).IsPlain := by
  have hyear := (isDigits_ofNat t.localTime.date.year).isPlain
  have hpair : ∀ n, (Text.padded 2 n).IsPlain := fun n => (isDigits_padded 2 n).isPlain
  have hcolon : ∀ n, Text.IsPlain (':' :: Text.padded 2 n) := fun n => (hpair n).cons (by decide)
  cases style with
  | colon =>
    exact ((((hyear.append (hcolon _)).append (hcolon _)).append (hcolon _)).append
      (hcolon _)).append (hcolon _)
  | slash =>
    exact ((((hyear.append (hpair _)).append (hpair _)).append
      ((hpair _).cons (by decide))).append (hpair _)).append (hpair _)

/-- **No written token is reserved**, whatever the reading. -/
theorem isReserved_of_write [HostZone] {r : Reading} {style : StampStyle} {slot : Slot} {t : Text}
    (h : slot.write r style = .ok t) : isReserved t = false := by
  cases slot with
  | quantity q unit keepsMark =>
    have hunit := asFault_eq_ok_iff.mp h
    cases unit <;> exact (isPlain_of_writeNumber hunit).not_isReserved
  | gauge g => exact (isPlain_of_writeNumber (asFault_eq_ok_iff.mp h)).not_isReserved
  | voltage g form => exact (isPlain_of_writeVoltage (asFault_eq_ok_iff.mp h)).not_isReserved
  | code c =>
    simp only [Slot.write] at h
    split at h
    · cases h
    · rename_i hcode
      cases h
      exact Bool.not_eq_true _ |>.mp hcode
  | signal => exact (isPlain_of_writeWhole h).not_isReserved
  | stamp =>
    simp only [Slot.write] at h
    split at h
    · rename_i w hw
      cases h
      obtain ⟨st, _, rfl⟩ := Option.map_eq_some_iff.mp hw
      exact (isPlain_stampText style st).not_isReserved
    · cases h
  | blank filler =>
    cases h
    decide

/-! ## Rows -/

theorem mapM_eq_ok_iff {ε α β : Type} {f : α → Except ε β} {l : List α} {l' : List β} :
    l.mapM f = .ok l' ↔ List.Forall₂ (fun a b => f a = .ok b) l l' := by
  induction l generalizing l' with
  | nil =>
    rw [List.mapM_nil, List.forall₂_nil_left_iff]
    constructor
    · intro h
      cases h
      rfl
    · rintro rfl
      rfl
  | cons a l ih =>
    rw [List.mapM_cons, List.forall₂_cons_left_iff]
    constructor
    · intro h
      obtain ⟨b, hb, hrest⟩ := bind_ok_iff.mp h
      obtain ⟨bs, hbs, hend⟩ := bind_ok_iff.mp hrest
      cases hend
      exact ⟨b, bs, hb, ih.mp hbs, rfl⟩
    · rintro ⟨b, bs, hb, hbs, rfl⟩
      rw [hb, ih.mpr hbs]
      rfl

/-- **The first element that fails gives the error.** -/
theorem mapM_eq_error_iff {ε α β : Type} {f : α → Except ε β} {l : List α} {e : ε} :
    l.mapM f = .error e ↔ ∃ before a after, l = before ++ a :: after ∧
      (∀ b ∈ before, ∃ c, f b = .ok c) ∧ f a = .error e := by
  induction l with
  | nil =>
    rw [List.mapM_nil]
    constructor
    · intro h
      cases h
    · rintro ⟨before, a, after, hl, _⟩
      exact absurd hl.symm (by simp)
  | cons a l ih =>
    rw [List.mapM_cons]
    cases ha : f a with
    | error e' =>
      constructor
      · intro h
        cases h
        exact ⟨[], a, l, rfl, fun _ hb => absurd hb List.not_mem_nil, ha⟩
      · rintro ⟨before, b, after, hl, hbefore, hb⟩
        cases before with
        | nil =>
          cases hl
          rw [ha] at hb
          cases hb
          rfl
        | cons b' before =>
          cases hl
          obtain ⟨c, hc⟩ := hbefore a List.mem_cons_self
          rw [ha] at hc
          cases hc
    | ok c =>
      have hrest : (Except.ok c >>= fun b => (l.mapM f >>= fun bs => pure (b :: bs)) : Except ε (List β))
          = .error e ↔ l.mapM f = .error e := by
        cases l.mapM f with
        | error e' => exact Iff.rfl
        | ok bs => exact ⟨fun h => (by cases h), fun h => (by cases h)⟩
      rw [hrest, ih]
      constructor
      · rintro ⟨before, b, after, rfl, hbefore, hb⟩
        exact ⟨a :: before, b, after, rfl, List.forall_mem_cons.mpr ⟨⟨c, ha⟩, hbefore⟩, hb⟩
      · rintro ⟨before, b, after, hl, hbefore, hb⟩
        cases before with
        | nil =>
          cases hl
          rw [ha] at hb
          cases hb
        | cons b' before =>
          cases hl
          exact ⟨before, b, after, rfl, (List.forall_mem_cons.mp hbefore).2, hb⟩

theorem mapM_congr {ε α β : Type} {f g : α → Except ε β} {l : List α} (h : ∀ a ∈ l, f a = g a) :
    l.mapM f = l.mapM g := by
  induction l with
  | nil => rfl
  | cons a l ih =>
    obtain ⟨ha, hl⟩ := List.forall_mem_cons.mp h
    rw [List.mapM_cons, List.mapM_cons, ha, ih hl]

theorem encode_size [HostZone] (r : Reading) (v : Variant) : encode r v.size = encodeAs r v := by
  cases v <;> rfl

theorem encodeAs_eq_ok_iff [HostZone] {r : Reading} {v : Variant} {t : Text} :
    encodeAs r v = .ok t ↔ ∃ written, v.slots.mapM (Slot.write r v.stampStyle) = .ok written ∧
      t = List.intercalate [delimiter] (blankToken :: written) := by
  constructor
  · intro h
    obtain ⟨written, hwritten, hend⟩ := bind_ok_iff.mp h
    cases hend
    exact ⟨written, hwritten, rfl⟩
  · rintro ⟨written, hwritten, rfl⟩
    unfold encodeAs
    rw [hwritten]
    rfl

theorem getLast?_of_forall₂ {α β : Type} {R : α → β → Prop} {l : List α} {l' : List β}
    (h : List.Forall₂ R l l') {a : α} (ha : l.getLast? = some a) :
    ∃ b, l'.getLast? = some b ∧ R a b := by
  induction h with
  | nil => cases ha
  | @cons c d l l' hcd hrest ih =>
    cases hrest with
    | nil =>
      cases ha
      exact ⟨d, rfl, hcd⟩
    | cons hcd' hrest' =>
      rw [List.getLast?_cons_cons] at ha ⊢
      exact ih ha

/-! ## Telegrams -/

/-- The tokens that the slots of a layout write for a reading, in order. -/
def Writes [HostZone] (r : Reading) (v : Variant) (written : List Text) : Prop :=
  v.slots.mapM (Slot.write r v.stampStyle) = .ok written

/-- The telegram of a row of tokens, behind the leading marker. -/
def telegramOf (written : List Text) : Text := List.intercalate [delimiter] (blankToken :: written)

namespace Writes

variable [HostZone] {r : Reading} {v : Variant} {written : List Text}

theorem forall₂ (h : Writes r v written) :
    List.Forall₂ (fun slot t => slot.write r v.stampStyle = .ok t) v.slots written :=
  mapM_eq_ok_iff.mp h

theorem length_eq (h : Writes r v written) : written.length = v.size := by
  rw [← v.length_slots, h.forall₂.length_eq]

theorem write_of_mem_zip (h : Writes r v written) {slot : Slot} {t : Text}
    (hmem : (slot, t) ∈ v.slots.zip written) : slot.write r v.stampStyle = .ok t :=
  (List.forall₂_iff_zip.mp h.forall₂).2 hmem

/-- Every token of a row is written by a slot. -/
theorem exists_slot (h : Writes r v written) {t : Text} (ht : t ∈ written) :
    ∃ slot ∈ v.slots, slot.write r v.stampStyle = .ok t := by
  obtain ⟨slot, hmem⟩ := exists_mem_zip (h.length_eq.trans v.length_slots.symm) ht
  have hzip : (slot, t) ∈ v.slots.zip written := by
    rw [← List.zip_swap, List.mem_map]
    exact ⟨(t, slot), hmem, rfl⟩
  exact ⟨slot, (List.of_mem_zip hzip).1, h.write_of_mem_zip hzip⟩

theorem not_isReserved (h : Writes r v written) : ∀ t ∈ blankToken :: written, isReserved t = false := by
  intro t ht
  rcases List.mem_cons.mp ht with rfl | ht
  · decide
  · obtain ⟨slot, _, hwrite⟩ := h.exists_slot ht
    exact isReserved_of_write hwrite

/-- The row ends with the closing marker. -/
theorem getLast?_eq (h : Writes r v written) : (blankToken :: written).getLast? = some blankToken := by
  have hmarker : v.slots.getLast? = some (.blank .marker) := by cases v <;> rfl
  obtain ⟨t, ht, hwrite⟩ := getLast?_of_forall₂ h.forall₂ hmarker
  cases hwrite
  cases written with
  | nil => cases ht
  | cons w written => rwa [List.getLast?_cons_cons]

theorem clean_telegramOf (h : Writes r v written) : clean (telegramOf written) = telegramOf written :=
  clean_intercalate h.not_isReserved rfl (by decide) h.getLast?_eq rfl (by decide)

theorem splitOn_telegramOf (h : Writes r v written) :
    List.splitOn delimiter (telegramOf written) = blankToken :: written :=
  splitOn_intercalate_of_not_isReserved h.not_isReserved

theorem tokens_telegramOf (h : Writes r v written) : tokens (clean (telegramOf written)) = written := by
  rw [h.clean_telegramOf, tokens, h.splitOn_telegramOf]
  rfl

theorem ofMessage_telegramOf (h : Writes r v written) :
    Variant.ofMessage (telegramOf written) = .ok v := by
  rw [ofMessage_eq_ok_iff, h.tokens_telegramOf]
  exact h.length_eq

/-- The outcome of decoding what was written. -/
theorem outcome_decode (h : Writes r v written) (now : Instant) :
    (decode (telegramOf written) now).outcome =
      (decodeAs v (telegramOf written) written now).outcome := by
  rw [outcome_decode_of_ofMessage h.ofMessage_telegramOf, h.tokens_telegramOf, h.clean_telegramOf]

/-- The fields of a written row are always read. -/
theorem exists_readFields (h : Writes r v written) :
    ∃ g, readFields v.slots written .empty = .ok g := by
  cases hread : readFields v.slots written .empty with
  | ok g => exact ⟨g, rfl⟩
  | error fault =>
    obtain ⟨t, count, hmem, hlong, _⟩ := readFields_error_iff.mp hread
    exact absurd hlong (not_isOverlong_of_writeWhole (h.write_of_mem_zip hmem) count)

/-- A text comes back as it was written. -/
theorem code_of_readFields (h : Writes r v written) {g : Fields}
    (hread : readFields v.slots written .empty = .ok g) {c : Code} (hc : Field.code c ∈ v.fields) :
    g.code c = r.health.code c := by
  obtain ⟨slot, hslot, hfield⟩ := List.mem_filterMap.mp hc
  obtain ⟨t, hmem⟩ := exists_mem_zip (v.length_slots.trans h.length_eq.symm) hslot
  have hwrite := h.write_of_mem_zip hmem
  have hentry := read_of_readFields (nodup_fields v) hread hmem hfield
  cases slot with
  | code d =>
    cases hfield
    cases hentry
    simp only [Slot.write] at hwrite
    split at hwrite
    · cases hwrite
    · exact (Except.ok.inj hwrite).symm
  | quantity q unit keepsMark => cases hfield
  | gauge g => cases hfield
  | voltage g form => cases hfield
  | signal => cases hfield
  | stamp => cases hfield
  | blank filler => cases hfield

end Writes

theorem encode_eq_ok_iff [HostZone] {r : Reading} {v : Variant} {t : Text} :
    encode r v.size = .ok t ↔ ∃ written, Writes r v written ∧ t = telegramOf written := by
  rw [encode_size]
  exact encodeAs_eq_ok_iff

/-- **Framing safety.** A telegram that was written survives cleaning, is cut into the tokens of its
    slots, none of which cleaning would alter, and is read in its own layout with its own texts. -/
theorem encode_framed [HostZone] {r : Reading} {v : Variant} {t : Text} (h : encode r v.size = .ok t) :
    clean t = t ∧
    (∃ written, v.slots.mapM (Slot.write r v.stampStyle) = .ok written ∧
      List.splitOn delimiter t = blankToken :: written ∧
      ∀ w ∈ written, delimiter ∉ w ∧ plusForSpaceCode (w.filter (· != '>')) = w) ∧
    Variant.ofMessage t = .ok v ∧
    ∀ now : Instant, now.IsAware → ∃ r', (decode t now).outcome = .ok r' ∧ r'.health.message = t ∧
      ∀ c, Field.code c ∈ v.fields → r'.health.code c = r.health.code c := by
  obtain ⟨written, hwrites, rfl⟩ := encode_eq_ok_iff.mp h
  refine ⟨hwrites.clean_telegramOf, ⟨written, hwrites, hwrites.splitOn_telegramOf, ?_⟩,
    hwrites.ofMessage_telegramOf, ?_⟩
  · intro w hw
    obtain ⟨hdelimiter, hmark, hcode⟩ :=
      (isReserved_eq_false_iff w).mp (hwrites.not_isReserved w (List.mem_cons_of_mem _ hw))
    have hfilter : w.filter (· != '>') = w := by
      rw [List.filter_eq_self]
      intro c hc
      rw [bne_iff_ne]
      rintro rfl
      exact hmark hc
    rw [hfilter]
    exact ⟨hdelimiter, plusForSpaceCode_eq_self hcode⟩
  · intro now hnow
    obtain ⟨g, hread⟩ := hwrites.exists_readFields
    obtain ⟨check, hcheck⟩ := outcome_decodeAs_of_ok v (telegramOf written) hnow hread
    refine ⟨_, (hwrites.outcome_decode now).trans hcheck, rfl, fun c hc => ?_⟩
    exact hwrites.code_of_readFields hread hc

/-! ### A reading -/

/-- Three in the afternoon on the stations' clock. -/
def sampleTime : Instant :=
  ⟨⟨sampleReceipt.localTime.date, { TimeOfDay.midnight with hour := 15, hour_lt := by decide }⟩, .station⟩

/-- A reading with a pressure like the mark of a silent sensor and a text like the front of a space
    code. -/
def sampleReading : Reading :=
  ⟨⟨fun
      | .temperature => some (hundredths true 450)
      | .pressure => some (hundredths false 99990)
      | .windSpeed => some (hundredths false 1000)
      | .rainRate => some (hundredths false 3)
      | _ => none, sampleTime⟩,
    { Health.blank sampleTime with
      gauge := fun
        | .mainBattery => some (hundredths false 1262)
        | _ => none
      code := fun
        | .modem => []
        | .firmware => ['2', '%', '2']
      signal := some (-71) }⟩

/-- The telegram of the reading in the layout of 20 tokens. -/
def sampleTelegram : Text :=
  Text.ofString
    "0+-4.50++999.90+36.00++0+++++0.02+0+-71+12.62#++++2%2+2023:06:15:15:00:00+0"

theorem encode_sampleReading : encode sampleReading Variant.v20.size = .ok sampleTelegram := by
  decide +kernel

theorem encode_framed_sample :
    encode sampleReading Variant.v20.size = .ok sampleTelegram ∧
      clean sampleTelegram = sampleTelegram ∧ Variant.ofMessage sampleTelegram = .ok .v20 := by
  obtain ⟨hclean, _, hvariant, _⟩ := encode_framed encode_sampleReading
  exact ⟨encode_sampleReading, hclean, hvariant⟩

end WeatherTelegram
