import WeatherTelegram.Proofs.Telegram.RoundTrip

/-!
# `Proofs.Telegram.Agreement` — the layouts carry the same

One reading that is written in two layouts is read alike from both, wherever both carry it. Nothing is
asked of the reading but that both were written: what does not survive a telegram is lost in both. A field
that both layouts hold is in the same slot, but for a voltage, which a mark may follow; and the two styles
of a timestamp denote one time, or both none.

## Contents
- **Slots.** `Slot.eq_of_field?`, `Slot.read_gauge_of_write`, `Slot.read_eq_of_write`.
- **Rows.** `Writes.exists_toStation?`, `Writes.get_eq_of_readFields`.
- **Readings.** `Reading.Agrees`, `decode_encode_agrees`.
-/

namespace WeatherTelegram

/-! ## Slots -/

/-- Layouts differ in the slots of gauges alone. -/
theorem Slot.eq_of_field? {v w : Variant} {slot slot' : Slot} (hslot : slot ∈ v.slots)
    (hslot' : slot' ∈ w.slots) {field : Field} (hfield : slot.field? = some field)
    (hfield' : slot'.field? = some field) (hgauge : ∀ g, field ≠ .gauge g) : slot' = slot := by
  cases field with
  | quantity q =>
    cases slot <;> cases hfield
    cases slot' <;> cases hfield'
    obtain ⟨rfl, rfl⟩ := eq_of_quantity_mem_slots hslot
    obtain ⟨rfl, rfl⟩ := eq_of_quantity_mem_slots hslot'
    rfl
  | gauge g => exact absurd rfl (hgauge g)
  | code c =>
    cases slot <;> cases hfield
    cases slot' <;> cases hfield'
    rfl
  | signal =>
    cases slot <;> cases hfield
    cases slot' <;> cases hfield'
    rfl

/-- The style belongs to the timestamp. -/
theorem Slot.write_style [HostZone] {slot : Slot} {field : Field} (hfield : slot.field? = some field)
    (r : Reading) (style style' : StampStyle) : slot.write r style = slot.write r style' := by
  cases slot with
  | stamp => cases hfield
  | quantity q unit keepsMark => rfl
  | gauge g => rfl
  | voltage g form => rfl
  | code c => rfl
  | signal => rfl
  | blank filler => rfl

/-- A voltage loses its mark again. -/
theorem VoltageForm.body_of_writeVoltage (form : VoltageForm) {x : Option Binary64} {t : Text}
    (h : writeVoltage x = .ok t) : ∃ body, writeNumber x = .ok body ∧ form.body t = body := by
  cases x with
  | none =>
    cases h
    exact ⟨[], rfl, form.body_nil⟩
  | some x =>
    obtain ⟨body, hbody, rfl⟩ := map_ok_iff.mp h
    exact ⟨body, hbody, form.body_mark (hash_not_mem_of_writeNumber hbody)⟩

/-- With a mark or without, a gauge is read from the number that was written. -/
theorem Slot.read_gauge_of_write [HostZone] {slot : Slot} {g : Gauge} (hfield : slot.field? = some (.gauge g))
    {r : Reading} {style : StampStyle} {t : Text} (h : slot.write r style = .ok t) :
    ∃ body, writeNumber (r.health.gauge g) = .ok body ∧
      slot.read t = (asFault (readNumber false body)).map (.gauge g) := by
  cases slot with
  | gauge g' =>
    cases hfield
    exact ⟨t, asFault_eq_ok_iff.mp h, rfl⟩
  | voltage g' form =>
    cases hfield
    obtain ⟨body, hbody, hform⟩ := form.body_of_writeVoltage (asFault_eq_ok_iff.mp h)
    refine ⟨body, hbody, ?_⟩
    rw [Slot.read, hform]
  | quantity q unit keepsMark => cases hfield
  | code c => cases hfield
  | signal => cases hfield
  | stamp => cases hfield
  | blank filler => cases hfield

/-- **Slots of one field read alike what they write.** -/
theorem Slot.read_eq_of_write [HostZone] {v w : Variant} {slot slot' : Slot} (hslot : slot ∈ v.slots)
    (hslot' : slot' ∈ w.slots) {field : Field} (hfield : slot.field? = some field)
    (hfield' : slot'.field? = some field) {r : Reading} {style style' : StampStyle} {t u : Text}
    (ht : slot.write r style = .ok t) (hu : slot'.write r style' = .ok u) :
    slot'.read u = slot.read t := by
  by_cases hgauge : ∃ g, field = .gauge g
  · obtain ⟨g, rfl⟩ := hgauge
    obtain ⟨body, hbody, hread⟩ := Slot.read_gauge_of_write hfield ht
    obtain ⟨body', hbody', hread'⟩ := Slot.read_gauge_of_write hfield' hu
    obtain rfl : body' = body := Except.ok.inj (hbody'.symm.trans hbody)
    rw [hread, hread']
  · obtain rfl := Slot.eq_of_field? hslot hslot' hfield hfield' fun g heq => hgauge ⟨g, heq⟩
    rw [Slot.write_style hfield r style style'] at ht
    obtain rfl : u = t := Except.ok.inj (hu.symm.trans ht)
    rfl

/-! ## Rows -/

namespace Writes

variable [HostZone] {r : Reading} {v w : Variant} {written written' : List Text}

/-- The stations' clock can show the time of a reading that was written. -/
theorem exists_toStation? (h : Writes r v written) :
    ∃ st, r.observation.timestamp.toStation? = some st := by
  have hwrite := h.write_of_mem_zip
    (stampToken_mem_zip (v.length_slots.trans h.length_eq.symm) (stamp_mem_slots v))
  cases hst : r.observation.timestamp.toStation? with
  | some st => exact ⟨st, rfl⟩
  | none =>
    simp only [Slot.write, Instant.stampText?, hst, Option.map_none] at hwrite
    cases hwrite

/-- The timestamps of two rows are read alike. -/
theorem ofStamp?_stampToken_eq (h : Writes r v written) (h' : Writes r w written') :
    Instant.ofStamp? (stampToken w.slots written') = Instant.ofStamp? (stampToken v.slots written) := by
  obtain ⟨st, hst⟩ := h.exists_toStation?
  rw [h.stampToken_eq hst, h'.stampToken_eq hst]
  exact Instant.ofStamp?_stampText_congr w.stampStyle v.stampStyle st

/-- A field of two rows is read alike from both. -/
theorem get_eq_of_readFields (h : Writes r v written) (h' : Writes r w written') {f f' : Fields}
    (hf : readFields v.slots written .empty = .ok f)
    (hf' : readFields w.slots written' .empty = .ok f') {field : Field} (hfield : field ∈ v.fields)
    (hfield' : field ∈ w.fields) : f'.get field = f.get field := by
  obtain ⟨slot, hslot, hown⟩ := List.mem_filterMap.mp hfield
  obtain ⟨slot', hslot', hown'⟩ := List.mem_filterMap.mp hfield'
  obtain ⟨t, ht⟩ := exists_mem_zip (v.length_slots.trans h.length_eq.symm) hslot
  obtain ⟨u, hu⟩ := exists_mem_zip (w.length_slots.trans h'.length_eq.symm) hslot'
  have hread := read_of_readFields (nodup_fields v) hf ht hown
  have hread' := read_of_readFields (nodup_fields w) hf' hu hown'
  have hsame := Slot.read_eq_of_write hslot hslot' hown hown' (h.write_of_mem_zip ht)
    (h'.write_of_mem_zip hu)
  exact Except.ok.inj (hread'.symm.trans (hsame.trans hread))

/-- What was written is read as its fields and the check of its timestamp. -/
theorem exists_decode (h : Writes r v written) {now : Instant} (hnow : now.IsAware) :
    ∃ f check, readFields v.slots written .empty = .ok f ∧
      (checkStamp (Instant.ofStamp? (stampToken v.slots written)) now).outcome = .ok check ∧
      (decode (telegramOf written) now).outcome = .ok (.assemble (telegramOf written) f check) := by
  obtain ⟨f, hf⟩ := h.exists_readFields
  obtain ⟨check, hcheck⟩ := checkStamp_total (Instant.ofStamp? (stampToken v.slots written)) hnow
    fun st => isAware_of_ofStamp?
  exact ⟨f, check, hf, hcheck, h.outcome_decode_of_readFields hf hcheck⟩

end Writes

/-! ## Readings -/

/-- Two readings tell the same of the weather and of the clocks, and the same of the device wherever both
    layouts carry it. -/
structure Reading.Agrees (v w : Variant) (r r' : Reading) : Prop where
  observation : r'.observation = r.observation
  timestamp : r'.health.timestamp = r.health.timestamp
  minutesDifference : r'.health.minutesDifference = r.health.minutesDifference
  errorMessage : r'.health.errorMessage = r.health.errorMessage
  presentCount : r'.health.presentCount = r.health.presentCount
  presence : r'.health.presence = r.health.presence
  gauge : ∀ g, Field.gauge g ∈ v.fields → Field.gauge g ∈ w.fields →
    r'.health.gauge g = r.health.gauge g
  code : ∀ c, Field.code c ∈ v.fields → Field.code c ∈ w.fields → r'.health.code c = r.health.code c
  signal : r'.health.signal = r.health.signal

/-- Fields that agree and one check make readings that agree. -/
theorem agrees_assemble {v w : Variant} {f f' : Fields}
    (h : ∀ field, field ∈ v.fields → field ∈ w.fields → f'.get field = f.get field)
    (check : StampCheck) (message message' : Text) :
    (Reading.assemble message f check).Agrees v w (.assemble message' f' check) := by
  have hvalue : f'.value = f.value := funext fun q => by
    simpa [Fields.get] using h (.quantity q) (mem_fields_quantity v q) (mem_fields_quantity w q)
  constructor
  · simp only [Reading.assemble, hvalue]
  · rfl
  · rfl
  · rfl
  · simp only [Reading.assemble, hvalue]
  · simp only [Reading.assemble, hvalue]
  · intro g hg hg'
    simpa [Fields.get, Reading.assemble] using h (.gauge g) hg hg'
  · intro c hc hc'
    simpa [Fields.get, Reading.assemble] using h (.code c) hc hc'
  · simpa [Fields.get, Reading.assemble] using h .signal (mem_fields_signal v) (mem_fields_signal w)

/-- **The layouts carry the same.** A reading that is written in two layouts comes back from both, as
    readings that agree. -/
theorem decode_encode_agrees [HostZone] {r : Reading} {v w : Variant} {t u : Text} {now : Instant}
    (ht : encode r v.size = .ok t) (hu : encode r w.size = .ok u) (hnow : now.IsAware) :
    ∃ r₁ r₂, (decode t now).outcome = .ok r₁ ∧ (decode u now).outcome = .ok r₂ ∧ r₁.Agrees v w r₂ := by
  obtain ⟨written, hwrites, rfl⟩ := encode_eq_ok_iff.mp ht
  obtain ⟨written', hwrites', rfl⟩ := encode_eq_ok_iff.mp hu
  obtain ⟨f, check, hf, hcheck, hdecode⟩ := hwrites.exists_decode hnow
  obtain ⟨f', check', hf', hcheck', hdecode'⟩ := hwrites'.exists_decode hnow
  -- the two timestamps are one to the check
  rw [hwrites.ofStamp?_stampToken_eq hwrites', hcheck] at hcheck'
  obtain rfl : check = check' := Except.ok.inj hcheck'
  exact ⟨_, _, hdecode, hdecode',
    agrees_assemble (fun field => hwrites.get_eq_of_readFields hwrites' hf hf') check _ _⟩

/-- A reading of the first century, with a temperature beyond all that a telegram can carry. -/
def strayReading : Reading :=
  ⟨⟨fun
      | .temperature => some (Binary64.ofInt 1000000000000000000000000000000000000000)
      | .humidity => some (hundredths false 99990)
      | .windSpeed => some (hundredths false 1)
      | q => sampleReading.observation.value q,
      { sampleTime with
        localTime := { sampleTime.localTime with
          date := { sampleTime.localTime.date with
            year := 99, year_mem := by decide, day_mem := by decide } } }⟩,
    sampleReading.health⟩

theorem decode_encode_agrees_stray :
    sampleReceipt.IsAware ∧ ∃ t u, encode strayReading Variant.v20.size = .ok t ∧
      encode strayReading Variant.v23.size = .ok u ∧
      ∃ r₁ r₂, (decode t sampleReceipt).outcome = .ok r₁ ∧
        (decode u sampleReceipt).outcome = .ok r₂ ∧ r₁.Agrees .v20 .v23 r₂ := by
  have hnow : sampleReceipt.IsAware := ⟨0, rfl, by decide⟩
  obtain ⟨t, ht⟩ : ∃ t, encode strayReading Variant.v20.size = .ok t :=
    exists_of_isOk (by decide +kernel)
  obtain ⟨u, hu⟩ : ∃ u, encode strayReading Variant.v23.size = .ok u :=
    exists_of_isOk (by decide +kernel)
  exact ⟨hnow, t, u, ht, hu, decode_encode_agrees ht hu hnow⟩

end WeatherTelegram
