import WeatherTelegram.Proofs.Telegram.Slot
import WeatherTelegram.Proofs.Time.Stamp

/-!
# `Proofs.Telegram.RoundTrip` — readings that are sent, and telegrams that are sent on

A reading on the grid of hundredths comes back from its telegram as it was, but for the rain rate, which
may move by one hundredth and then stays. A reading that came out of a telegram comes back exactly. Both
are put together from the slots: the row that is written is the row that is read, each slot gives back its
own field, and the timestamp passes the check of the clocks.

## Contents
- **Rows.** `exists_writes`, `Writes.stampToken_eq`, `Writes.outcome_decode_of_check`.
- **Sent.** `Reading.IsKept`, `encode_decode`.
- **Sent on.** `decode_encode_decode`.
-/

namespace WeatherTelegram

/-! ## Rows -/

theorem exists_forall₂ {α β : Type} {R : α → β → Prop} {l : List α} (h : ∀ a ∈ l, ∃ b, R a b) :
    ∃ l', List.Forall₂ R l l' := by
  induction l with
  | nil => exact ⟨[], .nil⟩
  | cons a l ih =>
    obtain ⟨b, hb⟩ := h a (List.mem_cons_self ..)
    obtain ⟨l', hl'⟩ := ih fun c hc => h c (List.mem_cons_of_mem _ hc)
    exact ⟨b :: l', .cons hb hl'⟩

namespace Writes

variable [HostZone] {r : Reading} {v : Variant} {written : List Text}

/-- The timestamp of a written row is that of the reading. -/
theorem stampToken_eq (h : Writes r v written) {st : Instant}
    (hst : r.observation.timestamp.toStation? = some st) :
    stampToken v.slots written = st.stampText v.stampStyle := by
  have hwrite := h.write_of_mem_zip
    (stampToken_mem_zip (v.length_slots.trans h.length_eq.symm) (stamp_mem_slots v))
  simp only [Slot.write, Instant.stampText?, hst, Option.map_some, Except.ok.injEq] at hwrite
  exact hwrite.symm

/-- A written row is read as its fields and the check of its own timestamp. -/
theorem outcome_decode_of_readFields (h : Writes r v written) {g : Fields}
    (hg : readFields v.slots written .empty = .ok g) {now : Instant} {check : StampCheck}
    (hcheck : (checkStamp (Instant.ofStamp? (stampToken v.slots written)) now).outcome = .ok check) :
    (decode (telegramOf written) now).outcome = .ok (.assemble (telegramOf written) g check) := by
  rw [h.outcome_decode, outcome_decodeAs, hg, hcheck]
  rfl

/-- The check is that of the reading's own time where the timestamp can be read back. -/
theorem outcome_decode_of_check (h : Writes r v written) {g : Fields}
    (hg : readFields v.slots written .empty = .ok g) {st now : Instant} {check : StampCheck}
    (hst : r.observation.timestamp.toStation? = some st)
    (hwhole : st.localTime.time.microsecond = 0) (hyear : 1000 ≤ st.localTime.date.year)
    (hcheck : checkStamp (some st) now = .ok check) :
    (decode (telegramOf written) now).outcome = .ok (.assemble (telegramOf written) g check) := by
  have hstamp := Instant.ofStamp?_stampText v.stampStyle (Instant.zone_of_toStation? hst) hwhole hyear
  apply h.outcome_decode_of_readFields hg
  rw [h.stampToken_eq hst, hstamp, hcheck]
  rfl

end Writes

/-- Outside the fields a slot writes by the timestamp alone. -/
theorem exists_write_of_field?_none [HostZone] {slot : Slot} (hslot : slot.field? = none) (st : Instant)
    (style : StampStyle) : ∃ t, ∀ r : Reading, r.observation.timestamp.toStation? = some st →
      slot.write r style = .ok t := by
  cases slot with
  | stamp =>
    refine ⟨st.stampText style, fun r hr => ?_⟩
    simp only [Slot.write, Instant.stampText?, hr, Option.map_some]
  | blank filler => exact ⟨blankToken, fun _ _ => rfl⟩
  | quantity q unit keepsMark => cases hslot
  | gauge g => cases hslot
  | voltage g form => cases hslot
  | code c => cases hslot
  | signal => cases hslot

/-- A row is written when each of its fields is. -/
theorem exists_writes [HostZone] {r : Reading} {v : Variant} {st : Instant}
    (hst : r.observation.timestamp.toStation? = some st)
    (h : ∀ slot ∈ v.slots, ∀ field, slot.field? = some field →
      ∃ t, slot.write r v.stampStyle = .ok t) : ∃ written, Writes r v written := by
  have hslots : ∀ slot ∈ v.slots, ∃ t, slot.write r v.stampStyle = .ok t := by
    intro slot hslot
    cases hfield : slot.field? with
    | none =>
      obtain ⟨t, ht⟩ := exists_write_of_field?_none hfield st v.stampStyle
      exact ⟨t, ht r hst⟩
    | some field => exact h slot hslot field hfield
  obtain ⟨written, hwritten⟩ := exists_forall₂ hslots
  exact ⟨written, mapM_eq_ok_iff.mpr hwritten⟩

/-! ## Sent -/

/-- Only the rain rate travels in another unit with a factor above one. -/
theorem eq_rainRate_of_mem_slots {v : Variant} {q : Quantity} {keepsMark : Bool}
    (h : Slot.quantity q .tipsPerInterval keepsMark ∈ v.slots) : q = .rainRate := by
  have hunit := (eq_of_quantity_mem_slots h).1
  cases q <;> first | rfl | cases hunit

/-- What comes back of a reading that was sent in a layout. -/
structure Reading.IsKept (v : Variant) (r r' : Reading) : Prop where
  value : ∀ q, q ≠ .rainRate → r'.observation.value q = r.observation.value q
  rainRate : IsNear (r.observation.value .rainRate) (r'.observation.value .rainRate)
  gauge : ∀ g, Field.gauge g ∈ v.fields → r'.health.gauge g = r.health.gauge g
  otherGauge : ∀ g, Field.gauge g ∉ v.fields → r'.health.gauge g = none
  code : ∀ c, Field.code c ∈ v.fields → r'.health.code c = r.health.code c
  otherCode : ∀ c, Field.code c ∉ v.fields → r'.health.code c = []
  signal : r'.health.signal = r.health.signal
  observed : r'.observation.timestamp.moment? = r.observation.timestamp.moment?
  reported : r'.health.timestamp.moment? = r.observation.timestamp.moment?
  errorMessage : r'.health.errorMessage = []

theorem Fields.field_get (f : Fields) (field : Field) : (f.get field).field = field := by
  cases field <;> rfl

/-- The time and the fields that came out of a telegram are those of its reading. -/
theorem fields_assemble (message : Text) (g : Fields) (check : StampCheck) :
    (Reading.assemble message g check).fields = g := rfl

namespace Writes

variable [HostZone] {r : Reading} {v : Variant} {written : List Text}

/-- Every token of a row arrives if none is taken for the mark of a silent sensor. -/
theorem arrives (h : Writes r v written) (hsend : ∀ slot ∈ v.slots, slot.IsSendable r)
    (hspeaks : ∀ slot ∈ v.slots, ∀ mark ∈ slot.silentToken?, slot.write r v.stampStyle ≠ .ok mark)
    {slot : Slot} {t : Text} (hmem : (slot, t) ∈ v.slots.zip written) {field : Field}
    (hfield : slot.field? = some field) : slot.Arrives r v.stampStyle field t := by
  have hslot := (List.of_mem_zip hmem).1
  have hwrite := h.write_of_mem_zip hmem
  obtain ⟨t', hwrite', hback⟩ := Slot.exists_read_of_write hfield (hsend slot hslot) v.stampStyle
    fun q keepsMark heq => eq_rainRate_of_mem_slots (heq ▸ hslot)
  -- writing is a function, so that the token in the row is the one that arrives
  obtain rfl : t' = t := Except.ok.inj (hwrite'.symm.trans hwrite)
  exact hback fun mark hmark heq => hspeaks slot hslot mark hmark (heq ▸ hwrite)

/-- The fields of a row that arrives are near those of the reading. -/
theorem isNear_of_readFields (h : Writes r v written) {g : Fields}
    (hg : readFields v.slots written .empty = .ok g)
    (harrives : ∀ slot t, (slot, t) ∈ v.slots.zip written → ∀ field, slot.field? = some field →
      slot.Arrives r v.stampStyle field t) {field : Field} (hfield : field ∈ v.fields) :
    (r.fields.get field).IsNear (g.get field) := by
  obtain ⟨slot, hslot, hslotField⟩ := List.mem_filterMap.mp hfield
  obtain ⟨t, hmem⟩ := exists_mem_zip (v.length_slots.trans h.length_eq.symm) hslot
  obtain ⟨e, hread, hnear, _⟩ := harrives slot t hmem field hslotField
  have hentry := read_of_readFields (nodup_fields v) hg hmem hslotField
  obtain rfl : e = g.get field := Except.ok.inj (hread.symm.trans hentry)
  exact hnear

/-- A row that arrives is written again for the reading that came out of it. -/
theorem writes_again (h : Writes r v written) {g : Fields}
    (hg : readFields v.slots written .empty = .ok g)
    (harrives : ∀ slot t, (slot, t) ∈ v.slots.zip written → ∀ field, slot.field? = some field →
      slot.Arrives r v.stampStyle field t) {st : Instant}
    (hst : r.observation.timestamp.toStation? = some st) {r' : Reading} (hfields : r'.fields = g)
    (hst' : r'.observation.timestamp.toStation? = some st) : Writes r' v written := by
  apply mapM_eq_ok_iff.mpr
  rw [List.forall₂_iff_zip]
  refine ⟨v.length_slots.trans h.length_eq.symm, fun {slot t} hmem => ?_⟩
  cases hfield : slot.field? with
  | none =>
    obtain ⟨t', hwrite⟩ := exists_write_of_field?_none hfield st v.stampStyle
    obtain rfl : t' = t := Except.ok.inj ((hwrite r hst).symm.trans (h.write_of_mem_zip hmem))
    exact hwrite r' hst'
  | some field =>
    obtain ⟨e, hread, _, hagain⟩ := harrives slot t hmem field hfield
    have hentry := read_of_readFields (nodup_fields v) hg hmem hfield
    apply hagain
    rw [hfields]
    exact Except.ok.inj (hentry.symm.trans hread)

end Writes

theorem isKept_of_isNear {v : Variant} {r r' : Reading}
    (hnear : ∀ field ∈ v.fields, (r.fields.get field).IsNear (r'.fields.get field))
    (habsent : ∀ field, field ∉ v.fields → r'.fields.get field = Fields.empty.get field)
    (hobserved : r'.observation.timestamp.moment? = r.observation.timestamp.moment?)
    (hreported : r'.health.timestamp.moment? = r.observation.timestamp.moment?)
    (hmessage : r'.health.errorMessage = []) : r.IsKept v r' := by
  have hsame : ∀ field ∈ v.fields, field ≠ .quantity .rainRate →
      r'.fields.get field = r.fields.get field := fun field hmem hne =>
    (hnear field hmem).eq_of_ne (by rw [Fields.field_get]; exact hne)
  constructor
  · intro q hq
    have := hsame (.quantity q) (mem_fields_quantity v q) (by simpa using hq)
    simpa [Fields.get, Reading.fields] using this
  · exact Entry.IsNear.rain_iff.mp (hnear _ (mem_fields_quantity v .rainRate))
  · intro g hg
    simpa [Fields.get, Reading.fields] using hsame (.gauge g) hg (by simp)
  · intro g hg
    simpa [Fields.get, Reading.fields, Fields.empty] using habsent (.gauge g) hg
  · intro c hc
    simpa [Fields.get, Reading.fields] using hsame (.code c) hc (by simp)
  · intro c hc
    simpa [Fields.get, Reading.fields, Fields.empty] using habsent (.code c) hc
  · simpa [Fields.get, Reading.fields] using hsame .signal (mem_fields_signal v) (by simp)
  · exact hobserved
  · exact hreported
  · exact hmessage

/-- **A reading that is sent comes back.** Its numbers are hundredths, its texts are free of reserved
    parts, its signal strength has 32 bits, its time is a whole second of the stations' clock inside the
    window, and no number is written like the mark of a silent sensor. What comes back is written the
    same way again. -/
theorem encode_decode [HostZone] {v : Variant} {r : Reading} {st now : Instant} {received taken : ℤ}
    (hsend : ∀ slot ∈ v.slots, slot.IsSendable r)
    (hst : r.observation.timestamp.toStation? = some st)
    (hwhole : st.localTime.time.microsecond = 0) (hyear : 1000 ≤ st.localTime.date.year)
    (hnow : now.moment? = some received) (htaken : r.observation.timestamp.moment? = some taken)
    (hwindow : IsPlausible received taken)
    (hspeaks : ∀ slot ∈ v.slots, ∀ mark ∈ slot.silentToken?, slot.write r v.stampStyle ≠ .ok mark) :
    ∃ t r', encode r v.size = .ok t ∧ (decode t now).outcome = .ok r' ∧ r.IsKept v r' ∧
      encode r' v.size = .ok t := by
  -- the row is written
  have hwrite : ∀ slot ∈ v.slots, ∀ field, slot.field? = some field →
      ∃ t, slot.write r v.stampStyle = .ok t := by
    intro slot hslot field hfield
    obtain ⟨t, ht, _⟩ := Slot.exists_read_of_write hfield (hsend slot hslot) v.stampStyle
      fun q keepsMark heq => eq_rainRate_of_mem_slots (heq ▸ hslot)
    exact ⟨t, ht⟩
  obtain ⟨written, hwrites⟩ := exists_writes hst hwrite
  -- the row is read
  obtain ⟨g, hg⟩ := hwrites.exists_readFields
  have hmoment := Instant.moment?_of_toStation? hst htaken
  obtain ⟨whole, hcheck⟩ := checkStamp_of_isPlausible
    (since?_of_station (Instant.zone_of_toStation? hst) hnow hmoment) hwindow
  have hdecode := hwrites.outcome_decode_of_check hg hst hwhole hyear hcheck
  have harrives : ∀ slot t, (slot, t) ∈ v.slots.zip written → ∀ field, slot.field? = some field →
      slot.Arrives r v.stampStyle field t := fun slot t hmem field hfield =>
    hwrites.arrives hsend hspeaks hmem hfield
  have hst' : st.toStation? = some st := Instant.toStation?_of_station (Instant.zone_of_toStation? hst)
  refine ⟨telegramOf written, _, encode_eq_ok_iff.mpr ⟨written, hwrites, rfl⟩, hdecode, ?_, ?_⟩
  · apply isKept_of_isNear
    · exact fun field hmem => hwrites.isNear_of_readFields hg harrives hmem
    · exact fun field hmem => get_of_readFields_of_not_mem hg hmem
    · exact hmoment.trans htaken.symm
    · exact hmoment.trans htaken.symm
    · rfl
  · exact encode_eq_ok_iff.mpr
      ⟨written, hwrites.writes_again hg harrives hst (fields_assemble _ g _) hst', rfl⟩

theorem sampleReading_number? (slot : Slot) : sampleReading.number? slot = none ∨
    ∃ s, ∃ k ≤ 10 ^ 12, sampleReading.number? slot = some (hundredths s k) := by
  cases slot with
  | quantity q unit keepsMark =>
    cases q <;> first | exact .inl rfl | exact .inr ⟨_, _, by norm_num, rfl⟩
  | gauge g => cases g <;> first | exact .inl rfl | exact .inr ⟨_, _, by norm_num, rfl⟩
  | voltage g form => cases g <;> first | exact .inl rfl | exact .inr ⟨_, _, by norm_num, rfl⟩
  | code c => exact .inl rfl
  | signal => exact .inl rfl
  | stamp => exact .inl rfl
  | blank filler => exact .inl rfl

theorem sampleReading_isSendable (slot : Slot) : slot.IsSendable sampleReading where
  number := by
    intro x hx
    rcases sampleReading_number? slot with hnone | ⟨s, k, hk, hsome⟩
    · rw [hnone] at hx
      cases hx
    · rw [hsome] at hx
      exact ⟨s, k, hk, (Option.some.inj hx).symm⟩
  code := by
    rintro c rfl
    cases c <;> decide
  signal := by
    rintro rfl k hk
    obtain rfl : -71 = k := Option.some.inj hk
    unfold IsInt32
    decide

theorem encode_decode_sample :
    ∃ t r', encode sampleReading Variant.v20.size = .ok t ∧
      (decode t sampleReceipt).outcome = .ok r' ∧ sampleReading.IsKept .v20 r' ∧
      encode r' Variant.v20.size = .ok t :=
  encode_decode (v := .v20) (fun slot _ => sampleReading_isSendable slot) rfl rfl (by decide) rfl rfl
    (by unfold IsPlausible; decide +kernel) (by decide +kernel)

/-! ## Sent on -/

/-- The row of a reading that came out of a row gives the same fields again. -/
theorem Writes.readFields_again [HostZone] {r : Reading} {v : Variant} {written tokens : List Text}
    (h : Writes r v written) (hlength : tokens.length = v.size)
    (hg : readFields v.slots tokens .empty = .ok r.fields)
    (hreserved : ∀ t ∈ tokens, isReserved t = false)
    (hbound : ∀ slot ∈ v.slots, ∀ x ∈ r.number? slot, x.abs ≤ 10000000000)
    (hspeaks : ∀ slot ∈ v.slots, ∀ mark ∈ slot.silentToken?, slot.write r v.stampStyle ≠ .ok mark) :
    readFields v.slots written .empty = .ok r.fields := by
  obtain ⟨g, hg'⟩ := h.exists_readFields
  rw [hg']
  congr 1
  apply Fields.ext_get
  intro field
  by_cases hfield : field ∈ v.fields
  · obtain ⟨slot, hslot, hslotField⟩ := List.mem_filterMap.mp hfield
    obtain ⟨w, hw⟩ := exists_mem_zip (v.length_slots.trans hlength.symm) hslot
    obtain ⟨t, ht⟩ := exists_mem_zip (v.length_slots.trans h.length_eq.symm) hslot
    have hread := read_of_readFields (nodup_fields v) hg hw hslotField
    have hread' := read_of_readFields (nodup_fields v) hg' ht hslotField
    have hwrite := h.write_of_mem_zip ht
    obtain ⟨t', hwrite', hback⟩ := Slot.exists_write_of_read hslotField hread
      (hreserved w (List.of_mem_zip hw).2) (hbound slot hslot) v.stampStyle
    obtain rfl : t' = t := Except.ok.inj (hwrite'.symm.trans hwrite)
    have hloud : slot.Speaks t' := fun mark hmark heq => hspeaks slot hslot mark hmark (heq ▸ hwrite)
    exact Except.ok.inj (hread'.symm.trans (hback hloud))
  · rw [get_of_readFields_of_not_mem hg' hfield, get_of_readFields_of_not_mem hg hfield]

/-- **A telegram that is sent on is not altered** but for its text. Its timestamp is read and lies inside
    the window, its numbers are at most ten thousand million, and none is written like the mark of a
    silent sensor. -/
theorem decode_encode_decode [HostZone] {raw : Text} {v : Variant} {r : Reading} {st now : Instant}
    {received taken : ℤ} (hv : Variant.ofMessage raw = .ok v)
    (hdecode : (decode raw now).outcome = .ok r)
    (hstamp : Instant.ofStamp? (stampToken v.slots (tokens (clean raw))) = some st)
    (hyear : 1000 ≤ st.localTime.date.year) (hnow : now.moment? = some received)
    (htaken : st.moment? = some taken) (hwindow : IsPlausible received taken)
    (hbound : ∀ slot ∈ v.slots, ∀ x ∈ r.number? slot, x.abs ≤ 10000000000)
    (hspeaks : ∀ slot ∈ v.slots, ∀ mark ∈ slot.silentToken?, slot.write r v.stampStyle ≠ .ok mark) :
    ∃ t, encode r v.size = .ok t ∧
      (decode t now).outcome = .ok { r with health := { r.health with message := t } } := by
  obtain ⟨hzone, hwhole⟩ := Instant.station_of_ofStamp? hstamp
  obtain ⟨whole, hcheck⟩ := checkStamp_of_isPlausible (since?_of_station hzone hnow htaken) hwindow
  -- the reading is put together from the fields of the row and the check of its timestamp
  rw [outcome_decode_of_ofMessage hv, outcome_decodeAs, hstamp, hcheck] at hdecode
  obtain ⟨g, hg, hassemble⟩ := bind_ok_iff.mp hdecode
  cases hassemble
  have hst : st.toStation? = some st := Instant.toStation?_of_station hzone
  have hlength : (tokens (clean raw)).length = v.size := ofMessage_eq_ok_iff.mp hv
  have hreserved : ∀ t ∈ tokens (clean raw), isReserved t = false := fun t => isReserved_of_mem_tokens
  -- the row is written
  have hwrite : ∀ slot ∈ v.slots, ∀ field, slot.field? = some field → ∃ t,
      slot.write (.assemble (clean raw) g ⟨st, whole, none⟩) v.stampStyle = .ok t := by
    intro slot hslot field hfield
    obtain ⟨w, hw⟩ := exists_mem_zip (v.length_slots.trans hlength.symm) hslot
    obtain ⟨t, ht, _⟩ := Slot.exists_write_of_read (r := .assemble (clean raw) g ⟨st, whole, none⟩)
      hfield (read_of_readFields (nodup_fields v) hg hw hfield)
      (hreserved w (List.of_mem_zip hw).2) (hbound slot hslot) v.stampStyle
    exact ⟨t, ht⟩
  obtain ⟨written, hwrites⟩ := exists_writes hst hwrite
  have hagain := hwrites.readFields_again hlength hg hreserved hbound hspeaks
  exact ⟨telegramOf written, encode_eq_ok_iff.mpr ⟨written, hwrites, rfl⟩,
    hwrites.outcome_decode_of_check hagain hst hwhole hyear hcheck⟩

/-- A message with traces of gateways and numbers that were written freely. -/
def sampleMessage : Text :=
  Text.ofString
    ">0+21.456+1e2%20999.9+10+20.004+180+++-.5+0.013+0+1+2+-071+12.6#+3+f w+2023:06:15:15:00:00+0"

theorem decode_encode_decode_sample :
    ∃ r t, (decode sampleMessage sampleReceipt).outcome = .ok r ∧
      encode r Variant.v19.size = .ok t ∧
      (decode t sampleReceipt).outcome = .ok { r with health := { r.health with message := t } } := by
  have hvariant : Variant.ofMessage sampleMessage = .ok .v19 := by decide +kernel
  have hstamp : Instant.ofStamp? (stampToken Variant.v19.slots (tokens (clean sampleMessage))) =
      some sampleTime := by decide +kernel
  have hreading : (match (decode sampleMessage sampleReceipt).outcome with
      | .ok r => decide ((∀ slot ∈ Variant.v19.slots, ∀ x ∈ r.number? slot, x.abs ≤ 10000000000) ∧
          ∀ slot ∈ Variant.v19.slots, ∀ mark ∈ slot.silentToken?,
            slot.write r Variant.v19.stampStyle ≠ .ok mark)
      | .error _ => false) = true := by decide +kernel
  cases hdecode : (decode sampleMessage sampleReceipt).outcome with
  | error fault =>
    rw [hdecode] at hreading
    cases hreading
  | ok r =>
    rw [hdecode] at hreading
    obtain ⟨hbound, hspeaks⟩ := of_decide_eq_true hreading
    obtain ⟨t, ht, hagain⟩ := decode_encode_decode hvariant hdecode hstamp (by decide) rfl rfl
      (by unfold IsPlausible; decide +kernel) hbound hspeaks
    exact ⟨r, t, rfl, ht, hagain⟩

end WeatherTelegram
