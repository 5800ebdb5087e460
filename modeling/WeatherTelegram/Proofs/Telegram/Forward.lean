import WeatherTelegram.Proofs.Telegram.RoundTrip

/-!
# `Proofs.Telegram.Forward` — what was read can be written, in every layout

Whatever a token is read as can be written again: numbers come out as hundredths far from overflow, texts
without reserved parts, whole numbers with 32 bits. This holds of each entry by itself, so that the
layout of the telegram does not bind the one that the reading is written in. The timestamp is either one
of the stations' clock or the time of receipt, which that clock can show a day inside the calendar.

## Contents
- **Entries.** `Entry.IsWritable`, `Slot.isWritable_of_read`, `Slot.exists_write_of_isWritable`.
- **Readings.** `isWritable_of_readFields`, `encode_of_decode`.
-/

namespace WeatherTelegram

/-! ## Entries -/

/-- What every slot of the entry's field can write. -/
def Entry.IsWritable : Entry → Prop
  | .quantity _ x => ∀ y, x = some y → IsWithinReach y
  | .gauge _ x => ∀ y, x = some y → IsWithinReach y
  | .code _ t => isReserved t = false
  | .signal x => ∀ k, x = some k → IsInt32 k

/-- **What a slot reads is writable.** -/
theorem Slot.isWritable_of_read {slot : Slot} {token : Text} {e : Entry}
    (h : slot.read token = .ok e) (htoken : isReserved token = false) : e.IsWritable := by
  cases slot with
  | quantity q unit keepsMark =>
    obtain ⟨x, hx, rfl⟩ := map_ok_iff.mp h
    rintro y rfl
    exact unit.isWithinReach_of_read (asFault_eq_ok_iff.mp hx)
  | gauge g =>
    obtain ⟨x, hx, rfl⟩ := map_ok_iff.mp h
    rintro y rfl
    exact WireUnit.isWithinReach_of_read .asKept (asFault_eq_ok_iff.mp hx)
  | voltage g form =>
    obtain ⟨x, hx, rfl⟩ := map_ok_iff.mp h
    rintro y rfl
    exact WireUnit.isWithinReach_of_read .asKept (asFault_eq_ok_iff.mp hx)
  | code c =>
    cases h
    exact htoken
  | signal =>
    obtain ⟨x, hx, rfl⟩ := map_ok_iff.mp h
    rintro k rfl
    exact isInt32_of_readWhole hx
  | stamp => cases h
  | blank filler => cases h

/-- **What is writable is written** by any slot of its field. -/
theorem Slot.exists_write_of_isWritable [HostZone] {slot : Slot} {field : Field}
    (hfield : slot.field? = some field) {r : Reading} (h : (r.fields.get field).IsWritable)
    (style : StampStyle) : ∃ t, slot.write r style = .ok t := by
  cases slot with
  | quantity q unit keepsMark =>
    cases hfield
    obtain ⟨t, ht⟩ := unit.exists_write h
    exact ⟨t, asFault_eq_ok_iff.mpr ht⟩
  | gauge g =>
    cases hfield
    obtain ⟨t, ht⟩ := WireUnit.exists_write .asKept h
    exact ⟨t, asFault_eq_ok_iff.mpr ht⟩
  | voltage g form =>
    cases hfield
    obtain ⟨t, ht⟩ := WireUnit.exists_write .asKept h
    obtain ⟨t', ht', _⟩ := exists_writeVoltage ht
    exact ⟨t', asFault_eq_ok_iff.mpr ht'⟩
  | code c =>
    cases hfield
    obtain ⟨t, ht, _⟩ := Slot.read_write_code h style
    exact ⟨t, ht⟩
  | signal =>
    cases hfield
    obtain ⟨t, ht, _⟩ := Slot.read_write_signal h style
    exact ⟨t, ht⟩
  | stamp => cases hfield
  | blank filler => cases hfield

/-! ## Readings -/

/-- All fields of a row are writable, those that it does not carry as well. -/
theorem isWritable_of_readFields {v : Variant} {tokens : List Text} (hlength : tokens.length = v.size)
    (hreserved : ∀ t ∈ tokens, isReserved t = false) {g : Fields}
    (h : readFields v.slots tokens .empty = .ok g) (field : Field) : (g.get field).IsWritable := by
  refine forall_get_of_readFields hlength h
    (fun slot _ token htoken _ hread => Slot.isWritable_of_read hread (hreserved token htoken))
    (fun field => ?_) field
  cases field with
  | quantity q => exact fun y hy => by cases hy
  | gauge g => exact fun y hy => by cases hy
  | code c => exact Text.isPlain_nil.not_isReserved
  | signal => exact fun k hk => by cases hk

/-- **Every telegram can be sent on in every layout.** What was read from any text, received at a time
    that lies at least a day inside the years of the calendar, is written in each of the four layouts, and
    what is written is of that layout. -/
theorem encode_of_decode [HostZone] {raw : Text} {now : Instant} {r : Reading} (hinside : now.IsInside 1)
    (hdecode : (decode raw now).outcome = .ok r) (w : Variant) :
    ∃ t, encode r w.size = .ok t ∧ Variant.ofMessage t = .ok w := by
  obtain ⟨v, g, check, hv, hg, hcheck, rfl⟩ := outcome_decode_eq_ok_iff.mp hdecode
  -- the stations' clock shows the timestamp, whichever of the two it is
  have hstation : ∃ st, check.timestamp.toStation? = some st := by
    rcases timestamp_of_checkStamp hcheck with hstamp | hreceipt
    · exact ⟨_, Instant.toStation?_of_station (Instant.station_of_ofStamp? hstamp).1⟩
    · rw [hreceipt]
      exact hinside.exists_toStation?
  obtain ⟨st, hst⟩ := hstation
  have hwritable : ∀ field, (g.get field).IsWritable := isWritable_of_readFields
    (ofMessage_eq_ok_iff.mp hv) (fun t => isReserved_of_mem_tokens) hg
  obtain ⟨written, hwrites⟩ := exists_writes (r := .assemble (clean raw) g check) (v := w) hst
    fun slot _ field hfield => Slot.exists_write_of_isWritable (r := .assemble (clean raw) g check)
      hfield (hwritable field) w.stampStyle
  exact ⟨telegramOf written, encode_eq_ok_iff.mpr ⟨written, hwrites, rfl⟩,
    hwrites.ofMessage_telegramOf⟩

/-- A message with numbers at both ends of their range and a clock that lost a quarter of a century. -/
def limitMessage : Text :=
  Text.ofString "0+340282346638528859811704183484516925440+-340282346638528859811704183484516925440+999.9" ++
    Text.ofString "+340282346638528859811704183484516925440+3.4e38+1++++340282346638528859811704183484516925440" ++
    Text.ofString "+0+1+2+2147483647+12.6#+3+%2 f+1999:01:01:00:00:00+0"

theorem encode_of_decode_limit :
    sampleReceipt.IsInside 1 ∧ ∃ r t, (decode limitMessage sampleReceipt).outcome = .ok r ∧
      encode r Variant.v24.size = .ok t ∧ Variant.ofMessage t = .ok .v24 := by
  have hinside : sampleReceipt.IsInside 1 := by
    unfold Instant.IsInside
    decide +kernel
  obtain ⟨r, hr⟩ : ∃ r, (decode limitMessage sampleReceipt).outcome = .ok r :=
    exists_of_isOk (by decide +kernel)
  obtain ⟨t, ht, hvariant⟩ := encode_of_decode hinside hr .v24
  exact ⟨hinside, r, t, hr, ht, hvariant⟩

end WeatherTelegram
