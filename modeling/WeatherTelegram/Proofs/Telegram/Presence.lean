import WeatherTelegram.Proofs.Telegram.Agreement
import WeatherTelegram.Proofs.Wire.Written

/-!
# `Proofs.Telegram.Presence` — no value is lost or invented on the wire

What a reading holds is present after its telegram and what it does not hold is absent, with two
exceptions, which the number that travels decides alone: it is the mark of a silent sensor where that mark
counts as none, or it does not fit single precision. This holds of doubles of any size and of every
layout; a reading without such numbers is scored as complete as it was sent.

## Contents
- **Slots.** `Slot.Sends`, `Slot.number?_eq_none_iff`.
- **Rows.** `Writes.number?_eq_none_iff`.
- **Readings.** `Reading.IsSentAs`, `decode_encode_presence`.
-/

namespace WeatherTelegram

/-! ## Slots -/

/-- The number that a slot sends for a reading: in the unit it travels in, rounded to hundredths. -/
def Slot.Sends (slot : Slot) (r : Reading) (z : Binary64) : Prop :=
  ∃ x, r.number? slot = some x ∧ (x / slot.factor).roundToHundredths = .ok z

theorem Slot.Sends.unique {slot : Slot} {r : Reading} {z z' : Binary64} (h : slot.Sends r z)
    (h' : slot.Sends r z') : z = z' := by
  obtain ⟨x, hx, hz⟩ := h
  obtain ⟨x', hx', hz'⟩ := h'
  obtain rfl : x = x' := Option.some.inj (hx.symm.trans hx')
  exact Except.ok.inj (hz.symm.trans hz')

/-- **One slot, present or absent.** -/
theorem Slot.number?_eq_none_iff [HostZone] {slot : Slot} {field : Field} (hfield : slot.field? = some field)
    {r r' : Reading} {style : StampStyle} {t : Text} (hwrite : slot.write r style = .ok t)
    (hread : slot.read t = .ok (r'.fields.get field)) :
    r'.number? slot = none ↔ r.number? slot = none ∨ ∃ z, slot.Sends r z ∧ IsLost slot.keepsMark z := by
  -- reading in a unit decides it, whichever slot the unit is read in
  have hunit : ∀ (u : WireUnit) (keepsMark : Bool) {x y : Option Binary64} {w : Text},
      u.write x = .ok w → u.read keepsMark w = .ok y →
      (y = none ↔ x = none ∨
        ∃ z, (∃ n, x = some n ∧ (n / u.factor).roundToHundredths = .ok z) ∧ IsLost keepsMark z) := by
    intro u keepsMark x y w hw hy
    have hlost := u.read_written_eq_none_iff keepsMark hw
    rw [hy, Except.ok.injEq] at hlost
    rw [hlost]
    constructor
    · rintro (hnone | ⟨n, z, hn, hz, h⟩)
      · exact .inl hnone
      · exact .inr ⟨z, ⟨n, hn, hz⟩, h⟩
    · rintro (hnone | ⟨z, ⟨n, hn, hz⟩, h⟩)
      · exact .inl hnone
      · exact .inr ⟨n, z, hn, hz, h⟩
  cases slot with
  | quantity q unit keepsMark =>
    cases hfield
    obtain ⟨y, hy, heq⟩ := map_ok_iff.mp hread
    cases heq
    exact hunit unit keepsMark (asFault_eq_ok_iff.mp hwrite) (asFault_eq_ok_iff.mp hy)
  | gauge g =>
    cases hfield
    obtain ⟨y, hy, heq⟩ := map_ok_iff.mp hread
    cases heq
    exact hunit .asKept false (asFault_eq_ok_iff.mp hwrite) (asFault_eq_ok_iff.mp hy)
  | voltage g form =>
    cases hfield
    obtain ⟨body, hbody, hread'⟩ := Slot.read_gauge_of_write rfl hwrite
    rw [hread'] at hread
    obtain ⟨y, hy, heq⟩ := map_ok_iff.mp hread
    cases heq
    exact hunit .asKept false hbody (asFault_eq_ok_iff.mp hy)
  | code c => exact ⟨fun _ => .inl rfl, fun _ => rfl⟩
  | signal => exact ⟨fun _ => .inl rfl, fun _ => rfl⟩
  | stamp => cases hfield
  | blank filler => cases hfield

theorem Reading.number?_of_field?_none (r : Reading) {slot : Slot} (h : slot.field? = none) :
    r.number? slot = none := by
  cases slot with
  | stamp => rfl
  | blank filler => rfl
  | quantity q unit keepsMark => cases h
  | gauge g => cases h
  | voltage g form => cases h
  | code c => cases h
  | signal => cases h

/-! ## Rows -/

namespace Writes

variable [HostZone] {r r' : Reading} {v : Variant} {written : List Text}

/-- Every slot of a row decides by itself. -/
theorem number?_eq_none_iff (h : Writes r v written)
    (hread : readFields v.slots written .empty = .ok r'.fields) {slot : Slot} (hslot : slot ∈ v.slots) :
    r'.number? slot = none ↔ r.number? slot = none ∨ ∃ z, slot.Sends r z ∧ IsLost slot.keepsMark z := by
  cases hfield : slot.field? with
  | none =>
    rw [r.number?_of_field?_none hfield, r'.number?_of_field?_none hfield]
    exact ⟨fun _ => .inl rfl, fun _ => rfl⟩
  | some field =>
    obtain ⟨t, hmem⟩ := exists_mem_zip (v.length_slots.trans h.length_eq.symm) hslot
    exact Slot.number?_eq_none_iff hfield (h.write_of_mem_zip hmem)
      (read_of_readFields (nodup_fields v) hread hmem hfield)

end Writes

/-! ## Readings -/

/-- What a telegram keeps of the presence of the numbers of a reading. -/
structure Reading.IsSentAs (v : Variant) (r r' : Reading) : Prop where
  number : ∀ slot ∈ v.slots, r'.number? slot = none ↔
    r.number? slot = none ∨ ∃ z, slot.Sends r z ∧ IsLost slot.keepsMark z
  value : ∀ q, r.observation.value q = none → r'.observation.value q = none
  gauge : ∀ g, r.health.gauge g = none → r'.health.gauge g = none
  presence : (∀ q unit keepsMark, Slot.quantity q unit keepsMark ∈ v.slots →
      ∀ z, (Slot.quantity q unit keepsMark).Sends r z → ¬ IsLost keepsMark z) →
    r'.health.presence = r.observation.presence ∧ r'.health.presentCount = r.observation.presentCount

/-- The score of an observation depends on what is present alone. -/
theorem score_congr {o o' : Observation} (h : ∀ q, o'.value q = none ↔ o.value q = none) :
    o'.presence = o.presence ∧ o'.presentCount = o.presentCount := by
  have hsome : ∀ q, (o'.value q).isSome = (o.value q).isSome := by
    intro q
    rw [Bool.eq_iff_iff, Option.isSome_iff_ne_none, Option.isSome_iff_ne_none, Ne, Ne, h q]
  constructor
  · simp only [Observation.presence, hsome]
  · simp only [Observation.presentCount, hsome]

/-- **No value is lost or invented on the wire.** The telegram of a reading is always read; a number of the
    reading is absent from what was read exactly if it was absent before, or what its slot sends is lost;
    and a reading that loses no quantity is scored as it was sent. -/
theorem decode_encode_presence [HostZone] {r : Reading} {v : Variant} {t : Text} {now : Instant}
    (h : encode r v.size = .ok t) (hnow : now.IsAware) :
    ∃ r', (decode t now).outcome = .ok r' ∧ r.IsSentAs v r' := by
  obtain ⟨written, hwrites, rfl⟩ := encode_eq_ok_iff.mp h
  obtain ⟨f, check, hf, _, hdecode⟩ := hwrites.exists_decode hnow
  have hfields : readFields v.slots written .empty =
      .ok (Reading.assemble (telegramOf written) f check).fields := hf
  have hnumber : ∀ slot ∈ v.slots,
      ((Reading.assemble (telegramOf written) f check).number? slot = none ↔
        r.number? slot = none ∨ ∃ z, slot.Sends r z ∧ IsLost slot.keepsMark z) :=
    fun slot hslot => hwrites.number?_eq_none_iff hfields hslot
  -- every quantity has a slot, which holds its number
  have hquantity : ∀ q, ∃ unit keepsMark, Slot.quantity q unit keepsMark ∈ v.slots := by
    intro q
    obtain ⟨slot, hslot, hfield⟩ := List.mem_filterMap.mp (mem_fields_quantity v q)
    cases slot <;> cases hfield
    exact ⟨_, _, hslot⟩
  refine ⟨_, hdecode, hnumber, ?_, ?_, ?_⟩
  · intro q hq
    obtain ⟨unit, keepsMark, hslot⟩ := hquantity q
    exact (hnumber _ hslot).mpr (.inl hq)
  · intro g hg
    by_cases hcarried : Field.gauge g ∈ v.fields
    · obtain ⟨slot, hslot, hfield⟩ := List.mem_filterMap.mp hcarried
      cases slot <;> cases hfield <;> exact (hnumber _ hslot).mpr (.inl hg)
    · have hempty := get_of_readFields_of_not_mem hf hcarried
      simpa [Fields.get, Fields.empty, Reading.assemble] using hempty
  · intro hkept
    have hscore : ∀ q, f.value q = none ↔ r.observation.value q = none := by
      intro q
      obtain ⟨unit, keepsMark, hslot⟩ := hquantity q
      refine (hnumber _ hslot).trans ⟨?_, .inl⟩
      rintro (hnone | ⟨z, hsends, hlost⟩)
      · exact hnone
      · exact absurd hlost (hkept q unit keepsMark hslot z hsends)
    have hsame : (Reading.assemble (telegramOf written) f check).observation.presence =
          r.observation.presence ∧
        (Reading.assemble (telegramOf written) f check).observation.presentCount =
          r.observation.presentCount := score_congr hscore
    exact ⟨hsame.1, congrArg Nat.cast hsame.2⟩

/-- A temperature beyond single precision and a humidity like the mark of a silent sensor are lost, and a
    pressure like that mark is not. -/
theorem decode_encode_presence_stray :
    sampleReceipt.IsAware ∧ ∃ t r', encode strayReading Variant.v20.size = .ok t ∧
      (decode t sampleReceipt).outcome = .ok r' ∧ r'.observation.value .temperature = none ∧
      r'.observation.value .humidity = none ∧ r'.observation.value .pressure ≠ none := by
  have hnow : sampleReceipt.IsAware := ⟨0, rfl, by decide⟩
  obtain ⟨t, ht⟩ : ∃ t, encode strayReading Variant.v20.size = .ok t :=
    exists_of_isOk (by decide +kernel)
  obtain ⟨r', hdecode, hsent⟩ := decode_encode_presence ht hnow
  have htemperature : (Slot.plain .temperature).Sends strayReading
      (hundredths false 100000000000000000000000000000000000000000) := ⟨_, rfl, by decide +kernel⟩
  have hhumidity : (Slot.plain .humidity).Sends strayReading silentMark := ⟨_, rfl, by decide +kernel⟩
  have hpressure : (Slot.quantity .pressure .asKept true).Sends strayReading silentMark :=
    ⟨_, rfl, by decide +kernel⟩
  refine ⟨hnow, t, r', ht, hdecode, ?_, ?_, ?_⟩
  · exact (hsent.number (.plain .temperature) (by decide)).mpr
      (.inr ⟨_, htemperature, .inr (by decide +kernel)⟩)
  · exact (hsent.number (.plain .humidity) (by decide)).mpr (.inr ⟨_, hhumidity, .inl ⟨rfl, rfl⟩⟩)
  · intro hnone
    rcases (hsent.number (.quantity .pressure .asKept true) (by decide)).mp hnone with h | ⟨z, hz, hlost⟩
    · cases h
    · rw [hz.unique hpressure] at hlost
      rcases hlost with ⟨hmark, _⟩ | hwide
      · cases hmark
      · exact absurd hwide (by decide +kernel)

end WeatherTelegram
