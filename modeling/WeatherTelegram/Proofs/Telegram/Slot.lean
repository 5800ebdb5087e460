import WeatherTelegram.Proofs.Telegram.Encode

/-!
# `Proofs.Telegram.Slot` — one slot, there and back

Each kind of slot reads the token that it wrote: numbers up to the rounding of their unit, all else as it
was. Conversely what a slot once read it reads again from the token it writes for that. Numbers are
excepted where they are written like the mark of a silent sensor.

## Contents
- `Reading.fields`, `Reading.number?`, `Slot.silentToken?`, `Slot.write_congr`.
- `VoltageForm.body_mark`: the two ways to take a voltage out of its token.
- `Slot.IsSendable`, `Entry.IsNear`, `Slot.exists_read_of_write`: written and read.
- `Slot.exists_write_of_read`: read and written.
-/

namespace WeatherTelegram

/-! ## Readings by slots -/

/-- The fields of a reading that a telegram can carry. -/
def Reading.fields (r : Reading) : Fields :=
  ⟨r.observation.value, r.health.gauge, r.health.code, r.health.signal⟩

/-- The number that a slot takes from a reading. -/
def Reading.number? (r : Reading) : Slot → Option Binary64
  | .quantity q _ _ => r.observation.value q
  | .gauge g => r.health.gauge g
  | .voltage g _ => r.health.gauge g
  | .code _ | .signal | .stamp | .blank _ => none

/-- The token of a number that would be read as the mark of a silent sensor. -/
def Slot.silentToken? : Slot → Option Text
  | .quantity _ _ true => none
  | .quantity _ _ false => some silentText
  | .gauge _ => some silentText
  | .voltage _ _ => some (silentText ++ voltageMark)
  | .code _ | .signal | .stamp | .blank _ => none

/-- A slot writes alike for readings that agree on its field. -/
theorem Slot.write_congr [HostZone] {slot : Slot} {field : Field} (hfield : slot.field? = some field)
    {r r' : Reading} (h : r.fields.get field = r'.fields.get field) (style : StampStyle) :
    slot.write r style = slot.write r' style := by
  cases slot with
  | quantity q unit keepsMark =>
    cases hfield
    simp only [Fields.get, Reading.fields, Entry.quantity.injEq] at h
    simp only [Slot.write, h]
  | gauge g =>
    cases hfield
    simp only [Fields.get, Reading.fields, Entry.gauge.injEq] at h
    simp only [Slot.write, h]
  | voltage g form =>
    cases hfield
    simp only [Fields.get, Reading.fields, Entry.gauge.injEq] at h
    simp only [Slot.write, h]
  | code c =>
    cases hfield
    simp only [Fields.get, Reading.fields, Entry.code.injEq] at h
    simp only [Slot.write, h]
  | signal =>
    cases hfield
    simp only [Fields.get, Reading.fields, Entry.signal.injEq] at h
    simp only [Slot.write, h]
  | stamp => cases hfield
  | blank filler => cases hfield

/-! ## Voltages -/

theorem VoltageForm.body_nil (form : VoltageForm) : form.body [] = [] := by
  cases form <;> rfl

/-- Both ways take the mark off again. -/
theorem VoltageForm.body_mark (form : VoltageForm) {t : Text} (h : '#' ∉ t) :
    form.body (t ++ voltageMark) = t := by
  cases form with
  | untilHash =>
    show List.takeWhile (· != '#') (t ++ ['#']) = t
    rw [List.takeWhile_append_of_pos]
    · simp
    · intro c hc
      rw [bne_iff_ne]
      rintro rfl
      exact h hc
  | withoutLast => exact List.dropLast_concat

/-- A voltage is written as a number with a mark, and read as that number. -/
theorem exists_writeVoltage {x : Option Binary64} {t : Text} (h : writeNumber x = .ok t) :
    ∃ t', writeVoltage x = .ok t' ∧ (∀ form : VoltageForm, form.body t' = t) ∧
      (t' ≠ silentText ++ voltageMark → t ≠ silentText) := by
  cases x with
  | none =>
    cases h
    exact ⟨[], rfl, VoltageForm.body_nil, fun _ => by decide⟩
  | some x =>
    refine ⟨t ++ voltageMark, ?_, fun form => form.body_mark (hash_not_mem_of_writeNumber h), ?_⟩
    · show (writeNumber (some x)).map (· ++ voltageMark) = _
      rw [h]
      rfl
    · rintro hne rfl
      exact hne rfl

/-! ## Written and read -/

/-- What a slot can send so that it arrives: numbers of hundredths, texts without reserved parts, and
    whole numbers of 32 bits. -/
structure Slot.IsSendable (slot : Slot) (r : Reading) : Prop where
  number : ∀ x ∈ r.number? slot, OnGrid x
  code : ∀ c, slot = .code c → isReserved (r.health.code c) = false
  signal : slot = .signal → ∀ k ∈ r.health.signal, IsInt32 k

/-- The same entry, or a rain rate of one hundredth more or less. -/
inductive Entry.IsNear : Entry → Entry → Prop where
  | refl (e : Entry) : Entry.IsNear e e
  | rain {x x' : Option Binary64} (h : WeatherTelegram.IsNear x x') :
      Entry.IsNear (.quantity .rainRate x) (.quantity .rainRate x')

theorem Entry.IsNear.eq_of_ne {e e' : Entry} (h : e.IsNear e')
    (hne : e.field ≠ .quantity .rainRate) : e' = e := by
  cases h with
  | refl => rfl
  | rain h => exact absurd rfl hne

theorem Entry.IsNear.rain_iff {x x' : Option Binary64} :
    Entry.IsNear (.quantity .rainRate x) (.quantity .rainRate x') ↔ WeatherTelegram.IsNear x x' := by
  refine ⟨fun h => ?_, .rain⟩
  cases h with
  | refl => exact .refl x
  | rain h => exact h

/-- A token that is not read as the mark of a silent sensor. -/
def Slot.Speaks (slot : Slot) (token : Text) : Prop :=
  ∀ mark ∈ slot.silentToken?, token ≠ mark

theorem Slot.Speaks.loud {q : Quantity} {unit : WireUnit} {keepsMark : Bool} {t : Text}
    (h : Slot.Speaks (.quantity q unit keepsMark) t) : keepsMark = true ∨ t ≠ silentText := by
  cases keepsMark with
  | true => exact .inl rfl
  | false => exact .inr (h silentText rfl)

/-- The outcome of sending a slot: it reads an entry near its own from the token that it writes, and
    writes the same token for that entry. -/
def Slot.Arrives [HostZone] (slot : Slot) (r : Reading) (style : StampStyle) (field : Field)
    (t : Text) : Prop :=
  ∃ e, slot.read t = .ok e ∧ Entry.IsNear (r.fields.get field) e ∧
    ∀ r' : Reading, r'.fields.get field = e → slot.write r' style = .ok t

/-- An entry that comes back unchanged arrives. -/
theorem Slot.arrives_of_read [HostZone] {slot : Slot} {r : Reading} {style : StampStyle} {field : Field}
    {t : Text} (hfield : slot.field? = some field) (hwrite : slot.write r style = .ok t)
    (hread : slot.read t = .ok (r.fields.get field)) : slot.Arrives r style field t :=
  ⟨_, hread, .refl _, fun _ h => (Slot.write_congr hfield h style).trans hwrite⟩

theorem asFault_map_ok {α β : Type} {x : Except NonFinite α} {a : α} (h : x = .ok a) (f : α → β) :
    (asFault x).map f = .ok (f a) := by
  rw [h]
  rfl

theorem Slot.read_write_code [HostZone] {r : Reading} {c : Code} (h : isReserved (r.health.code c) = false)
    (style : StampStyle) : ∃ t, Slot.write r style (.code c) = .ok t ∧
      Slot.read (.code c) t = .ok (r.fields.get (.code c)) := by
  refine ⟨r.health.code c, ?_, rfl⟩
  simp only [Slot.write, h]
  rfl

theorem Slot.read_write_signal [HostZone] {r : Reading} (h : ∀ k, r.health.signal = some k → IsInt32 k)
    (style : StampStyle) : ∃ t, Slot.write r style .signal = .ok t ∧
      Slot.read .signal t = .ok (r.fields.get .signal) := by
  simp only [Slot.write, Slot.read, Fields.get, Reading.fields]
  cases hsignal : r.health.signal with
  | none => exact ⟨[], rfl, rfl⟩
  | some k =>
    refine ⟨Text.ofInt k, writeWhole_of_isInt32 (h k hsignal), ?_⟩
    rw [readWhole_ofInt (h k hsignal)]
    rfl

/-- **One slot, there and back.** -/
theorem Slot.exists_read_of_write [HostZone] {slot : Slot} {field : Field} (hfield : slot.field? = some field)
    {r : Reading} (h : slot.IsSendable r) (style : StampStyle)
    (htips : ∀ q keepsMark, slot = .quantity q .tipsPerInterval keepsMark → q = .rainRate) :
    ∃ t, slot.write r style = .ok t ∧ (slot.Speaks t → slot.Arrives r style field t) := by
  cases slot with
  | quantity q unit keepsMark =>
    cases hfield
    obtain ⟨t, hwrite, hback⟩ := unit.exists_read_of_write keepsMark h.number
    refine ⟨t, asFault_eq_ok_iff.mpr hwrite, fun hspeaks => ?_⟩
    obtain ⟨x', hread, hnear, hsame, hagain⟩ := hback hspeaks.loud
    refine ⟨.quantity q x', asFault_map_ok hread _, ?_, ?_⟩
    · by_cases hu : unit = .tipsPerInterval
      · subst hu
        obtain rfl := htips q keepsMark rfl
        exact .rain hnear
      · rw [hsame hu]
        exact .refl _
    · intro r' hr'
      simp only [Fields.get, Reading.fields, Entry.quantity.injEq, true_and] at hr'
      simp only [Slot.write, hr']
      exact asFault_eq_ok_iff.mpr hagain
  | gauge g =>
    cases hfield
    obtain ⟨t, hwrite, hback⟩ := WireUnit.exists_read_of_write .asKept false h.number
    refine ⟨t, asFault_eq_ok_iff.mpr hwrite, fun hspeaks => ?_⟩
    obtain ⟨x', hread, _, hsame, _⟩ := hback (.inr (hspeaks silentText rfl))
    rw [hsame (by decide)] at hread
    exact Slot.arrives_of_read rfl (asFault_eq_ok_iff.mpr hwrite) (asFault_map_ok hread _)
  | voltage g form =>
    cases hfield
    obtain ⟨t, hwrite, hback⟩ := WireUnit.exists_read_of_write .asKept false h.number
    obtain ⟨t', hwrite', hbody, hsilent⟩ := exists_writeVoltage hwrite
    refine ⟨t', asFault_eq_ok_iff.mpr hwrite', fun hspeaks => ?_⟩
    obtain ⟨x', hread, _, hsame, _⟩ := hback (.inr (hsilent (hspeaks _ rfl)))
    rw [hsame (by decide), ← hbody form] at hread
    exact Slot.arrives_of_read rfl (asFault_eq_ok_iff.mpr hwrite') (asFault_map_ok hread _)
  | code c =>
    cases hfield
    obtain ⟨t, hwrite, hread⟩ := Slot.read_write_code (h.code c rfl) style
    exact ⟨t, hwrite, fun _ => Slot.arrives_of_read rfl hwrite hread⟩
  | signal =>
    cases hfield
    obtain ⟨t, hwrite, hread⟩ := Slot.read_write_signal (h.signal rfl) style
    exact ⟨t, hwrite, fun _ => Slot.arrives_of_read rfl hwrite hread⟩
  | stamp => cases hfield
  | blank filler => cases hfield

/-! ## Read and written -/

/-- **One slot, read once.** -/
theorem Slot.exists_write_of_read [HostZone] {slot : Slot} {field : Field} (hfield : slot.field? = some field)
    {r : Reading} {w : Text} (hread : slot.read w = .ok (r.fields.get field))
    (hreserved : isReserved w = false)
    (hnumber : ∀ x ∈ r.number? slot, x.abs ≤ 10000000000) (style : StampStyle) :
    ∃ t, slot.write r style = .ok t ∧
      (slot.Speaks t → slot.read t = .ok (r.fields.get field)) := by
  cases slot with
  | quantity q unit keepsMark =>
    cases hfield
    obtain ⟨x, hx, heq⟩ := map_ok_iff.mp hread
    cases heq
    obtain ⟨t, hwrite, hback⟩ := unit.exists_write_of_read (asFault_eq_ok_iff.mp hx) hnumber
    refine ⟨t, asFault_eq_ok_iff.mpr hwrite, fun hspeaks => ?_⟩
    exact asFault_map_ok (hback hspeaks.loud) _
  | gauge g =>
    cases hfield
    obtain ⟨x, hx, heq⟩ := map_ok_iff.mp hread
    cases heq
    obtain ⟨t, hwrite, hback⟩ :=
      WireUnit.exists_write_of_read .asKept (asFault_eq_ok_iff.mp hx) hnumber
    refine ⟨t, asFault_eq_ok_iff.mpr hwrite, fun hspeaks => ?_⟩
    exact asFault_map_ok (hback (.inr (hspeaks silentText rfl))) _
  | voltage g form =>
    cases hfield
    obtain ⟨x, hx, heq⟩ := map_ok_iff.mp hread
    cases heq
    obtain ⟨t, hwrite, hback⟩ :=
      WireUnit.exists_write_of_read .asKept (asFault_eq_ok_iff.mp hx) hnumber
    obtain ⟨t', hwrite', hbody, hsilent⟩ := exists_writeVoltage hwrite
    refine ⟨t', asFault_eq_ok_iff.mpr hwrite', fun hspeaks => ?_⟩
    have hagain := hback (.inr (hsilent (hspeaks _ rfl)))
    rw [← hbody form] at hagain
    exact asFault_map_ok hagain _
  | code c =>
    cases hfield
    have hcode : w = r.health.code c := by cases hread; rfl
    rw [hcode] at hreserved
    obtain ⟨t, hwrite, hagain⟩ := Slot.read_write_code hreserved style
    exact ⟨t, hwrite, fun _ => hagain⟩
  | signal =>
    cases hfield
    obtain ⟨k, hk, heq⟩ := map_ok_iff.mp hread
    have hsignal : r.health.signal = k := by cases heq; rfl
    have hbounds : ∀ i, r.health.signal = some i → IsInt32 i := by
      rintro i hi
      rw [hsignal] at hi
      exact isInt32_of_readWhole (hi ▸ hk)
    obtain ⟨t, hwrite, hagain⟩ := Slot.read_write_signal hbounds style
    exact ⟨t, hwrite, fun _ => hagain⟩
  | stamp => cases hfield
  | blank filler => cases hfield

end WeatherTelegram
