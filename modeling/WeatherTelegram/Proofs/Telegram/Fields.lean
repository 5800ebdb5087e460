import Mathlib.Data.List.Nodup
import WeatherTelegram.Telegram.Decode

/-!
# `Proofs.Telegram.Fields` — the fields that a row of tokens carries

Reading walks the slots and puts one entry after the other. No layout has two slots for one field, so
the fields it ends with hold for each slot exactly what that slot reads from its token, and are absent
where no slot is. Reading a row fails only where reading one of its tokens fails.

## Contents
- **Fields.** `Field`, `Slot.field?`, `Fields.get`, with `Fields.get_put_self` and `Fields.get_put_of_ne`.
- **Layouts.** `Variant.fields`, `nodup_fields`, `mem_fields_quantity`.
- **Rows.** `read_of_readFields`, `get_of_readFields_of_not_mem`, `exists_of_readFields_error`,
  `stampToken_mem_zip`; of a whole layout `forall_get_of_readFields`, `exists_token_of_readFields`.
-/

namespace WeatherTelegram

/-! ## Fields -/

/-- What a token can be the value of. -/
inductive Field where
  | quantity (quantity : Quantity)
  | gauge (gauge : Gauge)
  | code (code : Code)
  | signal
deriving DecidableEq

/-- The field of an entry. -/
def Entry.field : Entry → Field
  | .quantity q _ => .quantity q
  | .gauge g _ => .gauge g
  | .code c _ => .code c
  | .signal _ => .signal

/-- The field that a slot holds, if any. -/
def Slot.field? : Slot → Option Field
  | .quantity q _ _ => some (.quantity q)
  | .gauge g => some (.gauge g)
  | .voltage g _ => some (.gauge g)
  | .code c => some (.code c)
  | .signal => some .signal
  | .stamp | .blank _ => none

namespace Fields

/-- The entry that the fields hold for one of them. -/
def get (f : Fields) : Field → Entry
  | .quantity q => .quantity q (f.value q)
  | .gauge g => .gauge g (f.gauge g)
  | .code c => .code c (f.code c)
  | .signal => .signal f.signal

theorem get_put_self (f : Fields) (e : Entry) : (f.put e).get e.field = e := by
  cases e <;> simp [put, get, Entry.field]

theorem get_put_of_ne {f : Fields} {e : Entry} {field : Field} (h : field ≠ e.field) :
    (f.put e).get field = f.get field := by
  cases e <;> cases field <;> simp_all [put, get, Entry.field]

theorem ext_get {f g : Fields} (h : ∀ field, f.get field = g.get field) : f = g := by
  have hvalue : f.value = g.value := funext fun q => by simpa [get] using h (.quantity q)
  have hgauge : f.gauge = g.gauge := funext fun g' => by simpa [get] using h (.gauge g')
  have hcode : f.code = g.code := funext fun c => by simpa [get] using h (.code c)
  have hsignal : f.signal = g.signal := by simpa [get] using h .signal
  cases f
  cases g
  simp_all

end Fields

theorem hasField_eq (slot : Slot) : slot.hasField = slot.field?.isSome := by
  cases slot <;> rfl

theorem map_ok_iff {ε α β : Type} {x : Except ε α} {f : α → β} {b : β} :
    x.map f = .ok b ↔ ∃ a, x = .ok a ∧ f a = b := by
  cases x <;> simp [Except.map]

theorem exists_of_isOk {ε α : Type} {x : Except ε α} (h : x.isOk = true) : ∃ a, x = .ok a := by
  cases x with
  | ok a => exact ⟨a, rfl⟩
  | error e => cases h

theorem asFault_eq_ok_iff {α : Type} {x : Except NonFinite α} {a : α} :
    asFault x = .ok a ↔ x = .ok a := by
  cases x <;> simp [asFault, Except.mapError]

/-- A slot reads the entry of its own field. -/
theorem field_of_read {slot : Slot} {token : Text} {e : Entry} (h : slot.read token = .ok e) :
    slot.field? = some e.field := by
  cases slot with
  | quantity q unit keepsMark =>
    obtain ⟨_, _, rfl⟩ := map_ok_iff.mp h
    rfl
  | gauge g =>
    obtain ⟨_, _, rfl⟩ := map_ok_iff.mp h
    rfl
  | voltage g form =>
    obtain ⟨_, _, rfl⟩ := map_ok_iff.mp h
    rfl
  | code c =>
    cases h
    rfl
  | signal =>
    obtain ⟨_, _, rfl⟩ := map_ok_iff.mp h
    rfl
  | stamp => cases h
  | blank filler => cases h

/-! ## Layouts -/

/-- The fields that a layout carries, in the order of its tokens. -/
def Variant.fields (v : Variant) : List Field := v.slots.filterMap Slot.field?

theorem nodup_fields (v : Variant) : v.fields.Nodup := by cases v <;> decide

/-- Every layout carries every quantity. -/
theorem mem_fields_quantity (v : Variant) (q : Quantity) : Field.quantity q ∈ v.fields := by
  cases v <;> cases q <;> decide

theorem mem_fields_signal (v : Variant) : Field.signal ∈ v.fields := by cases v <;> decide

/-- The unit that a quantity travels in. -/
def Quantity.wireUnit : Quantity → WireUnit
  | .windSpeed | .gustSpeed => .kilometresPerHour
  | .rainRate => .tipsPerInterval
  | _ => .asKept

/-- Whether the mark of a silent sensor is a value of the quantity, as it is of a pressure. -/
def Quantity.keepsMark (q : Quantity) : Bool := q == .pressure

/-- A quantity travels in the same way in every layout. -/
theorem eq_of_quantity_mem_slots {v : Variant} {q : Quantity} {unit : WireUnit} {keepsMark : Bool}
    (h : Slot.quantity q unit keepsMark ∈ v.slots) : unit = q.wireUnit ∧ keepsMark = q.keepsMark := by
  revert h
  cases v <;> cases q <;> cases unit <;> cases keepsMark <;> decide

/-! ## Rows -/

theorem readFields_cons_none {slot : Slot} (h : slot.field? = none) (slots : List Slot) (token : Text)
    (tokens : List Text) (f : Fields) :
    readFields (slot :: slots) (token :: tokens) f = readFields slots tokens f := by
  rw [readFields, hasField_eq, h]
  rfl

theorem readFields_cons_some {slot : Slot} {field : Field} (h : slot.field? = some field)
    (slots : List Slot) (token : Text) (tokens : List Text) (f : Fields) :
    readFields (slot :: slots) (token :: tokens) f =
      (slot.read token).bind fun e => readFields slots tokens (f.put e) := by
  rw [readFields, hasField_eq, h]
  rfl

theorem bind_ok_iff {ε α β : Type} {x : Except ε α} {f : α → Except ε β} {b : β} :
    x.bind f = .ok b ↔ ∃ a, x = .ok a ∧ f a = .ok b := by
  cases x <;> simp [Except.bind]

/-- A field without a slot stays as it is. -/
theorem get_of_readFields_of_not_mem {slots : List Slot} {tokens : List Text} {f g : Fields}
    (h : readFields slots tokens f = .ok g) {field : Field}
    (hmem : field ∉ slots.filterMap Slot.field?) : g.get field = f.get field := by
  induction slots generalizing tokens f with
  | nil =>
    cases h
    rfl
  | cons slot slots ih =>
    cases tokens with
    | nil =>
      cases h
      rfl
    | cons token tokens =>
      cases hslot : slot.field? with
      | none =>
        rw [readFields_cons_none hslot] at h
        rw [List.filterMap_cons_none hslot] at hmem
        exact ih h hmem
      | some own =>
        rw [readFields_cons_some hslot] at h
        rw [List.filterMap_cons_some hslot, List.mem_cons, not_or] at hmem
        obtain ⟨e, he, hrest⟩ := bind_ok_iff.mp h
        have hown : e.field = own := Option.some.inj ((field_of_read he).symm.trans hslot)
        rw [ih hrest hmem.2]
        exact Fields.get_put_of_ne (by rw [hown]; exact hmem.1)

/-- **A field holds what its slot reads.** -/
theorem read_of_readFields {slots : List Slot} {tokens : List Text} {f g : Fields}
    (hnodup : (slots.filterMap Slot.field?).Nodup) (h : readFields slots tokens f = .ok g)
    {slot : Slot} {token : Text} (hmem : (slot, token) ∈ slots.zip tokens) {field : Field}
    (hfield : slot.field? = some field) : slot.read token = .ok (g.get field) := by
  induction slots generalizing tokens f with
  | nil => cases hmem
  | cons first slots ih =>
    cases tokens with
    | nil => cases hmem
    | cons token' tokens =>
      rw [List.zip_cons_cons, List.mem_cons] at hmem
      cases hfirst : first.field? with
      | none =>
        rw [readFields_cons_none hfirst] at h
        rw [List.filterMap_cons_none hfirst] at hnodup
        rcases hmem with heq | hmem
        · cases heq
          rw [hfield] at hfirst
          cases hfirst
        · exact ih hnodup h hmem
      | some own =>
        rw [readFields_cons_some hfirst] at h
        rw [List.filterMap_cons_some hfirst, List.nodup_cons] at hnodup
        obtain ⟨e, he, hrest⟩ := bind_ok_iff.mp h
        rcases hmem with heq | hmem
        · -- no later slot holds this field, so that its entry stays
          cases heq
          have hown : e.field = own := Option.some.inj ((field_of_read he).symm.trans hfirst)
          obtain rfl : own = field := Option.some.inj (hfirst.symm.trans hfield)
          rw [he, get_of_readFields_of_not_mem hrest hnodup.1, ← hown, Fields.get_put_self]
        · exact ih hnodup.2 hrest hmem

/-- **Only a token fails a row.** -/
theorem exists_of_readFields_error {slots : List Slot} {tokens : List Text} {f : Fields}
    {fault : Fault} (h : readFields slots tokens f = .error fault) :
    ∃ slot token field, (slot, token) ∈ slots.zip tokens ∧ slot.field? = some field ∧
      slot.read token = .error fault := by
  induction slots generalizing tokens f with
  | nil => cases h
  | cons slot slots ih =>
    cases tokens with
    | nil => cases h
    | cons token tokens =>
      cases hslot : slot.field? with
      | none =>
        rw [readFields_cons_none hslot] at h
        obtain ⟨s, t, field, hmem, hrest⟩ := ih h
        exact ⟨s, t, field, List.mem_cons_of_mem _ hmem, hrest⟩
      | some field =>
        rw [readFields_cons_some hslot] at h
        cases hread : slot.read token with
        | error cause =>
          rw [hread] at h
          cases h
          exact ⟨slot, token, field, List.mem_cons_self .., hslot, hread⟩
        | ok e =>
          rw [hread] at h
          obtain ⟨s, t, other, hmem, hrest⟩ := ih h
          exact ⟨s, t, other, List.mem_cons_of_mem _ hmem, hrest⟩

theorem stamp_mem_slots (v : Variant) : Slot.stamp ∈ v.slots := by cases v <;> decide

/-- The token of the timestamp stands at its slot. -/
theorem stampToken_mem_zip {slots : List Slot} {tokens : List Text}
    (hlength : slots.length = tokens.length) (h : Slot.stamp ∈ slots) :
    (Slot.stamp, stampToken slots tokens) ∈ slots.zip tokens := by
  induction slots generalizing tokens with
  | nil => cases h
  | cons slot slots ih =>
    cases tokens with
    | nil => cases hlength
    | cons token tokens =>
      rw [List.zip_cons_cons, List.mem_cons]
      by_cases hslot : slot = .stamp
      · subst hslot
        exact .inl rfl
      · have hnext : stampToken (slot :: slots) (token :: tokens) = stampToken slots tokens := by
          cases slot <;> first | rfl | exact absurd rfl hslot
        rw [hnext]
        refine .inr (ih (Nat.succ.inj hlength) ?_)
        rcases List.mem_cons.mp h with heq | hmem
        · exact absurd heq.symm hslot
        · exact hmem

/-- Every slot of a row of the same length has a token. -/
theorem exists_mem_zip {α β : Type} {l : List α} {l' : List β} (h : l.length = l'.length) {a : α}
    (ha : a ∈ l) : ∃ b, (a, b) ∈ l.zip l' := by
  obtain ⟨i, hi, rfl⟩ := List.getElem_of_mem ha
  have hzip : i < (l.zip l').length := by
    rw [List.length_zip]
    omega
  refine ⟨l'[i], ?_⟩
  rw [← List.getElem_zip (h := hzip)]
  exact List.getElem_mem hzip

/-- **What holds of all that is read holds of all fields**, if it holds of what is absent. -/
theorem forall_get_of_readFields {P : Entry → Prop} {v : Variant} {tokens : List Text} {g : Fields}
    (hlength : tokens.length = v.size) (h : readFields v.slots tokens .empty = .ok g)
    (hread : ∀ slot ∈ v.slots, ∀ token ∈ tokens, ∀ e, slot.read token = .ok e → P e)
    (habsent : ∀ field, P (Fields.empty.get field)) (field : Field) : P (g.get field) := by
  by_cases hfield : field ∈ v.fields
  · obtain ⟨slot, hslot, hslotField⟩ := List.mem_filterMap.mp hfield
    obtain ⟨token, hmem⟩ := exists_mem_zip (v.length_slots.trans hlength.symm) hslot
    exact hread slot hslot token (List.of_mem_zip hmem).2 _
      (read_of_readFields (nodup_fields v) h hmem hslotField)
  · rw [get_of_readFields_of_not_mem h hfield]
    exact habsent field

/-- Every quantity is read from a token, in its own unit. -/
theorem exists_token_of_readFields {v : Variant} {tokens : List Text} {g : Fields}
    (hlength : tokens.length = v.size) (h : readFields v.slots tokens .empty = .ok g) (q : Quantity) :
    ∃ token, (Slot.quantity q q.wireUnit q.keepsMark, token) ∈ v.slots.zip tokens ∧
      q.wireUnit.read q.keepsMark token = .ok (g.value q) := by
  obtain ⟨slot, hslot, hfield⟩ := List.mem_filterMap.mp (mem_fields_quantity v q)
  obtain ⟨token, hmem⟩ := exists_mem_zip (v.length_slots.trans hlength.symm) hslot
  have hread := read_of_readFields (nodup_fields v) h hmem hfield
  cases slot with
  | quantity q' unit keepsMark =>
    cases hfield
    obtain ⟨rfl, rfl⟩ := eq_of_quantity_mem_slots hslot
    obtain ⟨x, hx, heq⟩ := map_ok_iff.mp hread
    cases heq
    exact ⟨token, hmem, asFault_eq_ok_iff.mp hx⟩
  | gauge g => cases hfield
  | voltage g form => cases hfield
  | code c => cases hfield
  | signal => cases hfield
  | stamp => cases hfield
  | blank filler => cases hfield

end WeatherTelegram
