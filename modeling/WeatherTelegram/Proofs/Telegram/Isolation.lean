import WeatherTelegram.Proofs.Telegram.Invariant
import WeatherTelegram.Proofs.Telegram.Slot

/-!
# `Proofs.Telegram.Isolation` — a token has a say in its own field alone

Two telegrams of one layout are compared. Where they have the same token for a field, they are read as the
same value of it, whatever their other tokens and the times of their receipt; the timestamp and what is
told about it depend on its own token and on the receipt. Tokens for nothing have no say at all.

## Contents
- **One slot.** `exists_token`, `get_eq_of_token_eq`, `getElem?_stampToken`.
- **Rows.** `SameExceptBlanks`, `readFields_congr`.
- **Telegrams.** `Reading.AgreesWith`, `agreesWith_of_decode`, `decode_of_sameExceptBlanks`,
  `decode_isolated`.
-/

namespace WeatherTelegram

/-! ## One slot -/

section

variable {v : Variant} {row row' : List Text} {i : ℕ} {slot : Slot}

/-- A row of a layout has a token for each of its slots. -/
theorem exists_token (hlength : row.length = v.size) (hslot : v.slots[i]? = some slot) :
    ∃ token, row[i]? = some token ∧ (slot, token) ∈ v.slots.zip row := by
  have hi := (List.getElem?_eq_some_iff.mp hslot).1
  rw [v.length_slots, ← hlength] at hi
  have htoken := List.getElem?_eq_getElem hi
  exact ⟨_, htoken, List.mem_of_getElem? (List.getElem?_zip_eq_some.mpr ⟨hslot, htoken⟩)⟩

/-- **The same token is the same value**, in whatever rows it stands. -/
theorem get_eq_of_token_eq {f f' : Fields} (hlength : row.length = v.size)
    (hlength' : row'.length = v.size) (hf : readFields v.slots row .empty = .ok f)
    (hf' : readFields v.slots row' .empty = .ok f') (hslot : v.slots[i]? = some slot) {field : Field}
    (hfield : slot.field? = some field) (hsame : row[i]? = row'[i]?) : f.get field = f'.get field := by
  obtain ⟨token, htoken, hmem⟩ := exists_token hlength hslot
  obtain ⟨token', htoken', hmem'⟩ := exists_token hlength' hslot
  obtain rfl : token = token' := by
    rw [htoken, htoken'] at hsame
    exact Option.some.inj hsame
  have hread := read_of_readFields (nodup_fields v) hf hmem hfield
  have hread' := read_of_readFields (nodup_fields v) hf' hmem' hfield
  exact Except.ok.inj (hread.symm.trans hread')

/-- The token of the timestamp stands in the place of its slot. -/
theorem getElem?_stampToken (hlength : row.length = v.size) (hslot : v.slots[i]? = some .stamp) :
    row[i]? = some (stampToken v.slots row) := by
  obtain ⟨token, htoken, hmem⟩ := exists_token hlength hslot
  have hstamp := stampToken_mem_zip (v.length_slots.trans hlength.symm) (stamp_mem_slots v)
  rw [htoken, eq_of_mem_zip (nodup_slots v) hmem hstamp]

theorem stampToken_eq_of_token_eq (hlength : row.length = v.size) (hlength' : row'.length = v.size)
    (hslot : v.slots[i]? = some .stamp) (hsame : row[i]? = row'[i]?) :
    stampToken v.slots row = stampToken v.slots row' := by
  rw [getElem?_stampToken hlength hslot, getElem?_stampToken hlength' hslot] at hsame
  exact Option.some.inj hsame

end

/-! ## Rows -/

/-- Whether a slot's token stands for nothing. -/
def Slot.isBlank : Slot → Bool
  | .blank _ => true
  | _ => false

theorem Slot.isBlank_of_field? {slot : Slot} {field : Field} (h : slot.field? = some field) :
    slot.isBlank = false := by
  cases slot with
  | blank filler => cases h
  | _ => rfl

/-- Two rows that have the same tokens but for those that stand for nothing. -/
def SameExceptBlanks (slots : List Slot) (row row' : List Text) : Prop :=
  ∀ (i : ℕ) (slot : Slot), slots[i]? = some slot → slot.isBlank = false → row[i]? = row'[i]?

instance (slots : List Slot) (row row' : List Text) : Decidable (SameExceptBlanks slots row row') :=
  decidable_of_iff
    (∀ i : Fin slots.length, (slots.get i).isBlank = false → row[i.val]? = row'[i.val]?) <| by
    constructor
    · intro h i slot hslot
      obtain ⟨hi, rfl⟩ := List.getElem?_eq_some_iff.mp hslot
      exact h ⟨i, hi⟩
    · intro h i
      exact h i _ (List.getElem?_eq_getElem i.isLt)

theorem SameExceptBlanks.tail {slot : Slot} {slots : List Slot} {token token' : Text}
    {row row' : List Text} (h : SameExceptBlanks (slot :: slots) (token :: row) (token' :: row')) :
    SameExceptBlanks slots row row' :=
  fun i own hown => h (i + 1) own hown

/-- Rows that differ in nothing but blanks have the same fields. -/
theorem readFields_congr {slots : List Slot} {row row' : List Text} (hlength : row.length = row'.length)
    (h : SameExceptBlanks slots row row') (f : Fields) :
    readFields slots row f = readFields slots row' f := by
  induction slots generalizing row row' f with
  | nil => cases row <;> cases row' <;> rfl
  | cons slot slots ih =>
    cases row with
    | nil =>
      cases row' with
      | nil => rfl
      | cons token' row' => cases hlength
    | cons token row =>
      cases row' with
      | nil => cases hlength
      | cons token' row' =>
        have hrest := fun g => ih (Nat.succ.inj hlength) h.tail g
        cases hfield : slot.field? with
        | none => rw [readFields_cons_none hfield, readFields_cons_none hfield, hrest]
        | some field =>
          obtain rfl : token = token' := by
            apply Option.some.inj
            exact h 0 slot rfl (Slot.isBlank_of_field? hfield)
          rw [readFields_cons_some hfield, readFields_cons_some hfield]
          simp only [hrest]

/-! ## Telegrams -/

/-- What two readings of a layout share that were read from rows of tokens at two times of receipt. -/
structure Reading.AgreesWith (v : Variant) (row row' : List Text) (now now' : Instant)
    (r r' : Reading) : Prop where
  field : ∀ (i : ℕ) (slot : Slot) (field : Field), v.slots[i]? = some slot → slot.field? = some field →
    row[i]? = row'[i]? → r.fields.get field = r'.fields.get field
  presence : ∀ (i j : ℕ) (q : Quantity) (unit : WireUnit) (keepsMark : Bool),
    v.slots[i]? = some (.quantity q unit keepsMark) → row[i]? = row'[i]? → Quantity.all[j]? = some q →
      r.health.presence[j]? = r'.health.presence[j]?
  stamp : ∀ i : ℕ, v.slots[i]? = some .stamp → row[i]? = row'[i]? → now = now' →
    r.observation.timestamp = r'.observation.timestamp ∧ r.health.timestamp = r'.health.timestamp ∧
      r.health.minutesDifference = r'.health.minutesDifference ∧
      r.health.errorMessage = r'.health.errorMessage

section

variable {v : Variant} {raw raw' : Text} {now : Instant} {r : Reading}

/-- **Two runs agree where their tokens do.** -/
theorem agreesWith_of_decode (hv : Variant.ofMessage raw = .ok v) (hv' : Variant.ofMessage raw' = .ok v)
    (h : (decode raw now).outcome = .ok r) {now' : Instant} {r' : Reading}
    (h' : (decode raw' now').outcome = .ok r') :
    r.AgreesWith v (tokens (clean raw)) (tokens (clean raw')) now now' r' := by
  have hlength := ofMessage_eq_ok_iff.mp hv
  have hlength' := ofMessage_eq_ok_iff.mp hv'
  obtain ⟨w, f, check, hw, hf, hcheck, rfl⟩ := outcome_decode_eq_ok_iff.mp h
  obtain ⟨w', f', check', hw', hf', hcheck', rfl⟩ := outcome_decode_eq_ok_iff.mp h'
  obtain rfl : v = w := Except.ok.inj (hv.symm.trans hw)
  obtain rfl : v = w' := Except.ok.inj (hv'.symm.trans hw')
  have hfield : ∀ {i : ℕ} {slot : Slot} {field : Field}, v.slots[i]? = some slot →
      slot.field? = some field → (tokens (clean raw))[i]? = (tokens (clean raw'))[i]? →
      f.get field = f'.get field :=
    fun hslot hown hsame => get_eq_of_token_eq hlength hlength' hf hf' hslot hown hsame
  refine ⟨fun i slot field hslot hown hsame => hfield hslot hown hsame, ?_, ?_⟩
  · intro i j q unit keepsMark hslot hsame hj
    have hvalue : f.value q = f'.value q := by simpa [Fields.get] using hfield hslot rfl hsame
    have hmark : (⟨f.value, check.timestamp⟩ : Observation).presence[j]? =
        (⟨f'.value, check'.timestamp⟩ : Observation).presence[j]? := by
      rw [getElem?_presence _ hj, getElem?_presence _ hj]
      simp only [presenceMark, hvalue]
    exact hmark
  · rintro i hslot hsame rfl
    rw [stampToken_eq_of_token_eq hlength hlength' hslot hsame, hcheck'] at hcheck
    cases hcheck
    exact ⟨rfl, rfl, rfl, rfl⟩

/-- **Tokens for nothing have no say**: with others in their places the telegram is read alike, but for its
    message. -/
theorem decode_of_sameExceptBlanks (hv : Variant.ofMessage raw = .ok v)
    (hv' : Variant.ofMessage raw' = .ok v) (h : (decode raw now).outcome = .ok r)
    (hsame : SameExceptBlanks v.slots (tokens (clean raw)) (tokens (clean raw'))) :
    (decode raw' now).outcome = .ok { r with health := { r.health with message := clean raw' } } := by
  have hlength := ofMessage_eq_ok_iff.mp hv
  have hlength' := ofMessage_eq_ok_iff.mp hv'
  obtain ⟨w, f, check, hw, hf, hcheck, rfl⟩ := outcome_decode_eq_ok_iff.mp h
  obtain rfl : v = w := Except.ok.inj (hv.symm.trans hw)
  obtain ⟨i, hi⟩ := List.mem_iff_getElem?.mp (stamp_mem_slots v)
  have htoken := stampToken_eq_of_token_eq hlength hlength' hi (hsame i .stamp hi rfl)
  rw [readFields_congr (hlength.trans hlength'.symm) hsame] at hf
  rw [htoken] at hcheck
  exact outcome_decode_eq_ok_iff.mpr ⟨v, f, check, hv', hf, hcheck, rfl⟩

/-- **Tokens are isolated.** Of two telegrams of a layout that are read, each field, and each mark of the
    score, depends on the token of its own slot, whatever the other tokens and the times of receipt; the
    timestamp and what is told about it depend on its token and the receipt. A telegram that differs in
    nothing but the leading marker and the tokens for nothing is read alike, but for its message. -/
theorem decode_isolated (hv : Variant.ofMessage raw = .ok v) (hv' : Variant.ofMessage raw' = .ok v)
    (h : (decode raw now).outcome = .ok r) :
    (∀ now' r', (decode raw' now').outcome = .ok r' →
      r.AgreesWith v (tokens (clean raw)) (tokens (clean raw')) now now' r') ∧
    (SameExceptBlanks v.slots (tokens (clean raw)) (tokens (clean raw')) →
      (decode raw' now).outcome =
        .ok { r with health := { r.health with message := clean raw' } }) :=
  ⟨fun _ _ h' => agreesWith_of_decode hv hv' h h', decode_of_sameExceptBlanks hv hv' h⟩

end

/-- A telegram that carries the temperature, the humidity, the rain, a signal and a code. -/
def plainMessage : Text :=
  Text.ofString "0+21.5+80++++++++1+0+++7+++c+2023:06:15:15:00:00+0"

/-- A telegram with its temperature, and little else of it. -/
def sparseMessage : Text :=
  Text.ofString "0+21.5+++++++++2+?+++x+++++end"

/-- The plain telegram with other tokens for nothing. -/
def remarkedMessage : Text :=
  Text.ofString "7+21.5+80++++++++1+?+++7+++c+2023:06:15:15:00:00+"

/-- The sparse telegram, received months later, has the temperature of the plain one. -/
theorem decode_isolated_sparse : ∃ r r',
    (decode plainMessage sampleReceipt).outcome = .ok r ∧
    (decode sparseMessage lateTime).outcome = .ok r' ∧
    r.observation.value .temperature = r'.observation.value .temperature ∧
    r.health.presence[0]? = r'.health.presence[0]? ∧
    (decode remarkedMessage sampleReceipt).outcome =
      .ok { r with health := { r.health with message := clean remarkedMessage } } := by
  have hplain : Variant.ofMessage plainMessage = .ok .v19 := by decide +kernel
  have hsparse : Variant.ofMessage sparseMessage = .ok .v19 := by decide +kernel
  have hremarked : Variant.ofMessage remarkedMessage = .ok .v19 := by decide +kernel
  have hsame : (tokens (clean plainMessage))[0]? = (tokens (clean sparseMessage))[0]? := by decide +kernel
  obtain ⟨r, hr⟩ : ∃ r, (decode plainMessage sampleReceipt).outcome = .ok r :=
    exists_of_isOk (by decide +kernel)
  obtain ⟨r', hr'⟩ : ∃ r', (decode sparseMessage lateTime).outcome = .ok r' :=
    exists_of_isOk (by decide +kernel)
  have hagree := (decode_isolated hplain hsparse hr).1 lateTime r' hr'
  have hmarks := (decode_isolated hplain hremarked hr).2
  refine ⟨r, r', hr, hr', ?_, ?_, hmarks (by decide +kernel)⟩
  · simpa [Fields.get, Reading.fields] using
      hagree.field 0 (.plain .temperature) (.quantity .temperature) rfl rfl hsame
  · exact hagree.presence 0 0 .temperature .asKept false rfl hsame rfl

end WeatherTelegram
