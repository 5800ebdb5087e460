import WeatherTelegram.Proofs.Telegram.Fields
import WeatherTelegram.Proofs.Telegram.Framing
import WeatherTelegram.Proofs.Time.Plausibility
import WeatherTelegram.Proofs.Wire.Unit
import WeatherTelegram.Proofs.Wire.Whole

/-!
# `Proofs.Telegram.Decode` — what can fail a telegram

Numbers, voltages, texts and timestamps read from any token, if only as absent, and the check of the
clocks always has an answer. So a telegram is refused for the number of its tokens, or for a signal
strength that is written as a whole number of more digits than the limit, and for nothing else.

## Contents
- **One token.** `Slot.read_error`.
- **One layout.** `outcome_decodeAs`, `ofMessage_eq_ok_iff`, `outcome_decode_eq_ok_iff`.
- **The outcome.** `readFields_error_iff`, `outcome_decodeAs_of_ok`, `decode_error_iff`.
-/

namespace WeatherTelegram

/-! ## One token -/

/-- **Only a signal strength can fail.** -/
theorem Slot.read_error {slot : Slot} {field : Field} (hfield : slot.field? = some field)
    {token : Text} {fault : Fault} (h : slot.read token = .error fault) :
    slot = .signal ∧ ∃ count, IsOverlong token count ∧ fault = .digitsToRead count := by
  cases slot with
  | quantity q unit keepsMark =>
    rcases unit.read_cases keepsMark token with hread | ⟨s, j, k, _, _, hread, _⟩
    · rw [Slot.read, hread] at h
      cases h
    · rw [Slot.read, hread] at h
      cases h
  | gauge g =>
    rcases readNumber_cases false token with hread | ⟨s, c, _, hread⟩
    · rw [Slot.read, hread] at h
      cases h
    · rw [Slot.read, hread] at h
      cases h
  | voltage g form =>
    rcases readNumber_cases false (form.body token) with hread | ⟨s, c, _, hread⟩
    · rw [Slot.read, hread] at h
      cases h
    · rw [Slot.read, hread] at h
      cases h
  | code c => cases h
  | signal =>
    refine ⟨rfl, readWhole_error_iff.mp ?_⟩
    cases hread : readWhole token with
    | error cause =>
      rw [Slot.read, hread] at h
      cases h
      rfl
    | ok value =>
      rw [Slot.read, hread] at h
      cases h
  | stamp => cases hfield
  | blank filler => cases hfield

/-! ## One layout -/

/-- The last steps of a telegram report it and change no outcome. -/
theorem outcome_report (v : Variant) (message : Text) (fields : Fields)
    (check : Traced Event Fault StampCheck) :
    (do
      let c ← check
      Traced.emit (.telegramDecoded v.size (Reading.assemble message fields c).health.presence)
      pure (Reading.assemble message fields c) : Traced Event Fault Reading).outcome =
      check.outcome.map (Reading.assemble message fields) := by
  rw [Traced.outcome_bind]
  cases check.outcome with
  | error fault => rfl
  | ok c => rfl

/-- The outcome of a telegram of a known layout: its fields, then the check of its timestamp. -/
theorem outcome_decodeAs (v : Variant) (message : Text) (tokens : List Text) (now : Instant) :
    (decodeAs v message tokens now).outcome = (readFields v.slots tokens .empty).bind fun fields =>
      (checkStamp (Instant.ofStamp? (stampToken v.slots tokens)) now).outcome.map
        (Reading.assemble message fields) := by
  unfold decodeAs
  rw [Traced.outcome_bind]
  congr 1
  funext fields
  simp only
  split
  · exact outcome_report v message fields _
  · exact outcome_report v message fields _

theorem outcome_decode_of_ofMessage {raw : Text} {v : Variant} (h : Variant.ofMessage raw = .ok v)
    (now : Instant) :
    (decode raw now).outcome = (decodeAs v (clean raw) (tokens (clean raw)) now).outcome := by
  unfold Variant.ofMessage at h
  unfold decode
  simp only [h]

theorem outcome_decode_of_ofMessage_error {raw : Text} {fault : Fault}
    (h : Variant.ofMessage raw = .error fault) (now : Instant) :
    (decode raw now).outcome = .error fault := by
  unfold Variant.ofMessage at h
  unfold decode
  simp only [h]

theorem ofTokenCount_eq_ok_iff {n : ℕ} {v : Variant} :
    Variant.ofTokenCount n = .ok v ↔ n = v.size := by
  have hnumber : Variant.ofNumber? n = Variant.ofSize? n := by
    unfold Variant.ofNumber?
    rw [if_neg (by omega), Int.toNat_natCast]
  unfold Variant.ofTokenCount
  rw [hnumber]
  constructor
  · intro h
    split at h
    · rename_i w hw
      cases h
      exact (Variant.size_eq_of_ofSize? hw).symm
    · cases h
  · rintro rfl
    rw [Variant.ofSize?_size]

theorem ofTokenCount_of_ne {n : ℕ} (h : ∀ v : Variant, n ≠ v.size) :
    Variant.ofTokenCount n = .error (.tokenCount n) := by
  cases hcount : Variant.ofTokenCount n with
  | ok v => exact absurd (ofTokenCount_eq_ok_iff.mp hcount) (h v)
  | error fault =>
    unfold Variant.ofTokenCount at hcount
    split at hcount
    · cases hcount
    · exact hcount.symm

theorem ofMessage_eq_ok_iff {raw : Text} {v : Variant} :
    Variant.ofMessage raw = .ok v ↔ (tokens (clean raw)).length = v.size :=
  ofTokenCount_eq_ok_iff

/-- **A telegram that is read** is of a known layout, its row has fields, and its timestamp a check. -/
theorem outcome_decode_eq_ok_iff {raw : Text} {now : Instant} {r : Reading} :
    (decode raw now).outcome = .ok r ↔ ∃ v fields check, Variant.ofMessage raw = .ok v ∧
      readFields v.slots (tokens (clean raw)) .empty = .ok fields ∧
      (checkStamp (Instant.ofStamp? (stampToken v.slots (tokens (clean raw)))) now).outcome =
        .ok check ∧
      r = .assemble (clean raw) fields check := by
  constructor
  · intro h
    cases hv : Variant.ofMessage raw with
    | error fault =>
      rw [outcome_decode_of_ofMessage_error hv] at h
      cases h
    | ok v =>
      rw [outcome_decode_of_ofMessage hv, outcome_decodeAs] at h
      obtain ⟨fields, hfields, hassemble⟩ := bind_ok_iff.mp h
      obtain ⟨check, hcheck, rfl⟩ := map_ok_iff.mp hassemble
      exact ⟨v, fields, check, rfl, hfields, hcheck, rfl⟩
  · rintro ⟨v, fields, check, hv, hfields, hcheck, rfl⟩
    rw [outcome_decode_of_ofMessage hv, outcome_decodeAs, hfields, hcheck]
    rfl

/-! ## The outcome -/

theorem nodup_slots (v : Variant) : v.slots.Nodup := by cases v <;> decide

/-- In a row of distinct slots each has one token. -/
theorem eq_of_mem_zip {α β : Type} {l : List α} (hl : l.Nodup) {l' : List β} {a : α} {b b' : β}
    (h : (a, b) ∈ l.zip l') (h' : (a, b') ∈ l.zip l') : b = b' := by
  induction l generalizing l' with
  | nil => cases h
  | cons c l ih =>
    cases l' with
    | nil => cases h
    | cons d l' =>
      rw [List.nodup_cons] at hl
      rw [List.zip_cons_cons, List.mem_cons] at h h'
      rcases h with heq | h
      · cases heq
        rcases h' with heq' | h'
        · cases heq'
          rfl
        · exact absurd (List.of_mem_zip h').1 hl.1
      · rcases h' with heq' | h'
        · cases heq'
          exact absurd (List.of_mem_zip h).1 hl.1
        · exact ih hl.2 h h'

/-- **A row fails exactly for an overlong signal strength.** -/
theorem readFields_error_iff {v : Variant} {tokens : List Text} {fault : Fault} :
    readFields v.slots tokens .empty = .error fault ↔
      ∃ token count, (Slot.signal, token) ∈ v.slots.zip tokens ∧ IsOverlong token count ∧
        fault = .digitsToRead count := by
  have hfail : ∀ {cause : Fault}, readFields v.slots tokens .empty = .error cause →
      ∃ token count, (Slot.signal, token) ∈ v.slots.zip tokens ∧ IsOverlong token count ∧
        cause = .digitsToRead count := by
    intro cause h
    obtain ⟨slot, token, field, hmem, hfield, hread⟩ := exists_of_readFields_error h
    obtain ⟨rfl, count, hlong, hcause⟩ := Slot.read_error hfield hread
    exact ⟨token, count, hmem, hlong, hcause⟩
  refine ⟨hfail, ?_⟩
  rintro ⟨token, count, hmem, hlong, rfl⟩
  have hread : Slot.read .signal token = .error (.digitsToRead count) := by
    rw [Slot.read, readWhole_error_iff.mpr ⟨count, hlong, rfl⟩]
    rfl
  cases hrow : readFields v.slots tokens .empty with
  | ok g =>
    rw [read_of_readFields (nodup_fields v) hrow hmem rfl] at hread
    cases hread
  | error cause =>
    obtain ⟨token', count', hmem', hlong', rfl⟩ := hfail hrow
    obtain rfl := eq_of_mem_zip (nodup_slots v) hmem hmem'
    rw [hlong.unique hlong']

/-- The check of the clocks never fails a telegram. -/
theorem outcome_decodeAs_of_ok (v : Variant) (message : Text) {tokens : List Text} {now : Instant}
    (hnow : now.IsAware) {fields : Fields} (h : readFields v.slots tokens .empty = .ok fields) :
    ∃ check, (decodeAs v message tokens now).outcome = .ok (.assemble message fields check) := by
  obtain ⟨check, hcheck⟩ := checkStamp_total (Instant.ofStamp? (stampToken v.slots tokens)) hnow
    fun st => isAware_of_ofStamp?
  refine ⟨check, ?_⟩
  rw [outcome_decodeAs, h, hcheck]
  rfl

/-- A telegram of a known layout fails where its row does. -/
theorem outcome_decodeAs_error_iff (v : Variant) (message : Text) {tokens : List Text} {now : Instant}
    (hnow : now.IsAware) {fault : Fault} :
    (decodeAs v message tokens now).outcome = .error fault ↔
      readFields v.slots tokens .empty = .error fault := by
  cases hread : readFields v.slots tokens .empty with
  | ok fields =>
    obtain ⟨check, hcheck⟩ := outcome_decodeAs_of_ok v message hnow hread
    rw [hcheck]
    constructor
    · intro h
      cases h
    · intro h
      cases h
  | error cause =>
    rw [outcome_decodeAs, hread]
    constructor
    · intro h
      cases h
      rfl
    · intro h
      cases h
      rfl

theorem size_injective {v w : Variant} (h : v.size = w.size) : v = w := by
  apply Option.some.inj
  rw [← Variant.ofSize?_size, ← Variant.ofSize?_size, h]

/-- **What fails a telegram**: a number of tokens without a layout, or a signal strength that is written
    with too many digits. -/
theorem decode_error_iff (raw : Text) {now : Instant} (hnow : now.IsAware) (fault : Fault) :
    (decode raw now).outcome = .error fault ↔
      ((∀ v : Variant, (tokens (clean raw)).length ≠ v.size) ∧
        fault = .tokenCount (tokens (clean raw)).length) ∨
      ∃ v : Variant, (tokens (clean raw)).length = v.size ∧
        ∃ token count, (Slot.signal, token) ∈ v.slots.zip (tokens (clean raw)) ∧
          IsOverlong token count ∧ fault = .digitsToRead count := by
  by_cases hcount : ∃ v : Variant, (tokens (clean raw)).length = v.size
  · obtain ⟨v, hv⟩ := hcount
    rw [outcome_decode_of_ofMessage (ofMessage_eq_ok_iff.mpr hv),
      outcome_decodeAs_error_iff v (clean raw) hnow, readFields_error_iff]
    constructor
    · intro h
      exact .inr ⟨v, hv, h⟩
    · rintro (⟨hne, _⟩ | ⟨w, hw, h⟩)
      · exact absurd hv (hne v)
      · obtain rfl : w = v := size_injective (hw.symm.trans hv)
        exact h
  · have hne : ∀ v : Variant, (tokens (clean raw)).length ≠ v.size := fun v hv => hcount ⟨v, hv⟩
    rw [outcome_decode_of_ofMessage_error (ofTokenCount_of_ne hne)]
    constructor
    · intro h
      cases h
      exact .inl ⟨hne, rfl⟩
    · rintro (⟨_, rfl⟩ | ⟨v, hv, _⟩)
      · rfl
      · exact absurd hv (hne v)

/-- Seven in the morning, universal time. -/
def sampleReceipt : Instant :=
  ⟨⟨⟨2023, 6, 15, by decide, by decide, by decide⟩,
    { TimeOfDay.midnight with hour := 7, minute := 5, hour_lt := by decide, minute_lt := by decide }⟩,
    .utc⟩

/-! ### Refused telegrams -/

/-- A row for the layout of 23 tokens that carries nothing but nines for the signal strength. -/
def overlongRow (count : ℕ) : List Text :=
  List.replicate 17 [] ++ List.replicate count '9' :: List.replicate 4 [] ++ [['0']]

/-- The telegram of that row. -/
def overlongTelegram (count : ℕ) : Text := List.intercalate [delimiter] (blankToken :: overlongRow count)

theorem isDigits_replicate (count : ℕ) : IsDigits (List.replicate count '9') := by
  intro c hc
  rw [(List.mem_replicate.mp hc).2]
  decide

theorem isOverlong_replicate {count : ℕ} (h : digitLimit < count) :
    IsOverlong (List.replicate count '9') count := by
  have hsign : takeSign (List.replicate count '9') = (false, List.replicate count '9') :=
    takeSign_signText false fun c hc => isDigits_replicate count c (List.mem_of_mem_head? hc)
  refine ⟨digitValues (List.replicate count '9'), ?_, ?_, h⟩
  · rw [hsign]
    exact digitsOf?_of_isDigits (isDigits_replicate count)
  · rw [length_digitValues, List.length_replicate]

theorem not_isReserved_overlongRow (count : ℕ) :
    ∀ t ∈ blankToken :: overlongRow count, isReserved t = false := by
  intro t ht
  have hcases : t = blankToken ∨ t = [] ∨ t = List.replicate count '9' := by
    simp only [overlongRow, List.mem_cons, List.mem_append, List.mem_replicate] at ht
    rcases ht with h | ((h | h | h) | h | h)
    · exact .inl h
    · exact .inr (.inl h.2)
    · exact .inr (.inr h)
    · exact .inr (.inl h.2)
    · exact .inl h
    · cases h
  rcases hcases with rfl | rfl | rfl
  · decide
  · decide
  · exact (isDigits_replicate count).isPlain.not_isReserved

theorem tokens_overlongTelegram (count : ℕ) :
    tokens (clean (overlongTelegram count)) = overlongRow count := by
  have hreserved := not_isReserved_overlongRow count
  have hclean : clean (overlongTelegram count) = overlongTelegram count :=
    clean_intercalate hreserved rfl (by decide) rfl rfl (by decide)
  rw [hclean, tokens, overlongTelegram, splitOn_intercalate_of_not_isReserved hreserved]
  rfl

theorem length_overlongRow (count : ℕ) : (overlongRow count).length = Variant.v23.size := rfl

theorem signal_mem_zip_overlongRow (count : ℕ) :
    (Slot.signal, List.replicate count '9') ∈ Variant.v23.slots.zip (overlongRow count) :=
  List.mem_of_getElem? (i := 17) rfl

/-- Both causes: no tokens at all are no telegram, and five thousand digits are too many for one. -/
theorem decode_error_iff_either :
    sampleReceipt.IsAware ∧ (decode [] sampleReceipt).outcome = .error (.tokenCount 0) ∧
      (tokens (clean (overlongTelegram 5000))).length = Variant.v23.size ∧
      (decode (overlongTelegram 5000) sampleReceipt).outcome = .error (.digitsToRead 5000) := by
  have hnow : sampleReceipt.IsAware := ⟨0, rfl, by decide⟩
  have hlength : (tokens (clean (overlongTelegram 5000))).length = Variant.v23.size := by
    rw [tokens_overlongTelegram, length_overlongRow]
  have hempty : ∀ v : Variant, (tokens (clean [])).length ≠ v.size := by
    intro v
    cases v <;> decide
  refine ⟨hnow, (decode_error_iff [] hnow _).mpr (.inl ⟨hempty, rfl⟩), hlength, ?_⟩
  refine (decode_error_iff _ hnow _).mpr (.inr ⟨.v23, hlength, _, 5000, ?_,
    isOverlong_replicate (by decide), rfl⟩)
  rw [tokens_overlongTelegram]
  exact signal_mem_zip_overlongRow 5000

/-- A telegram of the right number of tokens is refused for the digits of one of them. -/
theorem outcome_overlongTelegram {count : ℕ} (h : digitLimit < count) (now : Instant) :
    (decode (overlongTelegram count) now).outcome = .error (.digitsToRead count) := by
  have hvariant : Variant.ofMessage (overlongTelegram count) = .ok .v23 := by
    rw [ofMessage_eq_ok_iff, tokens_overlongTelegram, length_overlongRow]
  rw [outcome_decode_of_ofMessage hvariant, outcome_decodeAs, tokens_overlongTelegram,
    readFields_error_iff.mpr
      ⟨_, count, signal_mem_zip_overlongRow count, isOverlong_replicate h, rfl⟩]
  rfl

theorem decode_overlongTelegram :
    (tokens (clean (overlongTelegram 4301))).length = 23 ∧
      (decode (overlongTelegram 4301) sampleReceipt).outcome = .error (.digitsToRead 4301) := by
  refine ⟨?_, outcome_overlongTelegram (by decide) sampleReceipt⟩
  rw [tokens_overlongTelegram, length_overlongRow]
  rfl

end WeatherTelegram
