import WeatherTelegram.Proofs.Telegram.Encode
import WeatherTelegram.Proofs.Time.Window

/-!
# `Proofs.Telegram.Invariant` — what holds of every reading that came out of a telegram

Both records bear one time, which lies in the window of the receipt, and the error message tells whether
it is the station's own. The score counts what the observation holds, quantity by quantity, and the health
record holds nothing that its layout has no token for.

## Contents
- **Scores.** `getElem?_presence`, `presentCount_eq`.
- **Readings.** `Reading.IsSound`, `decode_sound`.
-/

namespace WeatherTelegram

/-! ## Scores -/

/-- The mark of a quantity that is present or absent. -/
def presenceMark (o : Observation) (q : Quantity) : Char := if (o.value q).isSome then '1' else '0'

theorem getElem?_presence (o : Observation) {i : ℕ} {q : Quantity} (h : Quantity.all[i]? = some q) :
    o.presence[i]? = some (presenceMark o q) := by
  rw [Observation.presence, List.getElem?_map, h]
  rfl

theorem presenceMark_eq_one_iff (o : Observation) (q : Quantity) :
    presenceMark o q = '1' ↔ o.value q ≠ none := by
  unfold presenceMark
  cases o.value q with
  | none => simp
  | some x => simp

theorem presenceMark_eq_zero_iff (o : Observation) (q : Quantity) :
    presenceMark o q = '0' ↔ o.value q = none := by
  unfold presenceMark
  cases o.value q with
  | none => simp
  | some x => simp

/-- The count is that of the ones in the mask. -/
theorem presentCount_eq (o : Observation) : o.presentCount = o.presence.count '1' := by
  unfold Observation.presentCount Observation.presence List.count
  rw [List.countP_map]
  congr 1
  funext q
  show _ = (presenceMark o q == '1')
  rw [Bool.eq_iff_iff, beq_iff_eq, presenceMark_eq_one_iff, Option.isSome_iff_ne_none]

/-! ## Readings -/

/-- What holds of a reading that was read in a layout at a time of receipt, by the token of its
    timestamp. -/
structure Reading.IsSound (v : Variant) (token : Text) (now : Instant) (r : Reading) : Prop where
  timestamp : r.health.timestamp = r.observation.timestamp
  window : ∃ received taken, now.moment? = some received ∧
    r.observation.timestamp.moment? = some taken ∧ IsPlausible received taken
  errorMessage : r.health.errorMessage ≠ [] ↔
    ∃ st, Instant.ofStamp? token = some st ∧ IsOutside now st
  replaced : r.health.errorMessage ≠ [] → r.observation.timestamp = now
  unreadable : Instant.ofStamp? token = none →
    r.observation.timestamp = now ∧ r.health.minutesDifference = 0 ∧ r.health.errorMessage = []
  kept : ∀ st, Instant.ofStamp? token = some st → r.health.errorMessage = [] →
    r.observation.timestamp = st
  length_presence : r.health.presence.length = 10
  presence : ∀ (i : ℕ) (q : Quantity), Quantity.all[i]? = some q →
    (r.health.presence[i]? = some '1' ↔ r.observation.value q ≠ none) ∧
      (r.health.presence[i]? = some '0' ↔ r.observation.value q = none)
  presentCount : r.health.presentCount = r.health.presence.count '1'
  gauge : ∀ g, Field.gauge g ∉ v.fields → r.health.gauge g = none
  code : ∀ c, Field.code c ∉ v.fields → r.health.code c = []
  signal : Field.signal ∉ v.fields → r.health.signal = none

/-- **Every reading that came out of a telegram is sound.** -/
theorem decode_sound {raw : Text} {now : Instant} {r : Reading} (hnow : now.IsAware)
    (h : (decode raw now).outcome = .ok r) : ∃ v, Variant.ofMessage raw = .ok v ∧
      r.IsSound v (stampToken v.slots (tokens (clean raw))) now := by
  obtain ⟨v, fields, check, hv, hfields, hcheck, rfl⟩ := outcome_decode_eq_ok_iff.mp h
  have hexact := isExact_of_checkStamp hnow (fun st hst => (Instant.station_of_ofStamp? hst).1) hcheck
  have hempty : ∀ field, field ∉ v.fields → fields.get field = Fields.empty.get field :=
    fun field => get_of_readFields_of_not_mem hfields
  refine ⟨v, hv, ?_⟩
  constructor
  · rfl
  · exact hexact.window
  · exact hexact.fault
  · exact hexact.replaced
  · exact hexact.absent
  · exact hexact.kept
  · exact Observation.length_presence _
  · intro i q hi
    have hmark : (Reading.assemble (clean raw) fields check).health.presence[i]? =
        some (presenceMark (Reading.assemble (clean raw) fields check).observation q) :=
      getElem?_presence _ hi
    rw [hmark, Option.some.injEq, Option.some.injEq]
    exact ⟨presenceMark_eq_one_iff _ q, presenceMark_eq_zero_iff _ q⟩
  · exact congrArg Nat.cast (presentCount_eq _)
  · intro g hg
    simpa [Fields.get, Fields.empty, Reading.assemble] using hempty (.gauge g) hg
  · intro c hc
    simpa [Fields.get, Fields.empty, Reading.assemble] using hempty (.code c) hc
  · intro hsignal
    simpa [Fields.get, Fields.empty, Reading.assemble] using hempty .signal hsignal

/-- A telegram that was taken ninety days and a second after the sample receipt. -/
def lateTelegram : Text :=
  Text.ofString "0++++++++++++++++++2023:09:13:15:05:01+0"

/-- The time of that telegram. -/
def lateTime : Instant :=
  ⟨⟨{ sampleReceipt.localTime.date with
      month := 9, day := 13, month_mem := by decide, day_mem := by decide },
    { sampleReceipt.localTime.time with
      hour := sampleTime.localTime.time.hour, second := 1
      hour_lt := sampleTime.localTime.time.hour_lt, second_lt := by decide }⟩, .station⟩

/-- One second is outside the window. -/
theorem decode_sound_late : sampleReceipt.IsAware ∧
    ∃ r, (decode lateTelegram sampleReceipt).outcome = .ok r ∧ r.health.errorMessage ≠ [] ∧
      r.observation.timestamp = sampleReceipt := by
  have hnow : sampleReceipt.IsAware := ⟨0, rfl, by decide⟩
  obtain ⟨r, hr⟩ : ∃ r, (decode lateTelegram sampleReceipt).outcome = .ok r :=
    exists_of_isOk (by decide +kernel)
  obtain ⟨v, hv, hsound⟩ := decode_sound hnow hr
  have hv19 : Variant.ofMessage lateTelegram = .ok .v19 := by decide +kernel
  obtain rfl : v = .v19 := Except.ok.inj (hv.symm.trans hv19)
  have hstamp : Instant.ofStamp? (stampToken Variant.v19.slots (tokens (clean lateTelegram))) =
      some lateTime := by decide +kernel
  have hmessage := hsound.errorMessage.mpr
    ⟨lateTime, hstamp, _, _, rfl, rfl, by unfold IsPlausible; decide +kernel⟩
  exact ⟨hnow, r, hr, hmessage, hsound.replaced hmessage⟩

end WeatherTelegram
