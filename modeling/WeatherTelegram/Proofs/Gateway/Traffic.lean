import WeatherTelegram.Proofs.Gateway.Receipt
import WeatherTelegram.Proofs.Telegram.Drawn
import WeatherTelegram.Proofs.Time.Window

/-!
# `Proofs.Gateway.Traffic` — simulated traffic arrives

A random reading keeps to its spans, so each of its slots arrives and its telegram is short. It is stamped
with the second of its receipt, which the check of the clocks keeps without a difference. So what is drawn
is written, what is written is read as it was drawn, and a gateway takes it from every station and answers
with what was read.

## Contents
- **Gateways.** `outcome_startGateway_nil`, `outcome_receiveReading`, `outcome_receive`.
- **Receipts.** `Reading.IsReceived`, `Observation.presentCount_of_isSome`, `Writes.exists_receipt`.
- **Traffic.** `randomReading_received`.
-/

namespace WeatherTelegram

/-! ## Gateways -/

/-- The longest message of a gateway that is given none. -/
theorem outcome_startGateway_nil : (startGateway []).outcome = .ok ⟨480, defaultLimitText⟩ := by
  decide +kernel

/-- A reading from a station is answered with the layout of its message. -/
theorem outcome_receiveReading {s : Submission} {number : Text}
    (hnumber : mobileNumber? s.number = some number) (r : Reading) : (receiveReading s r).outcome =
      (Variant.ofMessage s.message).map fun v => ⟨200, receiptJson number v.size r⟩ := by
  simp only [receiveReading, hnumber]
  cases Variant.ofMessage s.message <;> split <;> rfl

/-- **A submission that is taken**: its message is no longer than the limit and can be read, and its
    number is that of a station. -/
theorem outcome_receive {g : Gateway} {now : Instant} {s : Submission} {r : Reading} {v : Variant}
    {number : Text} (hlength : s.message.length ≤ g.limit)
    (hdecode : (decode s.message now).outcome = .ok r)
    (hvariant : Variant.ofMessage s.message = .ok v) (hnumber : mobileNumber? s.number = some number) :
    (receive g now s).outcome = .ok ⟨200, receiptJson number v.size r⟩ := by
  have hreading := outcome_receiveReading hnumber r
  rw [hvariant] at hreading
  unfold receive
  rw [if_neg (by omega)]
  simp only [hdecode, Traced.outcome_bind]
  exact hreading

/-! ## Receipts -/

/-- What comes back of a whole reading that was sent in a layout in the second of its receipt. -/
structure Reading.IsReceived (v : Variant) (taken : Instant) (r r' : Reading) : Prop where
  kept : r.IsKept v r'
  presentCount : r'.health.presentCount = 10
  minutesDifference : r'.health.minutesDifference = 0
  observed : r'.observation.timestamp = taken
  reported : r'.health.timestamp = taken

theorem Observation.presentCount_of_isSome {o : Observation} (h : ∀ q, (o.value q).isSome) :
    o.presentCount = 10 :=
  List.countP_eq_length.mpr fun q _ => h q

theorem IsNear.isSome_right {x x' : Option Binary64} (h : IsNear x x') (hx : x.isSome) : x'.isSome := by
  cases h with
  | refl => exact hx
  | off s hmost hleast => rfl

/-- Nothing that was sent is lost. -/
theorem Reading.IsKept.isSome {v : Variant} {r r' : Reading} (h : r.IsKept v r') {q : Quantity}
    (hq : (r.observation.value q).isSome) : (r'.observation.value q).isSome := by
  by_cases hrain : q = .rainRate
  · subst hrain
    exact h.rainRate.isSome_right hq
  · rw [h.value q hrain]
    exact hq

/-- Every random reading is written. -/
theorem Reading.IsDrawn.exists_writes [HostZone] {r : Reading} (h : r.IsDrawn) (v : Variant) {st : Instant}
    (hst : r.observation.timestamp.toStation? = some st) : ∃ written, Writes r v written := by
  apply WeatherTelegram.exists_writes hst
  intro slot hslot field hfield
  obtain ⟨t, ht, _⟩ := Slot.exists_read_of_write hfield (Slot.isSendable_of_isDrawn h slot) v.stampStyle
    fun q keepsMark heq => eq_rainRate_of_mem_slots (heq ▸ hslot)
  exact ⟨t, ht⟩

/-- **The telegram of a random reading arrives** in the second that it is stamped with. -/
theorem Writes.exists_receipt [HostZone] {r : Reading} {v : Variant} {written : List Text}
    (h : Writes r v written) (hdrawn : r.IsDrawn) {now st : Instant} {received : ℤ}
    (hnow : now.moment? = some received) (hst : now.toStation? = some st)
    (hyear : 1000 ≤ st.localTime.date.year) (hstamp : r.observation.timestamp = st.wholeSecond) :
    ∃ r', (decode (telegramOf written) now).outcome = .ok r' ∧ r.IsReceived v st.wholeSecond r' := by
  have hstation : r.observation.timestamp.toStation? = some st.wholeSecond := by
    rw [hstamp]
    exact Instant.toStation?_wholeSecond hst
  have hzone : st.wholeSecond.zone = .station := (Instant.zone_of_toStation? hst :)
  have htaken := Instant.moment?_wholeSecond (Instant.moment?_of_toStation? hst hnow)
  have hcheck := checkStamp_of_lt_second (since?_of_station hzone hnow htaken) (by omega)
    (by have := st.localTime.time.microsecond_lt; omega)
  obtain ⟨g, hg⟩ := h.exists_readFields
  have harrives : ∀ slot t, (slot, t) ∈ v.slots.zip written → ∀ field, slot.field? = some field →
      slot.Arrives r v.stampStyle field t := by
    intro slot t hmem field hfield
    apply h.arrives (fun slot _ => Slot.isSendable_of_isDrawn hdrawn slot) ?_ hmem hfield
    exact fun slot hslot mark hmark hwrite =>
      (Slot.write_of_isDrawn hdrawn hslot hwrite).1 mark hmark rfl
  have hkept : r.IsKept v (.assemble (telegramOf written) g ⟨st.wholeSecond, 0, none⟩) := by
    apply isKept_of_isNear
    · exact fun field hmem => h.isNear_of_readFields hg harrives hmem
    · exact fun field hmem => get_of_readFields_of_not_mem hg hmem
    · rw [hstamp]
      rfl
    · rw [hstamp]
      rfl
    · rfl
  refine ⟨_, h.outcome_decode_of_check hg hstation rfl hyear hcheck, hkept, ?_, rfl, rfl, rfl⟩
  apply congrArg Nat.cast
  apply Observation.presentCount_of_isSome
  intro q
  obtain ⟨x, hx, _⟩ := hdrawn.quantity q
  exact hkept.isSome (Option.isSome_of_eq_some hx)

/-! ## Traffic -/

/-- **Simulated traffic arrives.** Whatever a fair source yields, the reading keeps to its spans, its
    telegram can be written in every layout and is read in the second of its receipt as it was drawn, and
    a gateway with its own limit takes it from every station: its answer tells the number of the station and
    the layout, and what was read can be read from it. -/
theorem randomReading_received [HostZone] {σ : Type} [RandomSource σ] (hfair : RandomSource.Fair σ)
    {now st : Instant} (hnow : now.IsAware) (hst : now.toStation? = some st)
    (hyear : 1000 ≤ st.localTime.date.year) (v : Variant) (s : σ) :
    ∃ r s', randomReading now s = some (r, s') ∧ r.IsDrawn ∧
      ∃ t r', encode r v.size = .ok t ∧ t.length ≤ 480 ∧ (decode t now).outcome = .ok r' ∧
        r.IsReceived v st.wholeSecond r' ∧
        ∃ g, (startGateway []).outcome = .ok g ∧
          ∀ sender number, mobileNumber? sender = some number →
            ∃ a, (receive g now ⟨sender, t⟩).outcome = .ok a ∧ a.Acknowledges number v r' := by
  have hrandom : randomReading now s = some (readingAt st.wholeSecond s) := by
    unfold randomReading
    rw [hst]
    rfl
  have hdrawn := isDrawn_readingAt hfair st.wholeSecond s
  have hstamp : (readingAt st.wholeSecond s).1.observation.timestamp = st.wholeSecond := rfl
  obtain ⟨received, hreceived, _⟩ := hnow.exists_moment?
  obtain ⟨written, hwrites⟩ := hdrawn.exists_writes v (Instant.toStation?_wholeSecond hst)
  obtain ⟨r', hdecode, hback⟩ := hwrites.exists_receipt hdrawn hreceived hst hyear hstamp
  have hlength := length_telegramOf_le hdrawn hwrites
  have hlimit : ((telegramOf written).length : ℤ) ≤ 480 := by exact_mod_cast hlength
  refine ⟨_, _, hrandom, hdrawn, telegramOf written, r', encode_eq_ok_iff.mpr ⟨written, hwrites, rfl⟩,
    hlength, hdecode, hback, _, outcome_startGateway_nil, fun sender number hnumber => ?_⟩
  exact ⟨_, outcome_receive hlimit hdecode hwrites.ofMessage_telegramOf hnumber,
    acknowledges_receiptJson hdecode number v⟩

/-- The number of a station, written with a zero in front. -/
def sampleSender : Text := Text.ofString "09171234567"

theorem mobileNumber?_sampleSender : mobileNumber? sampleSender = some (Text.ofString "639171234567") := by
  decide +kernel

/-- A reading of the twister, seven in the morning of universal time, is taken from that station. -/
theorem randomReading_received_sample : sampleReceipt.IsAware ∧
    ∃ r s' t r' g a, randomReading sampleReceipt (Twister.ofSeed 1) = some (r, s') ∧
      encode r Variant.v24.size = .ok t ∧ (decode t sampleReceipt).outcome = .ok r' ∧
      r.IsKept .v24 r' ∧ (startGateway []).outcome = .ok g ∧
      (receive g sampleReceipt ⟨sampleSender, t⟩).outcome = .ok a ∧
      a.Acknowledges (Text.ofString "639171234567") .v24 r' := by
  have hnow : sampleReceipt.IsAware := ⟨0, rfl, by decide⟩
  have hst : sampleReceipt.toStation? = some ⟨⟨sampleReceipt.localTime.date,
      { sampleReceipt.localTime.time with hour := 15, hour_lt := by decide }⟩, .station⟩ := by
    decide +kernel
  obtain ⟨r, s', hr, _, t, r', ht, _, hdecode, hreceived, g, hg, hanswer⟩ :=
    randomReading_received Twister.fair hnow hst (by decide) .v24 (Twister.ofSeed 1)
  obtain ⟨a, ha, hholds⟩ := hanswer sampleSender _ mobileNumber?_sampleSender
  exact ⟨hnow, r, s', t, r', g, a, hr, ht, hdecode, hreceived.kept, hg, ha, hholds⟩

end WeatherTelegram
