import WeatherTelegram.Proofs.Telegram.Presence

/-!
# `Proofs.Telegram.Silence` — which tokens are taken for the mark of a silent sensor

The reader compares what a literal denotes with the mark before it rounds. So the mark is absent in any
spelling that denotes its very double, and a literal beside it, such as one with the digits of its single
precision, is not the mark but rounds to it, and is kept as a value.

## Contents
- **Slots.** `Slot.isDecimal`, `Slot.numberText`, `Slot.readNumber_of_read`.
- **Beside the mark.** `roundToHundredths_near_silentMark`.
- **Readings.** `silentMark_kept_iff` and `silentMark_kept`.
-/

namespace WeatherTelegram

open Binary64

/-! ## Slots -/

/-- Whether a slot holds a number with decimal places. -/
def Slot.isDecimal : Slot → Bool
  | .quantity .. | .gauge _ | .voltage .. => true
  | .code _ | .signal | .stamp | .blank _ => false

/-- The part of a slot's token that is read as a number. -/
def Slot.numberText : Slot → Text → Text
  | .voltage _ form, token => form.body token
  | _, token => token

/-- A slot without a factor holds the number of its token. -/
theorem Slot.readNumber_of_read {slot : Slot} (hdecimal : slot.isDecimal = true)
    (hfactor : slot.factor = 1) {field : Field} (hfield : slot.field? = some field) {token : Text}
    {r : Reading} (hread : slot.read token = .ok (r.fields.get field)) :
    readNumber slot.keepsMark (slot.numberText token) = .ok (r.number? slot) := by
  cases slot with
  | quantity q unit keepsMark =>
    cases hfield
    obtain rfl := WireUnit.eq_asKept_of_factor hfactor
    obtain ⟨x, hx, heq⟩ := map_ok_iff.mp hread
    cases heq
    exact asFault_eq_ok_iff.mp hx
  | gauge g =>
    cases hfield
    obtain ⟨x, hx, heq⟩ := map_ok_iff.mp hread
    cases heq
    exact asFault_eq_ok_iff.mp hx
  | voltage g form =>
    cases hfield
    obtain ⟨x, hx, heq⟩ := map_ok_iff.mp hread
    cases heq
    exact asFault_eq_ok_iff.mp hx
  | code c => cases hdecimal
  | signal => cases hdecimal
  | stamp => cases hdecimal
  | blank filler => cases hdecimal

theorem Slot.exists_field_of_isDecimal {slot : Slot} (h : slot.isDecimal = true) :
    ∃ field, slot.field? = some field := by
  cases slot with
  | quantity q unit keepsMark => exact ⟨_, rfl⟩
  | gauge g => exact ⟨_, rfl⟩
  | voltage g form => exact ⟨_, rfl⟩
  | code c => cases h
  | signal => cases h
  | stamp => cases h
  | blank filler => cases h

/-! ## Beside the mark -/

/-- Whatever lies within half a hundredth of the mark rounds to it, but for a margin at the ends. -/
theorem roundToHundredths_near_silentMark {s : Bool} {m : Magnitude}
    (h : |value (.finite s m) - 9999 / 10| ≤ 49 / 10000) :
    (Binary64.finite s m).roundToHundredths = .ok silentMark ∧
      ¬ singleLimit < (Binary64.finite s m).abs := by
  obtain ⟨hl, hr⟩ := abs_le.mp h
  cases s with
  | true =>
    rw [value_finite_true] at hl
    linarith [m.value_nonneg]
  | false =>
    rw [value_finite_false] at hl hr
    constructor
    · obtain ⟨c, hc, herr⟩ := roundToHundredths_finite false (m := m) (by linarith)
      obtain ⟨hel, her⟩ := abs_le.mp herr
      have hcount : c = 99990 := by
        apply natCast_eq_of_abs_sub_lt_one
        push_cast
        rw [abs_lt]
        constructor <;> linarith
      rw [hc, hcount, hundredths_silentMark]
    · obtain ⟨n, hn, hlimit, _⟩ := singleLimit_eq
      rw [hn]
      intro hwide
      have hlt : n.value < m.value := (lt_finite_iff false false n m).mp hwide
      linarith

/-! ## Readings -/

/-- **Which tokens leave the mark in a reading.** In a slot without a factor that does not keep the mark,
    what is read is the mark exactly if the token is a literal of another double, not beyond single
    precision, that rounds to the mark. Any literal of the mark itself is absent; any other within
    forty-nine ten-thousandths of it is kept. -/
theorem silentMark_kept_iff {raw : Text} {v : Variant} {now : Instant} {r : Reading}
    (hv : Variant.ofMessage raw = .ok v) (hr : (decode raw now).outcome = .ok r) {slot : Slot}
    {token : Text} (hmem : (slot, token) ∈ v.slots.zip (tokens (clean raw)))
    (hdecimal : slot.isDecimal = true) (hkeeps : slot.keepsMark = false) (hfactor : slot.factor = 1) :
    (r.number? slot = some silentMark ↔
      ∃ l, DecimalLiteral.parse? (slot.numberText token) = some l ∧ l.toBinary64 ≠ silentMark ∧
        ¬ singleLimit < l.toBinary64.abs ∧ l.toBinary64.roundToHundredths = .ok silentMark) ∧
    ∀ l, DecimalLiteral.parse? (slot.numberText token) = some l →
      (l.toBinary64 = silentMark → r.number? slot = none) ∧
      (l.toBinary64 ≠ silentMark → l.toBinary64.isFinite = true →
        |l.toBinary64.value - 9999 / 10| ≤ 49 / 10000 → r.number? slot = some silentMark) := by
  obtain ⟨field, hfield⟩ := Slot.exists_field_of_isDecimal hdecimal
  obtain ⟨w, fields, check, hw, hfields, _, rfl⟩ := outcome_decode_eq_ok_iff.mp hr
  obtain rfl : w = v := Except.ok.inj (hw.symm.trans hv)
  have hread := read_of_readFields (nodup_fields w) hfields hmem hfield
  have hnumber := Slot.readNumber_of_read (r := .assemble (clean raw) fields check) hdecimal hfactor
    hfield hread
  rw [hkeeps] at hnumber
  have hiff : (Reading.assemble (clean raw) fields check).number? slot = some silentMark ↔
      ∃ l, DecimalLiteral.parse? (slot.numberText token) = some l ∧ l.toBinary64 ≠ silentMark ∧
        ¬ singleLimit < l.toBinary64.abs ∧ l.toBinary64.roundToHundredths = .ok silentMark := by
    rw [← Except.ok.injEq (ε := NonFinite), ← hnumber, readNumber_eq_some_iff]
    simp only [IsLost, true_and, not_or, and_assoc]
  refine ⟨hiff, fun l hl => ⟨fun hmark => ?_, fun hne hfinite hnear => ?_⟩⟩
  · have hnone := (readNumber_of_parse? false hl).1 (.inl ⟨rfl, hmark⟩)
    exact Except.ok.inj (hnumber.symm.trans hnone)
  · obtain ⟨s, m, hm⟩ := exists_finite hfinite
    rw [hm] at hnear
    obtain ⟨hround, hfits⟩ := roundToHundredths_near_silentMark hnear
    exact hiff.mpr ⟨l, hl, hne, by rwa [hm], by rwa [hm]⟩

/-- A telegram of nineteen tokens with a temperature and a voltage beside the mark: the digits of the mark
    in single precision, and a third decimal place. -/
def besideTelegram : Text :=
  Text.ofString "0+999.900024++++++++++++++999.904#++++0"

theorem silentMark_kept_iff_beside :
    ∃ r, (decode besideTelegram sampleReceipt).outcome = .ok r ∧
      r.health.gauge .mainBattery = some silentMark := by
  have hv : Variant.ofMessage besideTelegram = .ok .v19 := by decide +kernel
  obtain ⟨r, hr⟩ : ∃ r, (decode besideTelegram sampleReceipt).outcome = .ok r :=
    exists_of_isOk (by decide +kernel)
  have hmem : (Slot.voltage .mainBattery .untilHash, Text.ofString "999.904#") ∈
      Variant.v19.slots.zip (tokens (clean besideTelegram)) := by decide +kernel
  have hkept := (silentMark_kept_iff hv hr hmem rfl rfl rfl).1.mpr
    ⟨⟨false, [9, 9, 9], [9, 0, 4], 0⟩, by decide +kernel, by decide +kernel, by decide +kernel,
      by decide +kernel⟩
  exact ⟨r, hr, hkept⟩

/-- **The mark is kept as a value** of a slot that takes it for none. -/
theorem silentMark_kept :
    Slot.plain .temperature ∈ Variant.v19.slots ∧ (Slot.plain .temperature).keepsMark = false ∧
      (Slot.plain .temperature).factor = 1 ∧ ∃ r, (decode besideTelegram sampleReceipt).outcome = .ok r ∧
        r.observation.value .temperature = some silentMark := by
  have hreading : (match (decode besideTelegram sampleReceipt).outcome with
      | .ok r => decide (r.observation.value .temperature = some silentMark)
      | .error _ => false) = true := by decide +kernel
  refine ⟨by decide, rfl, rfl, ?_⟩
  cases hdecode : (decode besideTelegram sampleReceipt).outcome with
  | error fault =>
    rw [hdecode] at hreading
    cases hreading
  | ok r =>
    rw [hdecode] at hreading
    exact ⟨r, rfl, of_decide_eq_true hreading⟩

end WeatherTelegram
