import WeatherTelegram.Proofs.Telegram.RoundTrip
import WeatherTelegram.Proofs.Wire.Single

/-!
# `Proofs.Telegram.Range` — the range of what is read

Every number of a reading is what is kept of a literal that fits single precision. All of them fit, but for
one quantity: the rain rate travels in a unit of which one is more than one of the kept unit, and its range
is checked in the travelling unit alone. A number of tips above the threshold that still fits is kept as a
rain rate that does not.

## Contents
- `Entry.FitsSingle`, `Slot.fitsSingle_of_read`: the entries other than the rain rate.
- `decode_range`: the range of every number of a reading, and `decode_beyondSingle`.
-/

namespace WeatherTelegram

open Binary64

/-! ## Entries -/

/-- A number that fits single precision, or a whole number of 32 bits; of the rain rate it says nothing. -/
def Entry.FitsSingle : Entry → Prop
  | .quantity q x => q ≠ .rainRate → ∀ y, x = some y → y.FitsSingle
  | .gauge _ x => ∀ y, x = some y → y.FitsSingle
  | .code _ _ => True
  | .signal x => ∀ k, x = some k → IsInt32 k

/-- What is read without a factor above one fits. -/
theorem WireUnit.fitsSingle_of_read {u : WireUnit} (hu : u ≠ .tipsPerInterval) {keepsMark : Bool} {t : Text}
    {x : Binary64} (h : u.read keepsMark t = .ok (some x)) : x.FitsSingle := by
  obtain ⟨_, _, hfits, hkeep⟩ := WireUnit.exists_literal_of_read h
  exact WireUnit.fitsSingle_of_keep hu hfits hkeep

/-- **What a slot of a layout reads fits.** -/
theorem Slot.fitsSingle_of_read {v : Variant} {slot : Slot} (hslot : slot ∈ v.slots) {token : Text} {e : Entry}
    (h : slot.read token = .ok e) : e.FitsSingle := by
  cases slot with
  | quantity q unit keepsMark =>
    obtain ⟨x, hx, rfl⟩ := map_ok_iff.mp h
    rintro hq y rfl
    refine WireUnit.fitsSingle_of_read (fun hu => ?_) (asFault_eq_ok_iff.mp hx)
    subst hu
    exact hq (eq_rainRate_of_mem_slots hslot)
  | gauge g =>
    obtain ⟨x, hx, rfl⟩ := map_ok_iff.mp h
    rintro y rfl
    exact WireUnit.fitsSingle_of_read (u := .asKept) (by decide) (asFault_eq_ok_iff.mp hx)
  | voltage g form =>
    obtain ⟨x, hx, rfl⟩ := map_ok_iff.mp h
    rintro y rfl
    exact WireUnit.fitsSingle_of_read (u := .asKept) (by decide) (asFault_eq_ok_iff.mp hx)
  | code c =>
    cases h
    trivial
  | signal =>
    obtain ⟨x, hx, rfl⟩ := map_ok_iff.mp h
    rintro k rfl
    exact isInt32_of_readWhole hx
  | stamp => cases h
  | blank filler => cases h

/-- All fields of a row fit, those that it does not carry as well. -/
theorem fitsSingle_of_readFields {v : Variant} {tokens : List Text} (hlength : tokens.length = v.size)
    {g : Fields} (h : readFields v.slots tokens .empty = .ok g) (field : Field) : (g.get field).FitsSingle := by
  refine forall_get_of_readFields hlength h (fun slot hslot _ _ _ => Slot.fitsSingle_of_read hslot)
    (fun field => ?_) field
  cases field with
  | quantity q => exact fun _ y hy => by cases hy
  | gauge g => exact fun y hy => by cases hy
  | code c => trivial
  | signal => exact fun k hk => by cases hk

/-! ## Readings -/

/-- **The range of a reading.** Every quantity but the rain rate and every gauge is finite and fits single
    precision, and the signal has 32 bits. The rain rate is finite and at most what is kept of the widest number
    of tips; it fits exactly if the number of tips in its token is not above the threshold. -/
theorem decode_range {raw : Text} {now : Instant} {r : Reading} (h : (decode raw now).outcome = .ok r) :
    (∀ q x, r.observation.value q = some x → q ≠ .rainRate → x.FitsSingle) ∧
    (∀ g x, r.health.gauge g = some x → x.FitsSingle) ∧
    (∀ k, r.health.signal = some k → IsInt32 k) ∧
    ∀ x, r.observation.value .rainRate = some x → x.isFinite = true ∧
      x.abs ≤ WireUnit.widest .tipsPerInterval ∧
      ∃ v token l, Variant.ofMessage raw = .ok v ∧
        (Slot.quantity .rainRate .tipsPerInterval false, token) ∈ v.slots.zip (tokens (clean raw)) ∧
        DecimalLiteral.parse? token = some l ∧ l.toBinary64.FitsSingle ∧
        (x.FitsSingle ↔ l.toBinary64.abs ≤ widestTips) := by
  obtain ⟨v, g, check, hv, hg, _, rfl⟩ := outcome_decode_eq_ok_iff.mp h
  have hlength := ofMessage_eq_ok_iff.mp hv
  have hfits := fitsSingle_of_readFields hlength hg
  refine ⟨fun q x hx hq => hfits (.quantity q) hq x hx, fun gauge x => hfits (.gauge gauge) x,
    fun k => hfits .signal k, fun x hx => ?_⟩
  obtain ⟨token, hmem, hread⟩ := exists_token_of_readFields hlength hg .rainRate
  rw [show g.value .rainRate = some x from hx] at hread
  obtain ⟨l, hl, hliteral, hkeep⟩ := WireUnit.exists_literal_of_read hread
  exact ⟨WireUnit.isFinite_of_keep hkeep, WireUnit.abs_keep_le_widest hliteral hkeep, v, token, l, hv, hmem, hl,
    hliteral, fitsSingle_rain_iff hliteral.1 hkeep⟩

/-- A telegram of nineteen tokens with wide numbers for a temperature, a speed and tips. -/
def wideTelegram : Text := Text.ofString "0+-3e38+++3e38++++++3e38++++2147483647+++++0"

theorem decode_range_wide :
    ∃ r x y, (decode wideTelegram sampleReceipt).outcome = .ok r ∧
      r.observation.value .windSpeed = some x ∧ x.FitsSingle ∧ r.observation.value .rainRate = some y ∧
      y.isFinite = true ∧ y.abs ≤ WireUnit.widest .tipsPerInterval ∧ IsInt32 2147483647 := by
  have hkept : (decode wideTelegram sampleReceipt).outcome.map
      (fun r => ((r.observation.value .windSpeed).isSome, (r.observation.value .rainRate).isSome,
        r.health.signal)) = .ok (true, true, some 2147483647) := by decide +kernel
  obtain ⟨r, hr, hparts⟩ := map_ok_iff.mp hkept
  obtain ⟨hspeed, hrest⟩ := Prod.mk.inj hparts
  obtain ⟨hrain, hsignal⟩ := Prod.mk.inj hrest
  obtain ⟨x, hx⟩ := Option.isSome_iff_exists.mp hspeed
  obtain ⟨y, hy⟩ := Option.isSome_iff_exists.mp hrain
  obtain ⟨hvalues, _, hsignals, hrains⟩ := decode_range hr
  obtain ⟨hfinite, hmost, _⟩ := hrains y hy
  exact ⟨r, x, y, hr, hx, hvalues .windSpeed x hx (by decide), hy, hfinite, hmost, hsignals _ hsignal⟩

/-- **A rain rate beyond single precision** is kept, of a number of tips that fits it. -/
theorem decode_beyondSingle :
    ∃ r x, (decode (Text.ofString "0++++++++++3e38+++++++++0") sampleReceipt).outcome = .ok r ∧
      r.observation.value .rainRate = some x ∧ singleLimit < x.abs ∧ ¬ x.FitsSingle := by
  have hkept : (decode (Text.ofString "0++++++++++3e38+++++++++0") sampleReceipt).outcome.map
      (fun r => (r.observation.value .rainRate).map fun x => decide (singleLimit < x.abs ∧ ¬ x.FitsSingle)) =
        .ok (some true) := by decide +kernel
  obtain ⟨r, hr, hrain⟩ := map_ok_iff.mp hkept
  obtain ⟨x, hx, hbeyond⟩ := Option.map_eq_some_iff.mp hrain
  obtain ⟨hwide, hfits⟩ := of_decide_eq_true hbeyond
  exact ⟨r, x, hr, hx, hwide, hfits⟩

end WeatherTelegram
