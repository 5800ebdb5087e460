import WeatherTelegram.Gateway.Webhook
import WeatherTelegram.Proofs.Json.Document
import WeatherTelegram.Proofs.Telegram.Range

/-!
# `Proofs.Gateway.Receipt` — what the answer to a telegram holds

A telegram that is taken is answered with a document of four members: the number of the station, the layout,
the observation and the state of the device. All numbers of a reading that was decoded are finite, so the
whole reading can be read from the document.

## Contents
- `isFinite_value_of_decode`, `isFinite_gauge_of_decode`: the numbers of a reading that was decoded.
- `Answer.Acknowledges`, `acknowledges_receiptJson`: the answer to a reading, member by member.
-/

namespace WeatherTelegram

section

variable {raw : Text} {now : Instant} {r : Reading}

/-- The values of a reading that was decoded are finite, the rain rate included, which need not fit single
    precision. -/
theorem isFinite_value_of_decode (h : (decode raw now).outcome = .ok r) {q : Quantity} {x : Binary64}
    (hx : r.observation.value q = some x) : x.isFinite = true := by
  obtain ⟨v, g, check, hv, hg, _, rfl⟩ := outcome_decode_eq_ok_iff.mp h
  have hlength := ofMessage_eq_ok_iff.mp hv
  by_cases hrain : q = .rainRate
  · subst hrain
    obtain ⟨token, _, hread⟩ := exists_token_of_readFields hlength hg .rainRate
    rw [show g.value .rainRate = some x from hx] at hread
    obtain ⟨_, _, _, hkeep⟩ := WireUnit.exists_literal_of_read hread
    exact WireUnit.isFinite_of_keep hkeep
  · exact (fitsSingle_of_readFields hlength hg (.quantity q) hrain x hx).1

/-- So are its gauges. -/
theorem isFinite_gauge_of_decode (h : (decode raw now).outcome = .ok r) {g : Gauge} {x : Binary64}
    (hx : r.health.gauge g = some x) : x.isFinite = true := by
  obtain ⟨v, fields, check, hv, hfields, _, rfl⟩ := outcome_decode_eq_ok_iff.mp h
  exact (fitsSingle_of_readFields (ofMessage_eq_ok_iff.mp hv) hfields (.gauge g) x hx).1

/-- An answer that a reading was taken: it tells the number of the station and the layout, and the observation
    and the state of the device can be read from it. -/
structure Answer.Acknowledges (a : Answer) (number : Text) (v : Variant) (r : Reading) : Prop where
  status : a.status = 200
  body : a.body = receiptJson number v.size r
  number : (a.body.member? (Text.ofString "mobile_number")).bind Json.toText? = some number
  variant : (a.body.member? (Text.ofString "variant")).bind Json.toWhole? = some (some (v.size : ℤ))
  observation : ∃ j, a.body.member? (Text.ofString "observation") = some j ∧ r.observation.IsShownBy j
  health : ∃ j, a.body.member? (Text.ofString "health") = some j ∧ r.health.IsShownBy j

/-- **A reading that was decoded can be read from the answer to it.** -/
theorem acknowledges_receiptJson (h : (decode raw now).outcome = .ok r) (number : Text) (v : Variant) :
    Answer.Acknowledges ⟨200, receiptJson number v.size r⟩ number v r where
  status := rfl
  body := rfl
  number := rfl
  variant := Json.toWhole?_ofNat v.size
  observation := ⟨_, rfl, Observation.isShownBy_toJson fun _ _ => isFinite_value_of_decode h⟩
  health := ⟨_, rfl, Health.isShownBy_toJson fun _ _ => isFinite_gauge_of_decode h⟩

end

end WeatherTelegram
