import WeatherTelegram.Json.Document
import WeatherTelegram.Proofs.Binary64.Written
import WeatherTelegram.Proofs.Time.Iso
import WeatherTelegram.Proofs.Wire.Whole

/-!
# `Proofs.Json.Document` — a reading can be read from its document

What a document says is what can be read from it: a number from its literal, a text as it stands, a time
from its form. An observation and a health record are shown by a document if each of their fields can be
read from the member of its name. The documents that are made of them show them, as long as all numbers
are finite; one that is not has no literal and would be shown as absent.

## Contents
- **Values.** `Json.toNumber?`, `Json.toWhole?`, `Json.toText?`, each with what it reads of the documents
  of values.
- **Times.** `Instant.IsShownBy`, `Instant.isShownBy_zuluText`.
- **Records.** `Observation.IsShownBy`, `Health.IsShownBy`, with `isShownBy_toJson` for both.
-/

namespace WeatherTelegram

/-! ## Values -/

namespace Json

/-- The double of a literal, or no value for null. -/
def toNumber? : Json → Option (Option Binary64)
  | null => some none
  | number literal => (DecimalLiteral.parse? literal).map fun l => some l.toBinary64
  | _ => none

/-- The whole number of a literal, or no value for null. -/
def toWhole? : Json → Option (Option ℤ)
  | null => some none
  | number literal => (asciiNumber? (takeSign literal).2).map fun n : ℕ =>
      some (if (takeSign literal).1 then -(n : ℤ) else n)
  | _ => none

/-- The text of a document that is one. -/
def toText? : Json → Option Text
  | text t => some t
  | _ => none

/-- **A finite double is read from its document.** -/
theorem toNumber?_ofBinary64 {x : Binary64} (h : x.isFinite = true) :
    (ofBinary64 x).toNumber? = some (some x) := by
  obtain ⟨l, hl, hx⟩ := exists_parse?_text h
  unfold ofBinary64
  rw [if_pos h, toNumber?, hl, Option.map_some, hx]

/-- So is one that may be absent. -/
theorem toNumber?_optionToJson {x : Option Binary64} (h : ∀ y, x = some y → y.isFinite = true) :
    (Binary64.optionToJson x).toNumber? = some x := by
  cases x with
  | none => rfl
  | some y => exact toNumber?_ofBinary64 (h y rfl)

theorem toWhole?_ofInt (k : ℤ) : (ofInt k).toWhole? = some (some k) := by
  rw [ofInt, toWhole?, takeSign_ofInt, asciiNumber?_ofNat, Option.map_some, signed_natAbs]

theorem toWhole?_ofNat (n : ℕ) : (ofNat n).toWhole? = some (some (n : ℤ)) := toWhole?_ofInt n

theorem toWhole?_ofOption (k : Option ℤ) : (ofOption ofInt k).toWhole? = some k := by
  cases k with
  | none => rfl
  | some k => exact toWhole?_ofInt k

end Json

/-! ## Times -/

/-- A text that gives a reading of a clock: it is written in full and read as that local time, with the offset
    of the clock. An offset under one second is not read as it is written. -/
structure Instant.IsShownBy (t : Instant) (text : Text) : Prop where
  written : text = t.zuluText
  read : ∀ offset, t.zone.offset? = some offset → offset.natAbs < microsecondsPerDay →
    offset = 0 ∨ 1000000 ≤ offset.natAbs → Instant.ofIso text = .ok ⟨t.localTime, .fixed offset⟩

theorem Instant.isShownBy_zuluText (t : Instant) : t.IsShownBy t.zuluText :=
  ⟨rfl, fun _ => ofIso_zuluText⟩

/-! ## Records -/

/-- A document from which an observation can be read: each value from the member of its name, and the time. -/
structure Observation.IsShownBy (o : Observation) (j : Json) : Prop where
  value : ∀ q : Quantity, (j.member? q.name).bind Json.toNumber? = some (o.value q)
  timestamp : ∃ t, (j.member? (Text.ofString "timestamp")).bind Json.toText? = some t ∧
    o.timestamp.IsShownBy t

/-- A document from which a health record can be read. -/
structure Health.IsShownBy (h : Health) (j : Json) : Prop where
  gauge : ∀ g : Gauge, (j.member? g.name).bind Json.toNumber? = some (h.gauge g)
  code : ∀ c : Code, (j.member? c.name).bind Json.toText? = some (h.code c)
  signal : (j.member? (Text.ofString "ss")).bind Json.toWhole? = some h.signal
  errorMessage : (j.member? (Text.ofString "error_msg")).bind Json.toText? = some h.errorMessage
  message : (j.member? (Text.ofString "message")).bind Json.toText? = some h.message
  presentCount : (j.member? (Text.ofString "data_count")).bind Json.toWhole? = some (some h.presentCount)
  presence : (j.member? (Text.ofString "data_status")).bind Json.toText? = some h.presence
  timestamp : ∃ t, (j.member? (Text.ofString "timestamp")).bind Json.toText? = some t ∧
    h.timestamp.IsShownBy t
  minutesDifference : (j.member? (Text.ofString "minutes_difference")).bind Json.toWhole? =
    some (some h.minutesDifference)

theorem Observation.member?_toJson (o : Observation) (q : Quantity) :
    o.toJson.member? q.name = some (Binary64.optionToJson (o.value q)) := by
  cases q <;> rfl

theorem Health.member?_gauge (h : Health) (g : Gauge) :
    h.toJson.member? g.name = some (Binary64.optionToJson (h.gauge g)) := by
  cases g <;> rfl

theorem Health.member?_code (h : Health) (c : Code) :
    h.toJson.member? c.name = some (.text (h.code c)) := by
  cases c <;> rfl

/-- **An observation is read from its document.** -/
theorem Observation.isShownBy_toJson {o : Observation}
    (hfinite : ∀ q x, o.value q = some x → x.isFinite = true) : o.IsShownBy o.toJson where
  value q := by
    rw [o.member?_toJson, Option.bind_some, Json.toNumber?_optionToJson (hfinite q)]
  timestamp := ⟨_, rfl, o.timestamp.isShownBy_zuluText⟩

/-- **A health record is read from its document.** -/
theorem Health.isShownBy_toJson {h : Health}
    (hfinite : ∀ g x, h.gauge g = some x → x.isFinite = true) : h.IsShownBy h.toJson where
  gauge g := by
    rw [h.member?_gauge, Option.bind_some, Json.toNumber?_optionToJson (hfinite g)]
  code c := by
    rw [h.member?_code, Option.bind_some, Json.toText?]
  signal := Json.toWhole?_ofOption h.signal
  errorMessage := rfl
  message := rfl
  presentCount := Json.toWhole?_ofInt h.presentCount
  presence := rfl
  timestamp := ⟨_, rfl, h.timestamp.isShownBy_zuluText⟩
  minutesDifference := Json.toWhole?_ofInt h.minutesDifference

end WeatherTelegram
