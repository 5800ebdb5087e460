import WeatherTelegram.Telegram.Framing
import WeatherTelegram.Time.Plausibility
import WeatherTelegram.Wire.Number

/-!
# `Telegram.Decode` — from a telegram to a reading

The tokens are walked beside the slots of the layout that their number selects. A token that means
nothing leaves its field absent; only a number of tokens without a layout, a whole number of too many
digits or a time of receipt without a zone fails the telegram.

## Contents
- `Entry`: one field with its value; `Slot.read`: the entry of a token.
- `Fields`, `Fields.put`, `readFields`: the fields of a whole telegram.
- `stampToken`: the token of the timestamp.
- `decode`: the reading of a message at a time of receipt.
-/

namespace WeatherTelegram

/-! ## One token -/

/-- A field of a telegram with its value. -/
inductive Entry where
  | quantity (quantity : Quantity) (value : Option Binary64)
  | gauge (gauge : Gauge) (value : Option Binary64)
  | code (code : Code) (value : Text)
  | signal (value : Option Int)
deriving DecidableEq

/-- A rounding failure as a fault of the telegram. -/
def asFault {α : Type} (r : Except NonFinite α) : Except Fault α := r.mapError .notFinite

/-- The voltage in a token with a trailing mark. -/
def VoltageForm.body : VoltageForm → Text → Text
  | .untilHash, token => token.before '#'
  | .withoutLast, token => token.dropLast

/-- A quantity as its token gives it, in the unit it is kept in. -/
def WireUnit.read (unit : WireUnit) (keepsMark : Bool) (token : Text) :
    Except NonFinite (Option Binary64) :=
  match unit with
  | .asKept => readNumber keepsMark token
  | _ => readScaledNumber unit.factor keepsMark token

/-- The entry that a slot reads from its token; a slot without a field has none. -/
def Slot.read (slot : Slot) (token : Text) : Except Fault Entry :=
  match slot with
  | .quantity q unit keepsMark => (asFault (unit.read keepsMark token)).map (.quantity q)
  | .gauge g => (asFault (readNumber false token)).map (.gauge g)
  | .voltage g form => (asFault (readNumber false (form.body token))).map (.gauge g)
  | .code c => .ok (.code c token)
  | .signal => (readWhole token).map .signal
  | .stamp | .blank _ => .error (.noFieldValue slot.name slot.kind)

/-! ## All tokens -/

/-- The fields that a telegram carries; those it does not carry are absent. -/
structure Fields where
  value : Quantity → Option Binary64
  gauge : Gauge → Option Binary64
  code : Code → Text
  signal : Option Int

namespace Fields

/-- No field at all. -/
def empty : Fields := ⟨fun _ => none, fun _ => none, fun _ => [], none⟩

/-- The fields with one entry put in. -/
def put (f : Fields) : Entry → Fields
  | .quantity q v => { f with value := fun p => if p = q then v else f.value p }
  | .gauge g v => { f with gauge := fun p => if p = g then v else f.gauge p }
  | .code c t => { f with code := fun p => if p = c then t else f.code p }
  | .signal v => { f with signal := v }

end Fields

/-- Whether a slot holds a field. -/
def Slot.hasField : Slot → Bool
  | .stamp | .blank _ => false
  | _ => true

/-- Puts the entries of the tokens into the fields, slot by slot. -/
def readFields : List Slot → List Text → Fields → Except Fault Fields
  | slot :: slots, token :: tokens, fields =>
    if slot.hasField then do
      let entry ← slot.read token
      readFields slots tokens (fields.put entry)
    else readFields slots tokens fields
  | _, _, fields => .ok fields

/-- The token of the timestamp slot. -/
def stampToken : List Slot → List Text → Text
  | .stamp :: _, token :: _ => token
  | _ :: slots, _ :: tokens => stampToken slots tokens
  | _, _ => []

/-! ## The reading -/

/-- The reading made of a telegram's text, its fields and the check of its timestamp. -/
def Reading.assemble (message : Text) (fields : Fields) (check : StampCheck) : Reading :=
  let observation : Observation := ⟨fields.value, check.timestamp⟩
  ⟨observation,
    { gauge := fields.gauge
      code := fields.code
      signal := fields.signal
      errorMessage := check.message
      message := message
      presentCount := observation.presentCount
      presence := observation.presence
      timestamp := check.timestamp
      minutesDifference := check.minutesDifference }⟩

/-- Reads the tokens of a message by the slots of a layout. -/
def decodeAs (variant : Variant) (message : Text) (tokens : List Text) (now : Instant) :
    Traced Event Fault Reading := do
  let fields ← Traced.ofExcept (readFields variant.slots tokens .empty)
  let token := stampToken variant.slots tokens
  let stamp := Instant.ofStamp? token
  let _ ← if stamp.isNone then Traced.emit (.stampUnreadable token) else Traced.ok ()
  let check ← checkStamp stamp now
  let reading := Reading.assemble message fields check
  Traced.emit (.telegramDecoded variant.size reading.health.presence)
  pure reading

/-- The reading of a message that was received at `now`. -/
def decode (raw : Text) (now : Instant) : Traced Event Fault Reading :=
  let message := clean raw
  let tokens := tokens message
  match Variant.ofTokenCount tokens.length with
  | .ok variant => decodeAs variant message tokens now
  | .error fault => ⟨[.telegramRejected tokens.length message], .error fault⟩

end WeatherTelegram
