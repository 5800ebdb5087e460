import WeatherTelegram.Telegram.Decode

/-!
# `Telegram.Encode` — from a reading to a telegram

The slots of a layout are written in order, so the first slot that cannot be written gives the fault.

## Contents
- `reservedParts`: what a text field must not contain.
- `WireUnit.write`, `Slot.write`: the token of a slot.
- `encode`: the telegram of a reading in the layout of a number.
-/

namespace WeatherTelegram

/-- The parts that reading a telegram would take for a delimiter or a trace of a gateway. -/
def reservedParts : List Text := [[delimiter], ['>'], ['%', '2', '0']]

/-- Whether a text would break a telegram apart. -/
def isReserved (t : Text) : Bool := reservedParts.any fun part => Text.hasPart part t

/-- The token of the leading marker and of all tokens that carry nothing. -/
def blankToken : Text := ['0']

/-- The mark after a voltage. -/
def voltageMark : Text := ['#']

/-- The token of a quantity, in its travelling unit. -/
def WireUnit.write (unit : WireUnit) (value : Option Binary64) : Except NonFinite Text :=
  match unit with
  | .asKept => writeNumber value
  | _ => writeNumber (value.map (· / unit.factor))

/-- The token of a voltage, with its mark; absence is the empty token. -/
def writeVoltage : Option Binary64 → Except NonFinite Text
  | none => .ok []
  | some value => (writeNumber (some value)).map (· ++ voltageMark)

/-- The token that a slot writes for a reading. -/
def Slot.write [HostZone] (reading : Reading) (style : StampStyle) (slot : Slot) : Except Fault Text :=
  match slot with
  | .quantity q unit _ => asFault (unit.write (reading.observation.value q))
  | .gauge g => asFault (writeNumber (reading.health.gauge g))
  | .voltage g _ => asFault (writeVoltage (reading.health.gauge g))
  | .code c =>
    if isReserved (reading.health.code c) then .error (.reserved c.name (reading.health.code c))
    else .ok (reading.health.code c)
  | .signal => writeWhole reading.health.signal
  | .stamp =>
    match reading.observation.timestamp.stampText? style with
    | some t => .ok t
    | none => .error .calendarRange
  | .blank _ => .ok blankToken

/-- The telegram of a reading in one layout. -/
def encodeAs [HostZone] (reading : Reading) (variant : Variant) : Except Fault Text := do
  let written ← variant.slots.mapM (Slot.write reading variant.stampStyle)
  pure (List.intercalate [delimiter] (blankToken :: written))

/-- The telegram of a reading in the layout of a number, which has to be one of the four. -/
def encode [HostZone] (reading : Reading) (number : Int) : Except Fault Text :=
  match Variant.ofNumber? number with
  | some variant => encodeAs reading variant
  | none => .error (.variant number)

end WeatherTelegram
