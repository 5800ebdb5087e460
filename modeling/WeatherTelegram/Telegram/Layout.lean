import WeatherTelegram.Binary64.Arithmetic
import WeatherTelegram.Reading
import WeatherTelegram.Time.Stamp

/-!
# `Telegram.Layout` — the four layouts of a telegram

After its leading marker a telegram is a row of tokens, and their number alone tells the layout. Each
layout is a table with one slot per token, which reading and writing both walk.

## Contents
- `WireUnit`, `VoltageForm`, `Filler`, `Slot`: what a token stands for.
- `Variant`, `Variant.size`, `Variant.ofSize?`: the layouts by their number of tokens.
- `Variant.slots` with `Variant.length_slots`: the tables.
- `Slot.name`, `Slot.kind`, `Slot.record`: how a slot is described.
-/

namespace WeatherTelegram

/-! ## Slots -/

/-- The unit in which a quantity travels, if it is not the one it is kept in. -/
inductive WireUnit where
  | asKept
  | kilometresPerHour
  | tipsPerInterval
deriving DecidableEq, Inhabited, Repr

/-- The factor from the travelling unit to the kept one: metres per second for speeds, and six intervals
    an hour of 0.2 millimetre tips for rain. -/
def WireUnit.factor : WireUnit → Binary64
  | .asKept => 1
  | .kilometresPerHour => 1 / Binary64.ofRatio false 36 10
  | .tipsPerInterval => Binary64.ofRatio false 2 10 * 6

/-- How a voltage with a trailing mark is taken out of its token: up to the first `#`, or without the
    last character. -/
inductive VoltageForm where
  | untilHash
  | withoutLast
deriving DecidableEq, Inhabited, Repr

/-- The tokens that carry nothing. -/
inductive Filler where
  | spare
  | separator
  | marker
deriving DecidableEq, Inhabited, Repr

/-- What one token of a telegram stands for. -/
inductive Slot where
  /-- A quantity in its travelling unit; `keepsMark` takes the mark of a silent sensor for a value. -/
  | quantity (quantity : Quantity) (unit : WireUnit) (keepsMark : Bool)
  | gauge (gauge : Gauge)
  | voltage (gauge : Gauge) (form : VoltageForm)
  | code (code : Code)
  | signal
  | stamp
  | blank (filler : Filler)
deriving DecidableEq, Inhabited, Repr

namespace Slot

/-- The name of a slot: that of its field, or a label. -/
def name : Slot → Text
  | quantity q _ _ => q.name
  | gauge g => g.name
  | voltage g _ => g.name
  | code c => c.name
  | signal => ['s', 's']
  | stamp => Text.ofString "timestamp"
  | blank .spare => Text.ofString "filler"
  | blank .separator => Text.ofString "separator"
  | blank .marker => Text.ofString "sequence_marker"

/-- The name of the way in which a slot's token is read and written. -/
def kind : Slot → Text
  | quantity .. | gauge _ => Text.ofString "float"
  | voltage _ .untilHash => Text.ofString "voltage_hash"
  | voltage _ .withoutLast => Text.ofString "voltage_suffix"
  | code _ => Text.ofString "text"
  | signal => Text.ofString "int"
  | stamp => Text.ofString "timestamp"
  | blank _ => Text.ofString "literal"

/-- The name of the record that a slot's field belongs to. -/
def record : Slot → Text
  | quantity .. => Text.ofString "observation"
  | gauge _ | voltage .. | code _ | signal => Text.ofString "health"
  | stamp | blank _ => Text.ofString "none"

/-- The factor between the travelling and the kept unit of a slot. -/
def factor : Slot → Binary64
  | quantity _ unit _ => unit.factor
  | _ => 1

/-- Whether a slot takes the mark of a silent sensor for a value. -/
def keepsMark : Slot → Bool
  | quantity _ _ keeps => keeps
  | _ => false

/-- Whether a slot's token belongs to the device rather than to the weather. -/
def isHealth : Slot → Bool
  | gauge _ | voltage .. | code _ | signal => true
  | _ => false

end Slot

/-! ## Variants -/

/-- The four layouts, named for their number of tokens. -/
inductive Variant where
  | v19
  | v20
  | v23
  | v24
deriving DecidableEq, Inhabited, Repr

namespace Variant

/-- All variants, in order. -/
def all : List Variant := [v19, v20, v23, v24]

/-- The number of tokens of a layout. -/
def size : Variant → Nat
  | v19 => 19
  | v20 => 20
  | v23 => 23
  | v24 => 24

/-- The layout with a number of tokens. -/
def ofSize? : Nat → Option Variant
  | 19 => some v19
  | 20 => some v20
  | 23 => some v23
  | 24 => some v24
  | _ => none

theorem ofSize?_size (v : Variant) : ofSize? v.size = some v := by cases v <;> rfl

theorem size_eq_of_ofSize? {n : Nat} {v : Variant} (h : ofSize? n = some v) : v.size = n := by
  unfold ofSize? at h
  split at h <;> cases h <;> rfl

/-- The layout of a number. -/
def ofNumber? (k : Int) : Option Variant := if k < 0 then none else ofSize? k.toNat

/-- Whether the layout carries the whole health record. -/
def isFull : Variant → Bool
  | v19 | v20 => false
  | v23 | v24 => true

/-- How the layout writes its timestamp. -/
def stampStyle (v : Variant) : StampStyle := if v.isFull then .slash else .colon

end Variant

/-! ## The tables -/

/-- A quantity that travels in the unit it is kept in. -/
def Slot.plain (q : Quantity) : Slot := .quantity q .asKept false

/-- The slots up to the gust. -/
def windSlots : List Slot :=
  [.plain .temperature, .plain .humidity, .quantity .pressure .asKept true,
   .quantity .windSpeed .kilometresPerHour false, .quantity .gustSpeed .kilometresPerHour false]

/-- The slots of the quantities after the gust. -/
def restSlots : List Slot :=
  [.plain .windDirection, .plain .radiation, .plain .dewPoint, .plain .windChill,
   .quantity .rainRate .tipsPerInterval false]

/-- The health slots of the full layouts. -/
def fullHealthSlots : List Slot :=
  [.gauge .mainBattery, .gauge .backupBattery, .gauge .current, .gauge .firstBarometer,
   .gauge .secondBarometer, .code .modem, .signal, .gauge .temperatureAccuracy,
   .gauge .humidityAccuracy, .code .firmware]

/-- The health slots of the layout of 19 tokens. -/
def healthSlots19 : List Slot :=
  [.gauge .temperatureAccuracy, .gauge .humidityAccuracy, .signal, .voltage .mainBattery .untilHash,
   .gauge .firstBarometer, .code .firmware]

/-- The health slots of the layout of 20 tokens. -/
def healthSlots20 : List Slot :=
  [.signal, .voltage .mainBattery .withoutLast, .gauge .firstBarometer, .gauge .temperatureAccuracy,
   .gauge .humidityAccuracy, .code .firmware]

/-- A table of slots: the weather, a separator, the health slots, the timestamp and a closing marker. -/
def tableWith (filler health : List Slot) : List Slot :=
  windSlots ++ filler ++ restSlots ++ [.blank .separator] ++ health ++ [.stamp, .blank .marker]

namespace Variant

/-- The slots of a layout, one per token. -/
def slots : Variant → List Slot
  | v19 => tableWith [] healthSlots19
  | v20 => tableWith [.blank .spare] healthSlots20
  | v23 => tableWith [] fullHealthSlots
  | v24 => tableWith [.blank .spare] fullHealthSlots

theorem length_slots (v : Variant) : v.slots.length = v.size := by cases v <;> rfl

/-- The health slots of a layout, in the order of its tokens. -/
def healthSlots (v : Variant) : List Slot := v.slots.filter Slot.isHealth

end Variant

end WeatherTelegram
