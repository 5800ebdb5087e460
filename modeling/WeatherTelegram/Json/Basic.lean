import WeatherTelegram.Binary64.Written

/-!
# `Json.Basic` — documents

## Contents
- `Json`: documents. A number is kept as it is written, and fields keep their order.
- `Json.member?`: the field of a name, of which the last counts.
- `Json.ofNat`, `Json.ofInt`, `Json.ofBinary64`, `Json.ofOption`: values as documents.
-/

namespace WeatherTelegram

/-- A document. -/
inductive Json where
  | null
  | flag (flag : Bool)
  | number (literal : Text)
  | text (text : Text)
  | list (items : List Json)
  | object (fields : List (Text × Json))
deriving Inhabited

namespace Json

/-- The last field of a name. -/
def member? (name : Text) : Json → Option Json
  | object fields => fields.reverse.lookup name
  | _ => none

/-- A natural number. -/
def ofNat (n : Nat) : Json := number (Text.ofNat n)

/-- A whole number. -/
def ofInt (k : Int) : Json := number (Text.ofInt k)

/-- A double by its shortest text; one that is not finite has no literal. -/
def ofBinary64 (x : Binary64) : Json := if x.isFinite then number x.text else null

/-- A value that may be absent. -/
def ofOption {α : Type} (write : α → Json) : Option α → Json
  | some a => write a
  | none => null

end Json

end WeatherTelegram
