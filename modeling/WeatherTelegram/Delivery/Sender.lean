import WeatherTelegram.Delivery.Effect
import WeatherTelegram.Text.Substring

/-!
# `Delivery.Sender` — telegrams to the gateway

## Contents
- `Sender`: where telegrams are posted, how patiently, and whether through one client for all.
- `Sender.deliver`: one telegram; whether the gateway took it.
- `Tally`, `Tally.after`: how many telegrams were taken and how many were not.
- `Sender.deliverAll`: one telegram after the other.
-/

namespace WeatherTelegram

/-- The path of the webhook under the address of a gateway. -/
def webhookPath : Text := Text.ofString "/v1/ptexter"

/-- Where telegrams are posted. With a shared client every post carries the timeout; without one, a
    client with that timeout is opened for each post. -/
structure Sender where
  url : Text
  timeout : Binary64
  shared : Bool

/-- The sender for the address of a gateway, with or without slashes at its end. -/
def Sender.ofBase (base : Text) (timeout : Binary64) (shared : Bool) : Sender :=
  ⟨Text.trimEnd (· == '/') base ++ webhookPath, timeout, shared⟩

/-- Posts a telegram on behalf of a number and tells whether the gateway took it. A failure that is not
    absorbed ends the work. -/
def Sender.deliver (s : Sender) (reply : Reply) (number message : Text) :
    Traced Effect Failure Bool := do
  if s.shared then Traced.emit (.post ⟨s.url, some s.timeout, number, message⟩)
  else
    Traced.emit (.openClient s.timeout)
    Traced.emit (.post ⟨s.url, none, number, message⟩)
  match reply with
  | .failed failure =>
    if failure.kind.isAbsorbed then
      Traced.report (.deliveryFailed failure.message)
      pure false
    else Traced.fail failure
  | .answered status body =>
    if status = 200 then
      Traced.report (.deliveryDone number)
      pure true
    else
      Traced.report (.deliveryRefused status number body)
      pure false

/-- How many telegrams the gateway took, and how many it did not. -/
structure Tally where
  sent : Nat
  failed : Nat
deriving DecidableEq, Inhabited, Repr

namespace Tally

/-- No telegram yet. -/
def zero : Tally := ⟨0, 0⟩

/-- The tally after a delivery; a failure that is not absorbed counts for nothing. -/
def after (t : Tally) : Except Failure Bool → Tally
  | .ok true => { t with sent := t.sent + 1 }
  | .ok false => { t with failed := t.failed + 1 }
  | .error _ => t

end Tally

/-- Posts one telegram after the other; a failure that is not absorbed ends the work. -/
def Sender.deliverAll (s : Sender) :
    Replies → Tally → List (Text × Text) → Traced Effect Failure Tally
  | _, tally, [] => pure tally
  | replies, tally, (number, message) :: rest => do
    let taken ← s.deliver replies.head number message
    s.deliverAll replies.tail (tally.after (.ok taken)) rest

end WeatherTelegram
