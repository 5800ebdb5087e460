import WeatherTelegram.Time.Instant
import WeatherTelegram.Text.Quoted

/-!
# `Journal` — what the program reports while it works

Every part reports events as values, in order, beside its result. How an event is worded and how
grave it is are decided here once.

## Contents
- `Level`, `Channel`, `Event`: gravity, reporting part and kind of an event.
- `Level.label`, `Channel.label`: how they are written in a journal line.
- `Event.level`, `Event.channel`, `Event.text`: the three parts of a journal line.
-/

namespace WeatherTelegram

/-! ## Events -/

/-- How grave an event is, in increasing order. -/
inductive Level where
  | debug
  | info
  | warning
  | error
deriving DecidableEq, Inhabited, Repr

/-- The part of the program that reports an event. -/
inductive Channel where
  | decoder
  | timestamps
  | sender
  | commands
  | gateway
  | webhook
deriving DecidableEq, Inhabited, Repr

/-- The name of a level. -/
def Level.label : Level → Text
  | debug => Text.ofString "DEBUG"
  | info => Text.ofString "INFO"
  | warning => Text.ofString "WARNING"
  | error => Text.ofString "ERROR"

/-- How grave a level is, as a number. -/
def Level.rank : Level → Nat
  | debug => 0
  | info => 1
  | warning => 2
  | error => 3

/-- The name of a channel. -/
def Channel.label : Channel → Text
  | decoder => Text.ofString "lufft.src.decoder"
  | timestamps => Text.ofString "lufft.src.timestamps"
  | sender => Text.ofString "lufft.src.sender"
  | commands => Text.ofString "lufft.src.main"
  | gateway => Text.ofString "gateway.src.api.main"
  | webhook => Text.ofString "gateway.src.api.telegram"

/-- What the program reports. -/
inductive Event where
  | telegramRejected (count : Nat) (message : Text)
  | stampUnreadable (token : Text)
  | stampOutsideWindow (stamp receipt : Instant) (fault : Text)
  | telegramDecoded (variant : Nat) (status : Text)
  | deliveryFailed (reason : Text)
  | deliveryDone (number : Text)
  | deliveryRefused (status : Int) (number body : Text)
  | decodingFailed (reason : Text)
  | simulationStarted (count variant : Nat) (url : Text) (stations : Nat)
  | simulationDone (sent failed : Nat)
  | rowOfColumns (row columns : Nat)
  | rowOfStatus (row : Nat) (status : Text)
  | replayStarted (count : Nat) (path url : Text)
  | replayDone (sent failed skipped : Nat)
  | replayUnreadable (reason : Text)
  | gatewayReady (limit : Text)
  | messageTooLong (number : Text) (length : Nat)
  | messageInvalid (number message : Text)
  | numberInvalid (number message : Text)
  | stampReplaced (number fault : Text)
  | messageDecoded (number status : Text)
deriving DecidableEq, Inhabited

namespace Event

/-- The gravity of an event. -/
def level : Event → Level
  | telegramDecoded .. | deliveryDone .. => .debug
  | simulationStarted .. | simulationDone .. | replayStarted .. | replayDone .. | gatewayReady ..
  | messageDecoded .. => .info
  | decodingFailed .. | replayUnreadable .. => .error
  | _ => .warning

/-- The part that reports an event. -/
def channel : Event → Channel
  | telegramRejected .. | stampUnreadable .. | telegramDecoded .. => .decoder
  | stampOutsideWindow .. => .timestamps
  | deliveryFailed .. | deliveryDone .. | deliveryRefused .. => .sender
  | decodingFailed .. | simulationStarted .. | simulationDone .. | rowOfColumns .. | rowOfStatus ..
  | replayStarted .. | replayDone .. | replayUnreadable .. => .commands
  | gatewayReady .. => .gateway
  | messageTooLong .. | messageInvalid .. | numberInvalid .. | stampReplaced .. | messageDecoded .. =>
    .webhook

/-- The mark on every event of the webhook. -/
def webhookMark : Text := Text.ofString "[PromoTexter] "

/-- The wording of an event. -/
def text : Event → Text
  | telegramRejected count message =>
    Text.ofString "Rejected telegram with " ++ Text.ofNat count ++ Text.ofString " tokens: " ++
      message.quoted
  | stampUnreadable token =>
    Text.ofString "Unparseable telegram timestamp " ++ token.quoted ++
      Text.ofString ", using receipt time"
  | stampOutsideWindow stamp receipt fault =>
    Text.ofString "Implausible telegram timestamp " ++ stamp.isoText ++ Text.ofString " (receipt " ++
      receipt.isoText ++ Text.ofString "): " ++ fault
  | telegramDecoded variant status =>
    Text.ofString "Decoded V" ++ Text.ofNat variant ++ Text.ofString " telegram: data_status=" ++ status
  | deliveryFailed reason => Text.ofString "Send failed (network error): " ++ reason
  | deliveryDone number => Text.ofString "Sent telegram for " ++ number
  | deliveryRefused status number body =>
    Text.ofString "Send failed (HTTP " ++ Text.ofInt status ++ Text.ofString ") for " ++ number ++
      Text.ofString ": " ++ body
  | decodingFailed reason => Text.ofString "Cannot decode telegram: " ++ reason
  | simulationStarted count variant url stations =>
    Text.ofString "Simulating " ++ Text.ofNat count ++ Text.ofString " V" ++ Text.ofNat variant ++
      Text.ofString " telegrams to " ++ url ++ Text.ofString " from " ++ Text.ofNat stations ++
      Text.ofString " station(s)"
  | simulationDone sent failed =>
    Text.ofString "Simulation done: sent=" ++ Text.ofNat sent ++ Text.ofString " failed=" ++
      Text.ofNat failed
  | rowOfColumns row columns =>
    Text.ofString "Skipping row " ++ Text.ofNat row ++ Text.ofString ": expected 3 columns, got " ++
      Text.ofNat columns
  | rowOfStatus row status =>
    Text.ofString "Skipping row " ++ Text.ofNat row ++ Text.ofString ": status " ++ status.quoted ++
      Text.ofString " is not an integer"
  | replayStarted count path url =>
    Text.ofString "Replaying " ++ Text.ofNat count ++ Text.ofString " telegram(s) from " ++ path ++
      Text.ofString " to " ++ url
  | replayDone sent failed skipped =>
    Text.ofString "Replay done: sent=" ++ Text.ofNat sent ++ Text.ofString " failed=" ++
      Text.ofNat failed ++ Text.ofString " skipped=" ++ Text.ofNat skipped
  | replayUnreadable reason => Text.ofString "Cannot read replay file: " ++ reason
  | gatewayReady limit =>
    Text.ofString "Lufft gateway ready (max_message_length=" ++ limit ++ [')']
  | messageTooLong number length =>
    webhookMark ++ Text.ofString "Message too long: sender=" ++ number ++
      Text.ofString " length=" ++ Text.ofNat length
  | messageInvalid number message =>
    webhookMark ++ Text.ofString "Invalid string: sender=" ++ number ++ Text.ofString " msg=" ++
      message.quoted
  | numberInvalid number message =>
    webhookMark ++ Text.ofString "Invalid mobile number: sender=" ++ number ++
      Text.ofString " msg=" ++ message.quoted
  | stampReplaced number fault =>
    webhookMark ++ Text.ofString "Timestamp replaced for " ++ number ++ Text.ofString ": " ++ fault
  | messageDecoded number status =>
    webhookMark ++ Text.ofString "Decoded telegram from " ++ number ++
      Text.ofString ": data_status=" ++ status

end Event

end WeatherTelegram
