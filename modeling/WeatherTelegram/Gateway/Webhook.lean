import WeatherTelegram.Gateway.Mobile
import WeatherTelegram.Gateway.Submission
import WeatherTelegram.Json.Document
import WeatherTelegram.Telegram.Decode

/-!
# `Gateway.Webhook` — the answer to a telegram

## Contents
- `Gateway`: what a gateway knows from its start; `startGateway`: the start.
- `allowedOrigins`: the origins that browsers may call it from.
- `Answer`: a status and a document.
- `receive`: the answer to a submission.
-/

namespace WeatherTelegram

/-! ## The start -/

/-- What a gateway knows from its start: the longest message, as a number and as it was given. -/
structure Gateway where
  limit : Int
  limitText : Text
deriving DecidableEq, Inhabited

/-- A gateway was given no positive whole number for the longest message. -/
structure GatewayFault where
  given : Text
deriving DecidableEq, Inhabited

/-- The message of a gateway that cannot start. -/
def GatewayFault.message (f : GatewayFault) : Text :=
  Text.ofString "MAX_MESSAGE_LENGTH must be a positive integer (got: '" ++ f.given ++ Text.ofString "')"

/-- The variable that gives the longest message. -/
def limitVariable : Text := Text.ofString "MAX_MESSAGE_LENGTH"

/-- The longest message if none is given. -/
def defaultLimitText : Text := Text.ofString "480"

/-- Starts a gateway in an environment. -/
def startGateway (environment : List (Text × Text)) : Traced Event GatewayFault Gateway :=
  let given := (environment.lookup limitVariable).getD defaultLimitText
  match given.wholeNumber? with
  | none => .fail ⟨given⟩
  | some limit =>
    if limit < 1 then .fail ⟨given⟩ else ⟨[.gatewayReady given], .ok ⟨limit, given⟩⟩

/-- The variable that lists allowed origins. -/
def originsVariable : Text := Text.ofString "CORS_ALLOW_ORIGINS"

/-- The origins that an environment allows calls from. -/
def allowedOrigins (environment : List (Text × Text)) : List Text :=
  listEntries ((environment.lookup originsVariable).getD [])

/-! ## Answers -/

/-- An answer: a status and a document. -/
structure Answer where
  status : Nat
  body : Json

/-- An answer that says what went wrong. -/
def Answer.detail (status : Nat) (detail : Text) : Answer :=
  ⟨status, .object [(Text.ofString "detail", .text detail)]⟩

/-- The detail on a message that is too long. -/
def tooLongDetail (limit : Int) : Text :=
  Text.ofString "Message exceeds limit of " ++ Text.ofInt limit ++ Text.ofString " characters."

/-- The detail on a number that is none. -/
def invalidNumberDetail (number : Text) : Text := Text.ofString "invalid mobile number: " ++ number

/-- The document of a reading, with the number and the layout it came in. -/
def receiptJson (number : Text) (variant : Nat) (r : Reading) : Json :=
  .object [(Text.ofString "mobile_number", .text number),
    (Text.ofString "variant", .ofNat variant),
    (Text.ofString "observation", r.observation.toJson), (Text.ofString "health", r.health.toJson)]

/-- The answer to a reading that was decoded from a submission. -/
def receiveReading (s : Submission) (r : Reading) : Traced Event Fault Answer :=
  match mobileNumber? s.number with
  | none =>
    ⟨[.numberInvalid s.number s.message], .ok (.detail 400 (invalidNumberDetail s.number))⟩
  | some number => do
    if r.health.errorMessage.isEmpty then pure ()
    else Traced.emit (.stampReplaced number r.health.errorMessage)
    Traced.emit (.messageDecoded number r.health.presence)
    let variant ← Traced.ofExcept (Variant.ofMessage s.message)
    pure ⟨200, receiptJson number variant.size r⟩

/-- The answer to a submission that is received at `now`. The length of the message is checked first,
    its number of tokens next and the number it was sent from last. -/
def receive (g : Gateway) (now : Instant) (s : Submission) : Traced Event Fault Answer :=
  if g.limit < s.message.length then
    ⟨[.messageTooLong s.number s.message.length], .ok (.detail 400 (tooLongDetail g.limit))⟩
  else
    let work := decode s.message now
    match work.outcome with
    | .ok reading => do
      (⟨work.trace, .ok ()⟩ : Traced Event Fault Unit)
      receiveReading s reading
    | .error (.tokenCount count) => do
      (⟨work.trace, .ok ()⟩ : Traced Event Fault Unit)
      Traced.emit (.messageInvalid s.number s.message)
      pure (.detail 400 (Fault.tokenCount count).message)
    | .error fault => ⟨work.trace, .error fault⟩

end WeatherTelegram
