import WeatherTelegram.Json.Parsed

/-!
# `Gateway.Submission` — what the webhook is sent

A submission is a document with a number and a message, both texts that are not empty; other fields are
ignored. All that is wrong with a document is told at once.

## Contents
- `Submission`: a number and a message.
- `BodyPlace`, `BodyFault`, `BodyProblem`: what is wrong with a body, and where.
- `Submission.ofJson`, `Submission.ofBody`: submissions from documents and from text.
-/

namespace WeatherTelegram

/-- A message, and the number it was sent from. -/
structure Submission where
  number : Text
  message : Text
deriving DecidableEq, Inhabited

/-- The place of a problem: the whole body, a field of it, or a position in its text. -/
inductive BodyPlace where
  | body
  | field (name : Text)
  | position (position : Nat)
deriving DecidableEq, Inhabited

/-- What is wrong with a body or a field. -/
inductive BodyFault where
  | missing
  | malformed
  | noObject
  | noText
  | tooShort
deriving DecidableEq, Inhabited, Repr

namespace BodyFault

/-- The code of a fault. -/
def code : BodyFault → Text
  | missing => Text.ofString "missing"
  | malformed => Text.ofString "json_invalid"
  | noObject => Text.ofString "model_attributes_type"
  | noText => Text.ofString "string_type"
  | tooShort => Text.ofString "string_too_short"

/-- The message of a fault. -/
def message : BodyFault → Text
  | missing => Text.ofString "Field required"
  | malformed => Text.ofString "JSON decode error"
  | noObject => Text.ofString "Input should be a valid dictionary or object to extract fields from"
  | noText => Text.ofString "Input should be a valid string"
  | tooShort => Text.ofString "String should have at least 1 character"

end BodyFault

/-- A fault with its place. -/
structure BodyProblem where
  place : BodyPlace
  fault : BodyFault
deriving DecidableEq, Inhabited

/-- Why a body is no submission: problems with it, or a document that is too large to be read at all. -/
inductive BodyRefusal where
  | problems (problems : List BodyProblem)
  | unreadable
deriving DecidableEq, Inhabited

namespace Submission

/-- The name of the field of the number. -/
def numberName : Text := Text.ofString "number"

/-- The name of the field of the message. -/
def messageName : Text := Text.ofString "msg"

/-- A field of a document: a text that is not empty. -/
def field (name : Text) (body : Json) : Except BodyProblem Text :=
  match body.member? name with
  | none => .error ⟨.field name, .missing⟩
  | some (.text []) => .error ⟨.field name, .tooShort⟩
  | some (.text t) => .ok t
  | some _ => .error ⟨.field name, .noText⟩

/-- The submission of a document. -/
def ofJson (body : Json) : Except BodyRefusal Submission :=
  match body with
  | .null => .error (.problems [⟨.body, .missing⟩])
  | .object _ =>
    match field numberName body, field messageName body with
    | .ok number, .ok message => .ok ⟨number, message⟩
    | .error p, .error q => .error (.problems [p, q])
    | .error p, .ok _ => .error (.problems [p])
    | .ok _, .error q => .error (.problems [q])
  | _ => .error (.problems [⟨.body, .noObject⟩])

/-- The mark that may come before the text of a document. -/
def orderMark : Char := '\uFEFF'

/-- The text of a document without the mark before it. -/
def withoutMark : Text → Text
  | c :: rest => if c = orderMark then rest else c :: rest
  | [] => []

/-- The submission of a body; an empty one is missing. -/
def ofBody (body : Text) : Except BodyRefusal Submission :=
  if body.isEmpty then .error (.problems [⟨.body, .missing⟩])
  else
    match Json.parse (withoutMark body) with
    | .ok document => ofJson document
    | .error (.malformed position) => .error (.problems [⟨.position position, .malformed⟩])
    | .error .numberTooLong | .error .tooDeep => .error .unreadable

end Submission

end WeatherTelegram
