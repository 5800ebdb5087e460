import WeatherTelegram.Binary64.Basic
import WeatherTelegram.Text.Blank

/-!
# `Delivery.Transport` — requests and what becomes of them

## Contents
- `Post`: a telegram posted on behalf of a number.
- `FailureKind`, `Failure`: the ways in which a request fails on its way.
- `FailureKind.isAbsorbed`: the failures that count as an undelivered telegram.
- `Reply`, `Replies`: what becomes of a request, and of one request after the other.
-/

namespace WeatherTelegram

/-- A telegram posted to an address on behalf of a number. The timeout is that of the request, if it has
    one of its own. -/
structure Post where
  url : Text
  timeout : Option Binary64
  number : Text
  message : Text
deriving DecidableEq

/-- The ways in which a request fails on its way. -/
inductive FailureKind where
  | connect
  | read
  | write
  | close
  | connectTimeout
  | readTimeout
  | writeTimeout
  | poolTimeout
  | timeout
  | localProtocol
  | remoteProtocol
  | unsupportedProtocol
  | proxy
  /-- Any other failure, by its name. -/
  | other (name : Text)
deriving DecidableEq, Inhabited

/-- Whether a failure counts as an undelivered telegram: no connection, or no answer in time. -/
def FailureKind.isAbsorbed : FailureKind → Bool
  | connect | connectTimeout | readTimeout | writeTimeout | poolTimeout | timeout => true
  | _ => false

/-- A failed request. -/
structure Failure where
  kind : FailureKind
  message : Text
deriving DecidableEq, Inhabited

/-- What becomes of a request: an answer with its status and body, or a failure. -/
inductive Reply where
  | answered (status : Int) (body : Text)
  | failed (failure : Failure)
deriving DecidableEq, Inhabited

/-- What becomes of one request after the other: a list, and the reply to all further ones. -/
structure Replies where
  listed : List Reply
  otherwise : Reply
deriving DecidableEq, Inhabited

namespace Replies

/-- The reply to the next request. -/
def head (r : Replies) : Reply := r.listed.headD r.otherwise

/-- The replies to the requests after the next. -/
def tail (r : Replies) : Replies := { r with listed := r.listed.tail }

end Replies

end WeatherTelegram
