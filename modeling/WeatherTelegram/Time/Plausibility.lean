import WeatherTelegram.Binary64.Arithmetic
import WeatherTelegram.Binary64.Written
import WeatherTelegram.Fault
import WeatherTelegram.Journal
import WeatherTelegram.Traced

/-!
# `Time.Plausibility` — telegram time against time of receipt

Station clocks drift. A telegram may be up to one day older than its receipt and up to ninety days
younger; outside that window the time of receipt takes the place of its own.

## Contents
- `ClockFault`: a clock that is ahead or behind, with the minutes, and its message.
- `minutesBetween`: a difference of times in minutes, as a double.
- `clockFault?`: whether a difference leaves the window.
- `checkMinutes`, `checkStamp`: the timestamp to keep, the whole minutes of difference and the fault.
-/

namespace WeatherTelegram

/-- A station clock that is too far off, with the minutes it is off by. -/
inductive ClockFault where
  | ahead (minutes : Binary64)
  | behind (minutes : Binary64)
deriving DecidableEq

/-- The message of a clock fault. -/
def ClockFault.message : ClockFault → Text
  | .ahead minutes =>
    Text.ofString "timestamp is " ++ minutes.abs.fixedText 6 ++ Text.ofString " minutes ahead"
  | .behind minutes =>
    Text.ofString "timestamp is " ++ minutes.fixedText 6 ++ Text.ofString " minutes behind"

/-- The most minutes by which a receipt may precede the telegram, as a negative number: ninety days. -/
def leastMinutes : Int := -129600

/-- The most minutes by which a receipt may follow the telegram: one day. -/
def mostMinutes : Int := 1440

/-- A number of microseconds in minutes: the seconds rounded to a double, then divided by sixty. -/
def minutesBetween (microseconds : Int) : Binary64 :=
  Binary64.ofIntRatio microseconds 1000000 / 60

/-- The fault of a clock by the minutes from telegram to receipt, if they leave the window. -/
def clockFault? (minutes : Binary64) : Option ClockFault :=
  if minutes < Binary64.ofInt leastMinutes then some (.ahead minutes)
  else if Binary64.ofInt mostMinutes < minutes then some (.behind minutes)
  else none

/-- What the check makes of a timestamp. -/
structure StampCheck where
  timestamp : Instant
  minutesDifference : Int
  fault : Option ClockFault
deriving DecidableEq

/-- The message of a check: that of its fault, or none at all. -/
def StampCheck.message (c : StampCheck) : Text :=
  match c.fault with
  | some fault => fault.message
  | none => []

/-- Keeps a timestamp that is some minutes older than its receipt, or puts the time of receipt in its
    place where these minutes leave the window. -/
def checkMinutes (stamp now : Instant) (minutes : Binary64) : Traced Event Fault StampCheck :=
  match minutes.truncate? with
  | .error cause => .fail (.notFinite cause)
  | .ok whole =>
    match clockFault? minutes with
    | none => .ok ⟨stamp, whole, none⟩
    | some fault => ⟨[.stampOutsideWindow stamp now fault.message], .ok ⟨now, whole, some fault⟩⟩

/-- Checks a timestamp against the time of receipt, which has to name its zone. Without a timestamp the
    time of receipt stands in; a timestamp outside the window is replaced by it and reported. Two readings
    of one clock that is set forward and back are compared by what that clock shows. -/
def checkStamp (stamp : Option Instant) (now : Instant) : Traced Event Fault StampCheck :=
  match now.moment?, stamp with
  | none, _ => .fail .receiptZone
  | some _, none => .ok ⟨now, 0, none⟩
  | some _, some stamp =>
    match now.since? stamp with
    | none => .fail .stampZone
    | some passed => checkMinutes stamp now (minutesBetween passed)

end WeatherTelegram
