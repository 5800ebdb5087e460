import WeatherTelegram.Csv
import WeatherTelegram.Delivery.Sender
import WeatherTelegram.RunFault

/-!
# `Delivery.Replay` — recorded telegrams to the gateway

A record holds a status, a number and a telegram. Records of another size, or whose status is no whole
number, are skipped with a report; blank ones are passed over. The rest is posted as it was recorded.

## Contents
- `ReplayRow`, `ReplayRow.ofRecord`: what a record comes to.
- `ReplayRows`, `replayRows`: the telegrams of all records, and the reports on those skipped.
- `readReplay`: the telegrams of a file.
- `replay`: a whole replay, with its reports.
-/

namespace WeatherTelegram

/-! ## Records -/

/-- What a record comes to. -/
inductive ReplayRow where
  | blank
  | kept (number message : Text)
  | ofColumns (columns : Nat)
  | ofStatus (status : Text)
deriving DecidableEq, Inhabited

namespace ReplayRow

/-- What a record comes to. -/
def ofRecord : List Text → ReplayRow
  | [] => .blank
  | [status, number, message] =>
    if (Text.wholeNumber? status).isSome then .kept number message else .ofStatus status
  | record => .ofColumns record.length

/-- The number and telegram of a record that is kept. -/
def kept? : ReplayRow → Option (Text × Text)
  | kept number message => some (number, message)
  | _ => none

/-- Whether a record is skipped with a report. -/
def isSkipped : ReplayRow → Bool
  | ofColumns _ | ofStatus _ => true
  | _ => false

/-- The report on a skipped record. -/
def event? (row : Nat) : ReplayRow → Option Event
  | ofColumns columns => some (.rowOfColumns row columns)
  | ofStatus status => some (.rowOfStatus row status)
  | _ => none

end ReplayRow

/-- The telegrams to replay, and how many records were skipped. -/
structure ReplayRows where
  rows : List (Text × Text)
  skipped : Nat
deriving DecidableEq, Inhabited

/-- The telegrams of all records, which are counted from one. -/
def replayRows (records : List (List Text)) : ReplayRows :=
  let rows := records.map ReplayRow.ofRecord
  ⟨rows.filterMap ReplayRow.kept?, rows.countP ReplayRow.isSkipped⟩

/-- The reports on the records that are skipped. -/
def replayEvents (records : List (List Text)) : List Event :=
  (records.zipIdx 1).filterMap fun (record, row) => (ReplayRow.ofRecord record).event? row

/-! ## Files -/

/-- The records of a file as far as it could be read, and what ended the reading before its end. -/
def replayRecords (octets : List UInt8) : List (List Text) × Option RunFault :=
  let read := textOfBlocks [] octets
  let table := if read.fault.isNone then csvTable read.text else csvFront read.text
  match table.fault, read.fault with
  | some fault, _ => (table.records, some (.table fault))
  | none, some fault => (table.records, some (.octets fault))
  | none, none => (table.records, none)

/-- The telegrams of a file, with a report on each record that is skipped. -/
def readReplay (octets : List UInt8) : Traced Event RunFault ReplayRows :=
  let (records, fault) := replayRecords octets
  ⟨replayEvents records,
    match fault with
    | none => .ok (replayRows records)
    | some fault => .error fault⟩

/-! ## Replays -/

/-- How many telegrams of a replay were taken, were not taken, or were skipped. -/
structure ReplayResult where
  sent : Nat
  failed : Nat
  skipped : Nat
deriving DecidableEq, Inhabited, Repr

/-- Posts the telegrams of records that have been read, in their order. -/
def replayAll (sender : Sender) (replies : Replies) (path : Text) (rows : ReplayRows) :
    Traced Effect RunFault ReplayResult := do
  Traced.report (.replayStarted rows.rows.length path sender.url)
  let tally ← (sender.deliverAll replies .zero rows.rows).mapError .delivery
  Traced.report (.replayDone tally.sent tally.failed rows.skipped)
  pure ⟨tally.sent, tally.failed, rows.skipped⟩

/-- Posts the telegrams of the file at a path. -/
def replay (sender : Sender) (replies : Replies) (path : Text) (octets : List UInt8) :
    Traced Effect RunFault ReplayResult := do
  let rows ← (readReplay octets).withEvents
  replayAll sender replies path rows

end WeatherTelegram
