import WeatherTelegram.Command.Run
import WeatherTelegram.Json.Document
import WeatherTelegram.Json.Written
import WeatherTelegram.Settings.Environment
import Std.Time.DateTime.Timestamp

/-!
# `Main` — the program

Gathers the surroundings of a run, and acts out its effects in their order. What a run does is decided
by `run`; here is only the way to the world. There is no way to a network here, so each request fails to
connect and counts as undelivered.

## Contents
- `readClock`, `readEntropy`, `readEnvironment`, `readAttempt`: the parts of the surroundings.
- `act`: one effect.
- `main`: the program.
-/

namespace WeatherTelegram

/-- The time of the clock, in universal time. -/
def readClock : IO Instant := do
  let now ← Std.Time.Timestamp.now
  pure ((Instant.ofEpoch? (now.toNanosecondsSinceUnixEpoch.val / 1000)).getD default)

/-- A seed that no one has chosen. -/
def readEntropy : IO Int := do
  let octets ← IO.getRandomBytes 16
  pure (octets.toList.foldl (fun seed octet => seed * 256 + octet.toNat) 0)

/-- The variables of the environment; none where the system does not show them. -/
def readEnvironment : IO (List (Text × Text)) := do
  try pure (environmentOfOctets (← IO.FS.readBinFile "/proc/self/environ").toList)
  catch _ => pure []

/-- Why the system refuses a file. -/
def faultOf : IO.Error → FileFault
  | .noFileOrDirectory .. => .absent
  | .inappropriateType _ number _ => if number = 21 || number = 0 - 21 then .isDirectory else .notDirectory
  | .permissionDenied .. => .refused
  | _ => .broken

/-- The octets of a file, or why it cannot be read. -/
def readAttempt (path : Text) : IO (Except FileFault (List UInt8)) := do
  try pure (.ok (← IO.FS.readBinFile (Text.toString path)).toList)
  catch e => pure (.error (faultOf e))

/-- All that a run of a command line depends on. The clock stands still during a run. -/
def readSurroundings (line : List Text) : IO Surroundings := do
  let now ← readClock
  let files ← (pathsOf line).mapM fun path => do pure (path, ← readAttempt path)
  let environment ← readEnvironment
  let entropy ← readEntropy
  pure {
    environment := environment
    file := fun path => (files.lookup path).getD (.error .absent)
    clock := fun _ => now
    replies := ⟨[], .failed ⟨.connect, Text.ofString "no network"⟩⟩
    entropy := entropy }

/-- Acts out an effect: prints a text, or writes an event to the journal. -/
def act (now : Instant) : Effect → IO Unit
  | .print t => IO.print (Text.toString t)
  | .explain => IO.print (Text.toString helpText)
  | .report e => IO.eprintln (Text.toString (e.journalLine now))
  | _ => pure ()

/-- Runs a command line and gives the number of its exit status. -/
def runLine (line : List Text) : IO UInt32 := do
  let surroundings ← readSurroundings line
  let work := run surroundings line
  for effect in work.trace do act (surroundings.clock 0) effect
  match work.outcome with
  | .ok status =>
    if status = .misuse then IO.eprint (Text.toString helpText)
    pure (UInt32.ofNat status.code)
  | .error fault =>
    IO.eprintln (Text.toString fault.message)
    pure (UInt32.ofNat ExitStatus.failure.code)

end WeatherTelegram

/-- Runs the command line of the process. -/
def main (args : List String) : IO UInt32 :=
  WeatherTelegram.runLine (args.map WeatherTelegram.Text.ofString)
