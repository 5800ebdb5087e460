import WeatherTelegram.Command.Line
import WeatherTelegram.Delivery.Replay
import WeatherTelegram.Delivery.Simulation
import WeatherTelegram.Json.Document
import WeatherTelegram.Json.Written
import WeatherTelegram.Settings.EnvFile
import WeatherTelegram.Telegram.Decode

/-!
# `Command.Run` — what the program does

## Contents
- `ExitStatus`: how a run ends.
- `FileFault`, `Surroundings`: all that a run depends on besides its command line.
- `pathText`: a path in its plain form.
- `Surroundings.settings`: the settings of a run.
- `runDecode`, `runEncode`, `runSimulate`, `runReplay`: the commands; each gives an exit status.
- `pathsOf`: the files that a command line may ask for.
- `run`: a whole command line.
-/

namespace WeatherTelegram

/-! ## Surroundings -/

/-- How a run ends: well, with a failure that was reported, or with a mistake in the command line. -/
inductive ExitStatus where
  | success
  | failure
  | misuse
deriving DecidableEq, Inhabited, Repr

/-- The number of an exit status. -/
def ExitStatus.code : ExitStatus → Nat
  | success => 0
  | failure => 1
  | misuse => 2

/-- Why a file cannot be read: the number and the words of the system. -/
structure FileFault where
  number : Nat
  words : Text
deriving DecidableEq, Inhabited

namespace FileFault

/-- There is no such file. -/
def absent : FileFault := ⟨2, Text.ofString "No such file or directory"⟩

/-- A directory stands in the place of the file. -/
def isDirectory : FileFault := ⟨21, Text.ofString "Is a directory"⟩

/-- A file stands in the place of a directory on the path. -/
def notDirectory : FileFault := ⟨20, Text.ofString "Not a directory"⟩

/-- The file may not be read. -/
def refused : FileFault := ⟨13, Text.ofString "Permission denied"⟩

/-- The file could not be read to its end. -/
def broken : FileFault := ⟨5, Text.ofString "Input/output error"⟩

/-- The message of a fault for a path. -/
def message (f : FileFault) (path : Text) : Text :=
  Text.ofString "[Errno " ++ Text.ofNat f.number ++ Text.ofString "] " ++ f.words ++ ':' :: ' ' ::
    path.quoted

end FileFault

/-- All that a run depends on besides its command line and the zone of the machine: the variables of the
    environment, the files by path, the clock at each time it is read, the replies to requests, and the
    seed for want of one. -/
structure Surroundings where
  environment : List (Text × Text)
  file : Text → Except FileFault (List UInt8)
  clock : Nat → Instant
  replies : Replies
  entropy : Int

/-- A path in its plain form: without empty parts and parts that stay in place. The path of no parts is
    that of the directory itself, and two slashes at the front differ from any other number. -/
def pathText (t : Text) : Text :=
  let root : Text :=
    match t with
    | '/' :: '/' :: '/' :: _ => ['/']
    | '/' :: '/' :: _ => ['/', '/']
    | '/' :: _ => ['/']
    | _ => []
  let parts := (List.splitOn '/' t).filter fun part => !(part.isEmpty || part == ['.'])
  if root.isEmpty && parts.isEmpty then ['.'] else root ++ List.intercalate ['/'] parts

/-- The path of the file that may give settings. -/
def envPath : Text := Text.ofString ".env"

/-- The values of the file that may give settings; one that cannot be opened gives none. -/
def Surroundings.envValues (w : Surroundings) : Except OctetFault (List (Text × Option Text)) :=
  match w.file envPath with
  | .error _ => .ok []
  | .ok octets => (textOfOctets octets).map (envFile w.environment)

/-- The settings of a run, some of which the command line may give. -/
def Surroundings.settings (w : Surroundings) (overrides : List (Text × Given)) :
    Except RunFault Settings :=
  match w.envValues with
  | .error fault => .error (.octets fault)
  | .ok values => (Settings.load ⟨overrides, w.environment, values⟩).mapError .settings

/-! ## Commands -/

/-- A time that the command line gives, in universal time unless it names a zone, or the time of the
    clock when it is read for the `i`-th time. -/
def timeOf (w : Surroundings) (i : Nat) : Option Text → Except RunFault Instant
  | none => .ok (w.clock i)
  | some t => ((Instant.ofIso t).map Instant.orUtc).mapError .time

/-- Prints a line. -/
def printLine (t : Text) : Traced Effect RunFault Unit := Traced.emit (.print (t ++ ['\n']))

/-- Prints the reading of a telegram; a number of tokens without a layout is reported. -/
def runDecode (w : Surroundings) (telegram : Text) (now : Option Text) :
    Traced Effect RunFault ExitStatus := do
  let received ← Traced.ofExcept (timeOf w 0 now)
  let work : Traced Effect Fault Reading := (decode telegram received).withEvents
  match work.outcome with
  | .error (.tokenCount count) =>
    ⟨work.trace, .ok ()⟩
    Traced.report (.decodingFailed (Fault.tokenCount count).message)
    pure .failure
  | _ =>
    let reading ← work.mapError .telegram
    printLine reading.toJson.block
    pure .success

/-- Prints `left` random telegrams after the first `i`. -/
def printTelegrams [HostZone] {σ : Type} [RandomSource σ] (w : Surroundings) (variant : Variant)
    (now : Option Text) : Nat → Nat → σ → Traced Effect RunFault Unit
  | 0, _, _ => pure ()
  | left + 1, i, source => do
    let time ← Traced.ofExcept (timeOf w i now)
    let (telegram, source) ← (Traced.ofExcept (randomTelegram variant time source)).mapError .telegram
    printLine telegram
    printTelegrams w variant now left (i + 1) source

/-- Prints a number of random telegrams. -/
def runEncode [HostZone] (w : Surroundings) (variant : Variant) (count : Int) (seed : Option Int)
    (now : Option Text) : Traced Effect RunFault ExitStatus := do
  printTelegrams w variant now count.toNat 0 (Twister.ofSeed (seed.getD w.entropy))
  pure .success

/-- The settings that a simulation is given outright. -/
def simulationOverrides (variant : Option Variant) (count : Option Int) (url : Option Text) :
    List (Text × Given) :=
  (count.map fun k => (Setting.requestCount.name, Given.whole k)).toList ++
  (variant.map fun v => (Setting.variant.name, Given.whole v.size)).toList ++
  (url.map fun t => (Setting.baseUrl.name, Given.text t)).toList

/-- The sender of a run: with a client of its own for each post. -/
def Settings.sender (s : Settings) : Sender := .ofBase s.baseUrl s.timeout false

/-- Posts random telegrams to the gateway. -/
def runSimulate [HostZone] (w : Surroundings) (variant : Option Variant) (count : Option Int)
    (url : Option Text) (seed : Option Int) : Traced Effect RunFault ExitStatus := do
  let settings ← Traced.ofExcept (w.settings (simulationOverrides variant count url))
  let source := Twister.ofSeed (seed.getD w.entropy)
  let tally ← simulate settings settings.sender w.clock source w.replies
  pure (if tally.failed = 0 then .success else .failure)

/-- Posts recorded telegrams to the gateway; a file that cannot be opened is reported. -/
def runReplay (w : Surroundings) (path : Text) (url : Option Text) : Traced Effect RunFault ExitStatus := do
  let settings ← Traced.ofExcept (w.settings (simulationOverrides none none url))
  let path := pathText path
  if path.elem '\x00' then Traced.fail .path
  else
    match w.file path with
    | .error fault =>
      Traced.report (.replayUnreadable (fault.message path))
      pure .failure
    | .ok octets =>
      let result ← replay settings.sender w.replies path octets
      pure (if result.failed = 0 then .success else .failure)

/-- Does what a command asks for. -/
def runCommand [HostZone] (w : Surroundings) : Command → Traced Effect RunFault ExitStatus
  | .decode telegram now => runDecode w telegram now
  | .encode variant count seed now => runEncode w variant count seed now
  | .simulate variant count url seed => runSimulate w variant count url seed
  | .replay path url => runReplay w path url

/-! ## Command lines -/

/-- The least grave events that are reported. -/
def Invocation.level (i : Invocation) : Level := if i.verbose then .debug else .info

/-- Whether an effect is no report, or one that is grave enough. -/
def Effect.isShown (least : Level) : Effect → Bool
  | report e => decide (least.rank ≤ e.level.rank)
  | _ => true

/-- The help on the command line. -/
def helpText : Text :=
  Text.ofString "usage: [-h] [-v] decode [--now TIME] TELEGRAM\n" ++
  Text.ofString "       [-h] [-v] encode [--variant N] [--count N] [--seed N] [--now TIME]\n" ++
  Text.ofString "       [-h] [-v] simulate [--variant N] [--count N] [--url URL] [--seed N]\n" ++
  Text.ofString "       [-h] [-v] replay [--url URL] FILE\n"

/-- The files that a command line may ask for. -/
def pathsOf (line : List Text) : List Text :=
  match readLine line with
  | .ok ⟨_, .replay path _⟩ => [envPath, pathText path]
  | .ok ⟨_, .simulate ..⟩ => [envPath]
  | _ => []

/-- Does what a command line asks for and gives the exit status. -/
def run [HostZone] (w : Surroundings) (line : List Text) : Traced Effect RunFault ExitStatus :=
  match readLine line with
  | .error .help => ⟨[.explain], .ok .success⟩
  | .error .mistake => .ok .misuse
  | .ok invocation =>
    (runCommand w invocation.command).filterEffects (Effect.isShown invocation.level)

end WeatherTelegram
