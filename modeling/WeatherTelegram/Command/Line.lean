import WeatherTelegram.Command.Word
import WeatherTelegram.Telegram.Layout
import WeatherTelegram.Traced

/-!
# `Command.Line` — what a command line asks for

Options and arguments are taken in their order, so the first of a plea for help and a mistake decides.
Words left over are a mistake, but only once all others have been taken.

## Contents
- `CommandName`, `Command`, `Invocation`: what can be asked for.
- `Refusal`: why nothing is done: help was asked for, or there is a mistake.
- `Taken`, `takeWords`: the options and arguments that a list of words comes to.
- `Arguments`, `gather`: their values.
- `readCommand`, `readLine`: the words after a command's name, and a whole command line.
-/

namespace WeatherTelegram

/-! ## Commands -/

/-- The names of the commands. -/
inductive CommandName where
  | decode
  | encode
  | simulate
  | replay
deriving DecidableEq, Inhabited, Repr

namespace CommandName

/-- All commands. -/
def all : List CommandName := [decode, encode, simulate, replay]

/-- The name of a command as it is written. -/
def text : CommandName → Text
  | decode => Text.ofString "decode"
  | encode => Text.ofString "encode"
  | simulate => Text.ofString "simulate"
  | replay => Text.ofString "replay"

/-- The command of a name. -/
def ofText? (t : Text) : Option CommandName := all.find? (·.text == t)

/-- The options of a command. -/
def options : CommandName → List OptionKey
  | decode => [.help, .now]
  | encode => [.help, .variant, .count, .seed, .now]
  | simulate => [.help, .variant, .count, .url, .seed]
  | replay => [.help, .url]

/-- Whether a command takes an argument, which it then needs. -/
def takesArgument : CommandName → Bool
  | decode | replay => true
  | encode | simulate => false

end CommandName

/-- What a command is asked to do. -/
inductive Command where
  | decode (telegram : Text) (now : Option Text)
  | encode (variant : Variant) (count : Int) (seed : Option Int) (now : Option Text)
  | simulate (variant : Option Variant) (count : Option Int) (url : Option Text) (seed : Option Int)
  | replay (path : Text) (url : Option Text)
deriving DecidableEq

/-- A command, and whether all that happens is to be reported. -/
structure Invocation where
  verbose : Bool
  command : Command
deriving DecidableEq

/-- Why a command line leads to nothing: help was asked for, or there is a mistake in it. -/
inductive Refusal where
  | help
  | mistake
deriving DecidableEq, Inhabited, Repr

/-! ## Taking words -/

/-- What words come to. -/
inductive Taken where
  | flag (key : OptionKey)
  | value (key : OptionKey) (text : Text)
  | argument (text : Text)
  | command (words : List Text)
  | spare
deriving DecidableEq, Inhabited

/-- The arguments that are still wanted: a command with all words after its name, one argument, a gap
    after the argument, or none. -/
inductive Wanted where
  | command
  | argument
  | gap
  | nothing
deriving DecidableEq, Inhabited, Repr

/-- Takes a cluster of letters after that of an option without a value. A letter of no option makes the
    rest of the cluster spare; `=` or a dash after a letter is a mistake. -/
def takeCluster (options : List OptionKey) (key : OptionKey) : Text → Except Refusal (List Taken)
  | [] => .error .mistake
  | '-' :: _ => .error .mistake
  | c :: rest =>
    match optionOfLetter? options c, rest with
    | none, _ => .ok [.flag key, .spare]
    | some next, [] => .ok [.flag key, .flag next]
    | some _, '=' :: _ => .error .mistake
    | some next, rest => (takeCluster options next rest).map (.flag key :: ·)

/-- What an option comes to, and the option that waits for its value in the next word. -/
def OptionWord.take (options : List OptionKey) (o : OptionWord) :
    Except Refusal (List Taken × Option OptionKey) :=
  match o.key.takesValue, o.attached with
  | true, some value => .ok ([.value o.key value], none)
  | true, none => .ok ([], some o.key)
  | false, none => .ok ([.flag o.key], none)
  | false, some attached =>
    if o.byLetter && !o.separated then
      (takeCluster options o.key attached).map fun taken => (taken, none)
    else .error .mistake

/-- Takes words in their order, where `waiting` is the option that the next word is the value of. What
    comes before a mistake is still taken. -/
def takeWords (options : List OptionKey) :
    Option OptionKey → Wanted → List Word → Traced Taken Refusal Unit
  | some _, _, [] => .fail .mistake
  | some key, wanted, .argument t :: rest => do
    Traced.emit (.value key t)
    takeWords options none wanted rest
  | some _, _, _ :: _ => .fail .mistake
  | none, _, [] => .ok ()
  | none, wanted, .option _ o :: rest =>
    match o.take options with
    | .error refusal => .fail refusal
    | .ok (taken, waiting) => do
      (⟨taken, .ok ()⟩ : Traced Taken Refusal Unit)
      takeWords options waiting (if wanted = .gap then .nothing else wanted) rest
  | none, wanted, .unknown _ :: rest => do
    Traced.emit .spare
    takeWords options none (if wanted = .gap then .nothing else wanted) rest
  | none, .command, .argument t :: rest => Traced.emit (.command (t :: rest.map Word.text))
  | none, .argument, .argument t :: rest => do
    Traced.emit (.argument t)
    takeWords options none .gap rest
  | none, _, .argument _ :: rest => do
    Traced.emit .spare
    takeWords options none .nothing rest
  | none, .command, .gap :: _ => .fail .mistake
  | none, .argument, .gap :: rest => takeWords options none .argument rest
  | none, .gap, .gap :: rest => takeWords options none .nothing rest
  | none, .nothing, .gap :: rest => do
    Traced.emit .spare
    takeWords options none .nothing rest

/-! ## Values -/

/-- The values of options and arguments. -/
structure Arguments where
  verbose : Bool
  variant : Option Variant
  count : Option Int
  seed : Option Int
  now : Option Text
  url : Option Text
  argument : Option Text
  command : Option (List Text)
  spare : Bool

namespace Arguments

/-- No value at all. -/
def none : Arguments := ⟨false, .none, .none, .none, .none, .none, .none, .none, false⟩

/-- A value that has to be there. -/
def need {α : Type} : Option α → Except Refusal α
  | some a => .ok a
  | .none => .error .mistake

/-- Puts in the value of an option, which has to be of its form. -/
def putValue (a : Arguments) (t : Text) : OptionKey → Except Refusal Arguments
  | .variant => do
    let number ← need t.wholeNumber?
    pure { a with variant := some (← need (Variant.ofNumber? number)) }
  | .count => do pure { a with count := some (← need t.wholeNumber?) }
  | .seed => do pure { a with seed := some (← need t.wholeNumber?) }
  | .now => .ok { a with now := some t }
  | .url => .ok { a with url := some t }
  | .help | .verbose => .error .mistake

/-- Puts in what a word came to; a plea for help ends all. -/
def put (a : Arguments) : Taken → Except Refusal Arguments
  | .flag .verbose => .ok { a with verbose := true }
  | .flag _ => .error .help
  | .value key t => a.putValue t key
  | .argument t => .ok { a with argument := some t }
  | .command words => .ok { a with command := some words }
  | .spare => .ok { a with spare := true }

end Arguments

/-- The values of what was taken from a command line, in order, up to a plea for help or a mistake. -/
def gather (work : Traced Taken Refusal Unit) : Except Refusal Arguments := do
  let values ← work.trace.foldlM Arguments.put Arguments.none
  work.outcome
  pure values

/-- The values of a command line with these options. -/
def readWords (options : List OptionKey) (wanted : Wanted) (texts : List Text) :
    Except Refusal Arguments :=
  match classify options texts with
  | none => .error .mistake
  | some words => gather (takeWords options none wanted words)

/-! ## Commands -/

/-- The layout of random telegrams if none is asked for. -/
def defaultVariant : Variant := .v23

/-- The command of a name with its values. -/
def commandOf (name : CommandName) (a : Arguments) : Except Refusal Command :=
  match name with
  | .decode => do pure (.decode (← Arguments.need a.argument) a.now)
  | .encode => .ok (.encode (a.variant.getD defaultVariant) (a.count.getD 1) a.seed a.now)
  | .simulate => .ok (.simulate a.variant a.count a.url a.seed)
  | .replay => do pure (.replay (← Arguments.need a.argument) a.url)

/-- Reads the words of a command, and tells whether some are left over. -/
def readCommand (words : List Text) : Except Refusal (Command × Bool) :=
  match words with
  | [] => .error .mistake
  | t :: rest => do
    let name ← Arguments.need (CommandName.ofText? t)
    let values ← readWords name.options (if name.takesArgument then .argument else .nothing) rest
    pure (← commandOf name values, values.spare)

/-- Reads a whole command line. -/
def readLine (texts : List Text) : Except Refusal Invocation := do
  let values ← readWords [.help, .verbose] .command texts
  let (command, spare) ← readCommand (← Arguments.need values.command)
  if values.spare || spare then throw .mistake
  else pure ⟨values.verbose, command⟩

end WeatherTelegram
