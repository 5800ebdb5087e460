import WeatherTelegram.Text.Digit
import WeatherTelegram.Text.Substring

/-!
# `Command.Word` — the words of a command line

Each word is an argument, an option or the gap `--`, after which all words are arguments. An option may
be cut short as long as it stays the only one that starts so, and may bring its value after `=`.

## Contents
- `OptionKey`: the options, each with its long name, perhaps a letter, and whether it takes a value.
- `Word`, `OptionWord`: a word, and an option as it is written; `Word.text`: the word as text.
- `isNegativeNumber`: texts that start with a dash and yet are arguments.
- `classify`: the words of a command line, unless one of them is ambiguous.
-/

namespace WeatherTelegram

/-! ## Options -/

/-- The options of all commands. -/
inductive OptionKey where
  | help
  | verbose
  | variant
  | count
  | seed
  | now
  | url
deriving DecidableEq, Inhabited, Repr

namespace OptionKey

/-- The long name of an option, after its two dashes. -/
def longName : OptionKey → Text
  | help => Text.ofString "help"
  | verbose => Text.ofString "verbose"
  | variant => Text.ofString "variant"
  | count => Text.ofString "count"
  | seed => Text.ofString "seed"
  | now => Text.ofString "now"
  | url => Text.ofString "url"

/-- The letter of an option, after one dash, for options that have one. -/
def letter? : OptionKey → Option Char
  | help => some 'h'
  | verbose => some 'v'
  | _ => none

/-- Whether an option takes a value; those with a letter take none. -/
def takesValue : OptionKey → Bool
  | help | verbose => false
  | _ => true

end OptionKey

/-- The option of a list with this letter. -/
def optionOfLetter? (options : List OptionKey) (c : Char) : Option OptionKey :=
  options.find? fun key => key.letter? == some c

/-! ## Words -/

/-- An option as it is written: by its long name or by its letter, and with what is attached to it. A
    value that is attached after `=` is `separated`. -/
structure OptionWord where
  key : OptionKey
  byLetter : Bool
  separated : Bool
  attached : Option Text
deriving DecidableEq, Inhabited

/-- A word of a command line. -/
inductive Word where
  | argument (text : Text)
  | option (text : Text) (option : OptionWord)
  | unknown (text : Text)
  | gap
deriving DecidableEq, Inhabited

/-- The text of the gap. -/
def gapText : Text := ['-', '-']

/-- The text of a word. -/
def Word.text : Word → Text
  | argument t => t
  | option t _ => t
  | unknown t => t
  | gap => gapText

/-- The text without one line feed at its end. -/
def withoutLineFeed (t : Text) : Text := if t.getLast? = some '\n' then t.dropLast else t

/-- Whether a text is a dash with a number after it: digits, or a point with digits after it and perhaps
    before it. -/
def isNegativeNumber (t : Text) : Bool :=
  match withoutLineFeed t with
  | '-' :: body =>
    match body.dropWhile isDecimalDigit with
    | [] => !body.isEmpty
    | '.' :: fraction => !fraction.isEmpty && fraction.all isDecimalDigit
    | _ => false
  | _ => false

/-- What a word with a dash at its front is taken for if it names no option. -/
def unnamedWord (t : Text) : Word :=
  if isNegativeNumber t || t.elem ' ' then .argument t else .unknown t

/-- The name before a `=`, and the value after it if there is one. -/
def nameAndValue (t : Text) : Text × Option Text :=
  match Text.cut '=' t with
  | some (name, value) => (name, some value)
  | none => (t, none)

/-- The word of two dashes and a name, among the options of a list; an exact name counts before one that
    is cut short, and `none` stands for a name cut too short to tell. -/
def longWord? (options : List OptionKey) (t body : Text) : Option Word :=
  let (name, value) := nameAndValue body
  let word (key : OptionKey) : Word := .option t ⟨key, false, value.isSome, value⟩
  match options.find? fun key => key.longName == body, options.find? fun key => key.longName == name,
    options.filter fun key => Text.startsWith name key.longName with
  | some key, _, _ => some (.option t ⟨key, false, false, none⟩)
  | none, some key, _ => some (word key)
  | none, none, [key] => some (word key)
  | none, none, [] => some (unnamedWord t)
  | none, none, _ => none

/-- The word of one dash, a letter and what is attached to it. -/
def letterWord (options : List OptionKey) (t : Text) (c : Char) (attached : Text) : Word :=
  match optionOfLetter? options c, attached with
  | none, _ => unnamedWord t
  | some key, [] => .option t ⟨key, true, false, none⟩
  | some key, '=' :: value => .option t ⟨key, true, true, some value⟩
  | some key, attached => .option t ⟨key, true, false, some attached⟩

/-- The word that a text is, before any gap; `none` stands for an option cut too short to tell. -/
def wordOf? (options : List OptionKey) (t : Text) : Option Word :=
  match t with
  | '-' :: '-' :: body => longWord? options t body
  | '-' :: c :: attached => some (letterWord options t c attached)
  | _ => some (.argument t)

/-- The words of a command line; `none` if one is cut too short to tell. -/
def classify (options : List OptionKey) : List Text → Option (List Word)
  | [] => some []
  | t :: rest =>
    if t = gapText then some (.gap :: rest.map .argument)
    else do
      let word ← wordOf? options t
      pure (word :: (← classify options rest))

end WeatherTelegram
