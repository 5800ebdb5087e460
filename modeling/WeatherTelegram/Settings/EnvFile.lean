import WeatherTelegram.Text.Substring

/-!
# `Settings.EnvFile` — files of named values

A file binds names to values, one binding a line: `NAME=value`, with an optional `export` in front, a
value that may stand in quotes and then run over several lines, and comments after `#`. A line of any
other form is skipped. A value may name earlier values and variables of the environment as `${NAME}`
or `${NAME:-value for want of one}`.

## Contents
- `Binding`: a name with its value, which a line without `=` leaves out.
- `takeQuoted`, `unquotedValue`, `takeValue`: the values.
- `bindings`: the bindings of a whole file.
- `expand`, `envFile`: the values with all names in them resolved.
-/

namespace WeatherTelegram

/-- A name with its value; a name without `=` has none. -/
structure Binding where
  name : Text
  value : Option Text
deriving DecidableEq, Inhabited

/-! ## Pieces of a line -/

/-- Whether a character ends a line. -/
def endsLine (c : Char) : Bool := c == '\n' || c == '\r'

/-- Whether a character is blank and stays on its line. -/
def isGap (c : Char) : Bool := isBlank c && !endsLine c

/-- The text after the blanks of its line. -/
def afterGap (t : Text) : Text := t.dropWhile isGap

/-- The text after the next end of line. -/
def afterLine (t : Text) : Text := (t.dropWhile (!endsLine ·)).drop 1

/-- The text after an end of line that only blanks and a comment come before, if that is so. -/
def afterEnd? (t : Text) : Option Text :=
  let rest :=
    match afterGap t with
    | '#' :: comment => comment.dropWhile (!endsLine ·)
    | rest => rest
  match rest with
  | [] => some []
  | '\r' :: '\n' :: rest => some rest
  | c :: rest => if endsLine c then some rest else none

/-- The word before an exported name. -/
def exportWord : Text := Text.ofString "export"

/-- The text after the word `export`, if a blank follows it. -/
def afterExport (t : Text) : Text :=
  let rest := t.drop exportWord.length
  if Text.startsWith exportWord t && (rest.head?.any isGap) then afterGap rest else t

/-! ## Values -/

/-- Takes the text up to a closing quote, reading a backslash before the quote as part of the text.
    Where no other quote closes the text, the last such quote does. -/
def takeQuoted (quote : Char) : Text → Option (Text × Text)
  | [] => none
  | '\\' :: c :: rest =>
    if c = quote then
      match takeQuoted quote rest with
      | some (body, after) => some ('\\' :: c :: body, after)
      | none => some (['\\'], rest)
    else (takeQuoted quote (c :: rest)).map fun (body, after) => ('\\' :: body, after)
  | c :: rest =>
    if c = quote then some ([], rest)
    else (takeQuoted quote rest).map fun (body, after) => (c :: body, after)

/-- The character that a backslash and a letter stand for between single quotes. -/
def singleEscape? (c : Char) : Option Char :=
  if c = '\\' || c = '\x27' then some c else none

/-- The character that a backslash and a letter stand for between double quotes. -/
def doubleEscape? : Char → Option Char
  | '\\' => some '\\'
  | '\x27' => some '\x27'
  | '"' => some '"'
  | 'a' => some '\x07'
  | 'b' => some '\x08'
  | 'f' => some '\x0c'
  | 'n' => some '\n'
  | 'r' => some '\r'
  | 't' => some '\t'
  | 'v' => some '\x0b'
  | _ => none

/-- The text with each backslash and letter that stand for a character replaced by it. -/
def unescaped (escape? : Char → Option Char) : Text → Text
  | '\\' :: c :: rest =>
    match escape? c with
    | some d => d :: unescaped escape? rest
    | none => '\\' :: unescaped escape? (c :: rest)
  | c :: rest => c :: unescaped escape? rest
  | [] => []

/-- The text before the first blanks that a `#` follows. -/
def beforeComment : Text → Text
  | [] => []
  | c :: rest =>
    if isBlank c && (rest.dropWhile isBlank).head? == some '#' then []
    else c :: beforeComment rest

/-- A value without quotes: the line up to a comment, without blanks at its end. -/
def unquotedValue (line : Text) : Text := Text.trimEnd isBlank (beforeComment line)

/-- Takes a value off the front; none if a quote stays open. -/
def takeValue? : Text → Option (Text × Text)
  | '\x27' :: rest =>
    (takeQuoted '\x27' rest).map fun (body, after) => (unescaped singleEscape? body, after)
  | '"' :: rest =>
    (takeQuoted '"' rest).map fun (body, after) => (unescaped doubleEscape? body, after)
  | rest =>
    some (unquotedValue (rest.takeWhile (!endsLine ·)), rest.dropWhile (!endsLine ·))

/-! ## Bindings -/

/-- Whether a character may stand in a name without quotes. -/
def inName (c : Char) : Bool := !(c == '=' || c == '#' || isBlank c)

/-- What one entry of a file comes to: perhaps a binding, and the text after it. -/
structure BindingStep where
  binding : Option Binding
  rest : Text

/-- The step over an entry that is no binding: the rest of its line is skipped. -/
def BindingStep.skip (t : Text) : BindingStep := ⟨none, afterLine t⟩

/-- The step that ends an entry, which nothing but a comment may follow on its line. -/
def BindingStep.finish (binding : Option Binding) (t : Text) : BindingStep :=
  match afterEnd? t with
  | some rest => ⟨binding, rest⟩
  | none => .skip t

/-- The step over an entry whose name has been read. -/
def bindingAfterName (name : Text) (t : Text) : BindingStep :=
  match afterGap t with
  | '=' :: rest =>
    match takeValue? (afterGap rest) with
    | some (value, after) => .finish (some ⟨name, some value⟩) after
    | none => .skip (afterGap rest)
  | rest => .finish (some ⟨name, none⟩) rest

/-- The step over the entry at the front of a text that starts with no blank. -/
def bindingStep (t : Text) : BindingStep :=
  match afterExport t with
  | '#' :: rest => .finish none ('#' :: rest)
  | '\x27' :: rest =>
    match Text.cut '\x27' rest with
    | some (c :: name, after) => bindingAfterName (c :: name) after
    | _ => .skip ('\x27' :: rest)
  | rest =>
    match rest.takeWhile inName with
    | [] => .skip rest
    | c :: name => bindingAfterName (c :: name) (rest.dropWhile inName)

/-- All bindings of a file, in order. -/
def bindings (t : Text) : List Binding :=
  let entry := t.dropWhile isBlank
  let step := bindingStep entry
  if _h : step.rest.length < t.length then step.binding.toList ++ bindings step.rest
  else step.binding.toList
termination_by t.length

/-! ## Resolving names -/

/-- Takes a name with its brace, and the value for want of one, off a text that `${` came before. -/
def takeReference? (t : Text) : Option (Text × Text × Text) :=
  let name := t.takeWhile fun c => !(c == '}' || c == ':')
  match t.drop name.length with
  | '}' :: rest => some (name, [], rest)
  | ':' :: '-' :: rest =>
    (Text.cut '}' rest).map fun (fallback, rest) => (name, fallback, rest)
  | _ => none

/-- The text with each reference replaced by what `lookup` gives for its name and fallback. -/
def resolved (lookup : Text → Text → Text) (t : Text) : Text :=
  match t with
  | [] => []
  | '$' :: '{' :: rest =>
    match takeReference? rest with
    | some (name, fallback, after) =>
      if _h : after.length < rest.length then lookup name fallback ++ resolved lookup after
      else lookup name fallback
    | none => '$' :: resolved lookup ('{' :: rest)
  | c :: rest => c :: resolved lookup rest
termination_by t.length
decreasing_by all_goals (simp_all; try omega)

/-- Puts a value under a name: in the place of an earlier value of that name, else at the end. -/
def putValue (values : List (Text × Option Text)) (name : Text) (value : Option Text) :
    List (Text × Option Text) :=
  if values.any (·.1 == name) then
    values.map fun entry => if entry.1 == name then (name, value) else entry
  else values ++ [(name, value)]

/-- What a name stands for: an earlier value of the file before a variable of the environment. A name
    without a value stands for the empty text. -/
def meaning (environment : List (Text × Text)) (values : List (Text × Option Text))
    (name fallback : Text) : Text :=
  match values.lookup name, environment.lookup name with
  | some value, _ => value.getD []
  | none, some value => value
  | none, none => fallback

/-- The values of the bindings, each resolved by the environment and the values before it. -/
def expand (environment : List (Text × Text)) (bindings : List Binding) : List (Text × Option Text) :=
  bindings.foldl (fun values binding =>
    putValue values binding.name (binding.value.map (resolved (meaning environment values)))) []

/-- A text with every end of line written as a line feed. -/
def withLineFeeds : Text → Text
  | '\r' :: '\n' :: rest => '\n' :: withLineFeeds rest
  | '\r' :: rest => '\n' :: withLineFeeds rest
  | c :: rest => c :: withLineFeeds rest
  | [] => []

/-- The values of a file in order of their names' first mention, the last mention giving the value. -/
def envFile (environment : List (Text × Text)) (t : Text) : List (Text × Option Text) :=
  expand environment (bindings (withLineFeeds t))

end WeatherTelegram
