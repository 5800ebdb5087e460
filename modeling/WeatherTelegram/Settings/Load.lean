import WeatherTelegram.Binary64.Decimal
import WeatherTelegram.Settings.Basic

/-!
# `Settings.Load` — settings from where they are given

A setting may be given outright, by a variable of the environment, or in a file; the first of these
that gives it wins, and its default stands in where none does. All values are checked before any is
refused, so the problems come together, in the order of the settings.

## Contents
- `Given.asText`, `Given.asWhole`, `Given.asReal`: a given value as a text or number.
- `checkBaseUrl`, …: the value of each setting within its bounds.
- `SettingProblem`, `checkSettings`: all settings at once.
- `SettingSources`, `Settings.load`: the sources in their order, and names that no setting has.
-/

namespace WeatherTelegram

/-! ## Given values as texts and numbers -/

/-- Whether a text is a point with zeros after it, or nothing. -/
def isZeroFraction : Text → Bool
  | [] => true
  | '.' :: zeros => !zeros.isEmpty && zeros.all (· == '0')
  | _ => false

/-- The whole number of a text: at most one sign, ASCII digits in groups that single underscores join,
    and perhaps a fraction of zeros. -/
def wholeOfText (t : Text) : Except SettingFault Int :=
  let body := t.numberBody
  if digitLimit < body.length then .error .tooManyDigits
  else
    let (negative, unsigned) := takeSign body
    let groups := (unsigned.before '.').splitOn '_'
    match groups.mapM asciiNumber?, groups.flatten.mapM asciiDigit? with
    | some _, some digits =>
      if isZeroFraction (unsigned.dropWhile (· != '.')) then
        .ok (if negative then -(valueOf digits : Int) else valueOf digits)
      else .error .notWholeForm
    | _, _ => .error .notWholeForm

/-- The number of a text: an ASCII literal, with grouped digits, or a word for an infinity or for
    not-a-number. -/
def realOfText (t : Text) : Except SettingFault Binary64 :=
  let body := t.numberBody
  if body.all fun c => 0x20 < c.toNat && c.toNat < 0x7F then
    match Binary64.ofText? body with
    | some x => .ok x
    | none => .error .notRealForm
  else .error .notRealForm

namespace Given

/-- A given value as a text. -/
def asText : Given → Except SettingFault Text
  | .text t => .ok t
  | _ => .error .notText

/-- A given value as a whole number. -/
def asWhole : Given → Except SettingFault Int
  | .text t => wholeOfText t
  | .whole k => .ok k
  | .flag b => .ok (if b then 1 else 0)
  | .real x =>
    match x.truncate? with
    | .error _ => .error .notFinite
    | .ok k =>
      if !(Binary64.ofInt k).sameValue x then .error .withFraction
      else if k.natAbs < 9223372036854775808 then .ok k
      else .error .tooManyDigits
  | .other => .error .notWhole

/-- A given value as a number. -/
def asReal : Given → Except SettingFault Binary64
  | .text t => realOfText t
  | .whole k => if (Binary64.ofInt k).isFinite then .ok (.ofInt k) else .error .notReal
  | .flag b => .ok (if b then 1 else 0)
  | .real x => .ok x
  | .other => .error .notReal

end Given

/-! ## Bounds -/

/-- The beginnings of a usable address. -/
def urlSchemes : List Text := [Text.ofString "http://", Text.ofString "https://"]

/-- An address of one of the two schemes in any case, without the slashes at its end. -/
def checkBaseUrl (g : Given) : Except SettingFault Text := do
  let t ← g.asText
  if urlSchemes.any fun scheme => Text.startsWith scheme (Text.asciiLower t) then
    pure (Text.trimEnd (· == '/') t)
  else throw (.scheme t)

/-- A list of numbers with at least one entry, as it was given. -/
def checkStationNumbers (g : Given) : Except SettingFault Text := do
  let t ← g.asText
  if (listEntries t).isEmpty then throw .noStation else pure t

/-- The number of a layout. -/
def checkVariant (g : Given) : Except SettingFault Variant := do
  match Variant.ofNumber? (← g.asWhole) with
  | some v => pure v
  | none => throw .variant

/-- A number of requests from one to ten thousand. -/
def checkRequestCount (g : Given) : Except SettingFault Nat := do
  let k ← g.asWhole
  if k < 1 ∨ 10000 < k then throw .requestCount else pure k.toNat

/-- A number of seconds that is not zero or less; not-a-number is neither. -/
def checkTimeout (g : Given) : Except SettingFault Binary64 := do
  let x ← g.asReal
  if x ≤ 0 then throw .timeout else pure x

/-! ## All settings at once -/

/-- A fault with the name that the value was given for. -/
structure SettingProblem where
  name : Text
  fault : SettingFault
deriving DecidableEq, Inhabited

/-- The problem of a setting, if its value was refused. -/
def problem? {α : Type} (s : Setting) : Except SettingFault α → Option SettingProblem
  | .ok _ => none
  | .error fault => some ⟨s.name, fault⟩

/-- The settings with the given values, or every problem with them. -/
def checkSettings (given : Setting → Given) : Except (List SettingProblem) Settings :=
  let baseUrl := checkBaseUrl (given .baseUrl)
  let stationNumbers := checkStationNumbers (given .stationNumbers)
  let variant := checkVariant (given .variant)
  let requestCount := checkRequestCount (given .requestCount)
  let timeout := checkTimeout (given .timeout)
  match baseUrl, stationNumbers, variant, requestCount, timeout with
  | .ok url, .ok stations, .ok v, .ok count, .ok seconds => .ok ⟨url, stations, v, count, seconds⟩
  | _, _, _, _, _ =>
    .error ([problem? .baseUrl baseUrl, problem? .stationNumbers stationNumbers,
      problem? .variant variant, problem? .requestCount requestCount,
      problem? .timeout timeout].filterMap id)

/-! ## Sources -/

/-- Where settings are given: outright, in the environment, whose names may be of any case, and in a
    file, whose names may be of any case too and need no value. -/
structure SettingSources where
  overrides : List (Text × Given)
  environment : List (Text × Text)
  file : List (Text × Option Text)

namespace SettingSources

/-- The value of the last entry under a name in any case. -/
def lastOf? {α : Type} (entries : List (Text × α)) (name : Text) : Option α :=
  (entries.reverse.find? fun entry => Text.asciiLower entry.1 == name).map Prod.snd

/-- The value given for a setting by the first source that gives it. -/
def given (sources : SettingSources) (s : Setting) : Given :=
  match sources.overrides.lookup s.name, lastOf? sources.environment s.name,
    lastOf? sources.file s.name with
  | some value, _, _ => value
  | none, some t, _ => .text t
  | none, none, some (some t) => .text t
  | none, none, _ => s.default

/-- The names of the file in lower case, each once, in order. -/
def fileNames (sources : SettingSources) : List Text :=
  (sources.file.map fun entry => Text.asciiLower entry.1).eraseDups

/-- The names that no setting has: those with a text in the file, then those given outright. -/
def unknownNames (sources : SettingSources) : List Text :=
  let inFile := sources.fileNames.filter fun name =>
    !Setting.isName name && ((lastOf? sources.file name).join.any fun t => !t.isEmpty)
  let outright := (sources.overrides.map Prod.fst).filter fun name => !Setting.isName name
  inFile ++ outright.filter fun name => !inFile.elem name

end SettingSources

/-- The settings that the sources give, or every problem with them: those of the settings in order,
    then the names that no setting has. -/
def Settings.load (sources : SettingSources) : Except (List SettingProblem) Settings :=
  let unknown := sources.unknownNames.map fun name => SettingProblem.mk name .unknownName
  match checkSettings sources.given with
  | .ok settings => if unknown.isEmpty then .ok settings else .error unknown
  | .error problems => .error (problems ++ unknown)

end WeatherTelegram
