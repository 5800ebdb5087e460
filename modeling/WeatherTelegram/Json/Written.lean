import WeatherTelegram.Json.Basic

/-!
# `Json.Written` — documents as text

## Contents
- `Json.escaped`, `Json.quoted`: texts in quotes, with or without other characters than ASCII.
- `Json.line`: a document on one line, in ASCII alone.
- `Json.block`: a document over several lines, two blanks to a level.
-/

namespace WeatherTelegram

namespace Json

/-! ## Texts -/

/-- Four hexadecimal digits after the mark of a code. -/
def unitEscape (n : Nat) : Text := '\\' :: 'u' :: Text.zeroFilled 4 (Nat.toDigits 16 n)

/-- The code of a character: that of the character itself, or of the pair of units that make it up. -/
def codeEscape (c : Char) : Text :=
  if c.toNat < 0x10000 then unitEscape c.toNat
  else
    unitEscape (0xD800 + (c.toNat - 0x10000) / 0x400) ++
      unitEscape (0xDC00 + (c.toNat - 0x10000) % 0x400)

/-- One character between quotes. The quote, the backslash and the control characters are escaped; with
    `asciiOnly` so are all characters outside the printable ASCII ones. -/
def escaped (asciiOnly : Bool) (c : Char) : Text :=
  if c = '"' then ['\\', '"']
  else if c = '\\' then ['\\', '\\']
  else if c = '\n' then ['\\', 'n']
  else if c = '\r' then ['\\', 'r']
  else if c = '\t' then ['\\', 't']
  else if c = '\x0c' then ['\\', 'f']
  else if c = '\x08' then ['\\', 'b']
  else if c.toNat < 0x20 || (asciiOnly && 0x7F ≤ c.toNat) then codeEscape c
  else [c]

/-- A text in quotes. -/
def quoted (asciiOnly : Bool) (t : Text) : Text := '"' :: t.flatMap (escaped asciiOnly) ++ ['"']

/-! ## Documents -/

/-- The text of a document without parts. -/
def atom (asciiOnly : Bool) : Json → Text
  | flag true => Text.ofString "true"
  | flag false => Text.ofString "false"
  | number literal => literal
  | text t => quoted asciiOnly t
  | _ => Text.ofString "null"

mutual

/-- A document on one line. -/
def line : Json → Text
  | list items => '[' :: lineItems items ++ [']']
  | object fields => '\x7b' :: lineFields fields ++ ['\x7d']
  | other => atom true other

/-- Items on one line. -/
def lineItems : List Json → Text
  | [] => []
  | [item] => line item
  | item :: items => line item ++ ',' :: ' ' :: lineItems items

/-- Fields on one line. -/
def lineFields : List (Text × Json) → Text
  | [] => []
  | [(name, value)] => quoted true name ++ ':' :: ' ' :: line value
  | (name, value) :: fields =>
    quoted true name ++ ':' :: ' ' :: line value ++ ',' :: ' ' :: lineFields fields

end

/-- The start of a line at a level. -/
def newLine (level : Nat) : Text := '\n' :: List.replicate (2 * level) ' '

mutual

/-- A document over several lines, its parts one level further in; nothing is put in an empty one. -/
def blockAt (level : Nat) : Json → Text
  | list [] => ['[', ']']
  | list (item :: items) =>
    '[' :: blockItems (level + 1) (item :: items) ++ newLine level ++ [']']
  | object [] => ['\x7b', '\x7d']
  | object (field :: fields) =>
    '\x7b' :: blockFields (level + 1) (field :: fields) ++ newLine level ++ ['\x7d']
  | other => atom false other

/-- Items on lines of their own. -/
def blockItems (level : Nat) : List Json → Text
  | [] => []
  | [item] => newLine level ++ blockAt level item
  | item :: items => newLine level ++ blockAt level item ++ ',' :: blockItems level items

/-- Fields on lines of their own. -/
def blockFields (level : Nat) : List (Text × Json) → Text
  | [] => []
  | [(name, value)] => newLine level ++ quoted false name ++ ':' :: ' ' :: blockAt level value
  | (name, value) :: fields =>
    newLine level ++ quoted false name ++ ':' :: ' ' :: blockAt level value ++
      ',' :: blockFields level fields

end

/-- A document over several lines. -/
def block (j : Json) : Text := blockAt 0 j

end Json

end WeatherTelegram
