import WeatherTelegram.Text.Blank

/-!
# `Text.Substring` — parts of a text

## Contents
- `Text.startsWith`, `Text.hasPart`: a part at the front, and anywhere.
- `Text.replaceAll`: every occurrence of a part, left to right and without overlap.
- `Text.before`, `Text.cut`: a text split at the first occurrence of a character.
- `Text.slice`: the code points from one position up to another.
- `Text.asciiLower`: ASCII letters in lower case.
- `listEntries`: the entries of a list written with commas.
-/

namespace WeatherTelegram

namespace Text

/-- Whether `part` stands at the front. -/
def startsWith (part t : Text) : Bool := part.isPrefixOf t

/-- Whether `part` occurs anywhere. -/
def hasPart (part : Text) : Text → Bool
  | [] => part.isEmpty
  | c :: rest => startsWith part (c :: rest) || hasPart part rest

/-- Copies a text and writes `new` for each occurrence of `old`, whose first `skip` code points belong
    to the occurrence just written. -/
def replaceFrom (old new : Text) : Nat → Text → Text
  | _, [] => []
  | skip + 1, _ :: rest => replaceFrom old new skip rest
  | 0, c :: rest =>
    if startsWith old (c :: rest) then new ++ replaceFrom old new (old.length - 1) rest
    else c :: replaceFrom old new 0 rest

/-- Writes `new` for every `old`, left to right and without overlap; an empty `old` stands before each
    code point and at the end. -/
def replaceAll (old new t : Text) : Text :=
  if old.isEmpty then new ++ t.flatMap (fun c => c :: new) else replaceFrom old new 0 t

/-- The text before the first `c`, or all of it. -/
def before (c : Char) (t : Text) : Text := t.takeWhile (· != c)

/-- The texts before and after the first `c`, if there is one. -/
def cut (c : Char) (t : Text) : Option (Text × Text) :=
  match t.dropWhile (· != c) with
  | [] => none
  | _ :: rest => some (before c t, rest)

/-- The code points from position `start` up to position `stop`. -/
def slice (start stop : Nat) (t : Text) : Text := (t.take stop).drop start

/-- The text with its ASCII letters in lower case. -/
def asciiLower (t : Text) : Text := t.map Char.toLower

end Text

/-- The entries of a list written with commas, trimmed, without the blank ones. -/
def listEntries (t : Text) : List Text :=
  ((List.splitOn ',' t).map Text.trim).filter (!·.isEmpty)

end WeatherTelegram
