import WeatherTelegram.Binary64.Shortest

/-!
# `Binary64.Written` — doubles as decimal text

## Contents
- `Binary64.text`: the shortest text that reads back; positional from `10 ^ (-4)` up to `10 ^ 16`, with a
  signed exponent of at least two digits elsewhere, and always with a point or an exponent.
- `Binary64.fixedText`: a fixed number of decimal places of the exact value, ties to even.
-/

namespace WeatherTelegram

-- Powers of natural numbers are those of `Nat`, whatever algebra is loaded besides.
attribute [local instance (1100)] instPowNat

namespace Binary64

/-- A minus sign for a negative value. -/
def signText (negative : Bool) : Text := if negative then ['-'] else []

/-- Digits with the point after the first `point` of them, and zeros where digits are missing. -/
def positional (digits : Text) (point : Int) : Text :=
  if point ≤ 0 then '0' :: '.' :: List.replicate (-point).toNat '0' ++ digits
  else if (digits.length : Int) ≤ point then
    digits ++ List.replicate (point.toNat - digits.length) '0' ++ ['.', '0']
  else digits.take point.toNat ++ '.' :: digits.drop point.toNat

/-- Digits with the point after the first of them and the power of ten behind. -/
def exponential (digits : Text) (exponent : Int) : Text :=
  let mantissa :=
    match digits with
    | [] => []
    | [d] => [d]
    | d :: rest => d :: '.' :: rest
  mantissa ++ 'e' :: (if exponent < 0 then '-' else '+') :: Text.padded 2 exponent.natAbs

/-- The shortest text of a magnitude that reads back. -/
def magnitudeText (m : Magnitude) : Text :=
  if m.steps = 0 then ['0', '.', '0']
  else
    let (value, exponent) := m.shortest
    let written := Text.ofNat value
    let digits := Text.trimEnd (· == '0') written
    let point := (written.length : Int) + exponent
    if -4 < point ∧ point ≤ 16 then positional digits point else exponential digits (point - 1)

/-- The shortest text of a double that reads back to it. -/
def text : Binary64 → Text
  | .nan => ['n', 'a', 'n']
  | .infinite s => signText s ++ ['i', 'n', 'f']
  | .finite s m => signText s ++ magnitudeText m

/-- A natural number of units of the last of `places` places, with the point set. -/
def pointed (places n : Nat) : Text :=
  if places = 0 then Text.ofNat n
  else Text.ofNat (n / 10 ^ places) ++ '.' :: Text.padded places (n % 10 ^ places)

/-- The exact value to a fixed number of decimal places, ties to even; a negative value that rounds to
    zero keeps its sign. -/
def fixedText (places : Nat) : Binary64 → Text
  | .nan => ['n', 'a', 'n']
  | .infinite s => signText s ++ ['i', 'n', 'f']
  | .finite s m => signText s ++ pointed places (roundHalfEven (m.steps * 10 ^ places) stepsPerUnit)

end Binary64

end WeatherTelegram
