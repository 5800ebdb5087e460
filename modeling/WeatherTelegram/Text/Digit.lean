import WeatherTelegram.Text.Blank

/-!
# `Text.Digit` — decimal digits of every script, and the whole numbers written with them

## Contents
- `digitValue?`: the value of a decimal digit (the Unicode property `Nd`), in any script.
- `valueOf`: the number that a list of digit values denotes.
- `asciiDigit?`, `asciiNumber?`: the ten ASCII digits alone.
- `takeSign`, `takeDigits`: the sign and the digits at the front of a text.
- `Text.wholeNumber?`: a free-form whole number (blanks around it, one sign, grouped digits).
- `Text.ofNat`, `Text.ofInt`, `Text.padded`: numbers as decimal text.
-/

namespace WeatherTelegram

/-! ## Digits -/

/-- The code points of the digit zero in each script; the digits one to nine follow each of them. -/
def digitZeros : List Nat :=
  [0x30, 0x660, 0x6F0, 0x7C0, 0x966, 0x9E6, 0xA66, 0xAE6, 0xB66, 0xBE6, 0xC66, 0xCE6, 0xD66, 0xDE6,
   0xE50, 0xED0, 0xF20, 0x1040, 0x1090, 0x17E0, 0x1810, 0x1946, 0x19D0, 0x1A80, 0x1A90, 0x1B50,
   0x1BB0, 0x1C40, 0x1C50, 0xA620, 0xA8D0, 0xA900, 0xA9D0, 0xA9F0, 0xAA50, 0xABF0, 0xFF10, 0x104A0,
   0x10D30, 0x11066, 0x110F0, 0x11136, 0x111D0, 0x112F0, 0x11450, 0x114D0, 0x11650, 0x116C0, 0x11730,
   0x118E0, 0x11950, 0x11C50, 0x11D50, 0x11DA0, 0x16A60, 0x16AC0, 0x16B50, 0x1D7CE, 0x1D7D8, 0x1D7E2,
   0x1D7EC, 0x1D7F6, 0x1E140, 0x1E2F0, 0x1E950, 0x1FBF0]

/-- The value of a decimal digit of any script, and `none` for every other character. -/
def digitValue? (c : Char) : Option Nat :=
  (digitZeros.find? fun z => z ≤ c.toNat && c.toNat < z + 10).map (c.toNat - ·)

/-- Whether a character is a decimal digit of some script. -/
def isDecimalDigit (c : Char) : Bool := (digitValue? c).isSome

theorem digitValue?_lt {c : Char} {d : Nat} (h : digitValue? c = some d) : d < 10 := by
  unfold digitValue? at h
  obtain ⟨z, hz, rfl⟩ := Option.map_eq_some_iff.1 h
  have := List.find?_some hz
  simp only [Bool.and_eq_true, decide_eq_true_eq] at this
  omega

/-- The value of an ASCII digit, and `none` for every other character. -/
def asciiDigit? (c : Char) : Option Nat := if c.isDigit then some (c.toNat - 48) else none

/-- The number that digit values denote, most significant first. -/
def valueOf (digits : List Nat) : Nat := digits.foldl (fun n d => 10 * n + d) 0

/-! ## Reading from the front of a text -/

/-- Takes one sign off the front; the flag is set by a minus. -/
def takeSign : Text → Bool × Text
  | '-' :: rest => (true, rest)
  | '+' :: rest => (false, rest)
  | rest => (false, rest)

/-- Takes the decimal digits off the front. -/
def takeDigits : Text → List Nat × Text
  | [] => ([], [])
  | c :: rest =>
    match digitValue? c with
    | some d => (d :: (takeDigits rest).1, (takeDigits rest).2)
    | none => ([], c :: rest)

/-- The digit values of a text that holds nothing but decimal digits. -/
def digitsOf? (t : Text) : Option (List Nat) := t.mapM digitValue?

/-- The number of a text that holds nothing but ASCII digits, and at least one of them. -/
def asciiNumber? (t : Text) : Option Nat :=
  if t.isEmpty then none else (t.mapM asciiDigit?).map valueOf

/-! ## Whole numbers -/

/-- The most digits a whole number may be read or written with. -/
def digitLimit : Nat := 4300

namespace Text

/-- A free-form whole number: blanks around it, at most one sign, and digits in groups that single
    underscores join; more digits than the limit are refused. -/
def wholeNumber? (t : Text) : Option Int :=
  let (negative, body) := takeSign (numberBody t)
  let groups := body.splitOn '_'
  if groups.any List.isEmpty then none
  else
    match digitsOf? groups.flatten with
    | none => none
    | some digits =>
      if digitLimit < digits.length then none
      else if negative then some (-(valueOf digits : Int)) else some (valueOf digits)

/-- The decimal text of a natural number. -/
def ofNat (n : Nat) : Text := Nat.toDigits 10 n

/-- The decimal text of a whole number. -/
def ofInt (k : Int) : Text := if k < 0 then '-' :: ofNat k.natAbs else ofNat k.natAbs

/-- A text filled up with zeros in front to a width. -/
def zeroFilled (width : Nat) (t : Text) : Text := List.replicate (width - t.length) '0' ++ t

/-- The decimal text of a natural number, filled up with zeros to a width. -/
def padded (width n : Nat) : Text := zeroFilled width (ofNat n)

end Text

end WeatherTelegram
