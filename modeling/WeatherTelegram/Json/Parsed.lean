import WeatherTelegram.Json.Basic

/-!
# `Json.Parsed` — documents from text

A text that is no document is refused at the first position that rules it out. Beyond the standard the
words `NaN`, `Infinity` and `-Infinity` are numbers, a whole number has a limited number of digits, and
lists and objects stand within each other up to a limited depth.

## Contents
- `JsonFault`: why a text is refused, and where.
- `takeCodes`, `textOfCodes`, `takeString`, `takeLiteral?`, `takeWord?`: texts, numbers and words
  off the front.
- `Bounds`: how large a document may be.
- `takeValue`, `takeItems`, `takeFields`: documents off the front.
- `Json.parseWithin`, `Json.parse`: a whole text as a document.
-/

namespace WeatherTelegram

/-- Why a text is no document. -/
inductive JsonFault where
  /-- The text is ruled out at this position. -/
  | malformed (position : Nat)
  /-- A whole number has too many digits. -/
  | numberTooLong
  /-- Too many lists and objects stand within each other. -/
  | tooDeep
deriving DecidableEq, Inhabited

namespace Json

/-- Why no document could be taken off the front of a text: what remains at the place of the fault
    cannot follow, or the document is too large. -/
inductive Refusal where
  | before (remaining : Text)
  | numberTooLong
  | tooDeep

/-- Whether a character may stand between the parts of a document. -/
def isSpace (c : Char) : Bool := c == ' ' || c == '\t' || c == '\n' || c == '\r'

/-- The text after the blanks at its front. -/
def afterSpace (t : Text) : Text := t.dropWhile isSpace

/-! ## Texts -/

/-- The value of a hexadecimal digit. -/
def hexValue? (c : Char) : Option Nat :=
  if '0' ≤ c ∧ c ≤ '9' then some (c.toNat - 48)
  else if 'a' ≤ c ∧ c ≤ 'f' then some (c.toNat - 87)
  else if 'A' ≤ c ∧ c ≤ 'F' then some (c.toNat - 55)
  else none

/-- The code that four hexadecimal digits make up. -/
def code? (a b c d : Char) : Option Nat := do
  pure (((← hexValue? a) * 16 + (← hexValue? b)) * 256 + ((← hexValue? c) * 16 + (← hexValue? d)))

/-- Whether a code is the first of a pair. -/
def isHigh (n : Nat) : Bool := 0xD800 ≤ n && n ≤ 0xDBFF

/-- Whether a code is the second of a pair. -/
def isLow (n : Nat) : Bool := 0xDC00 ≤ n && n ≤ 0xDFFF

/-- The character of a code; half a pair alone stands for none. -/
def charOfCode (n : Nat) : Char := if isHigh n || isLow n then '\uFFFD' else Char.ofNat n

/-- The character of the two halves of a pair. -/
def charOfPair (high low : Nat) : Char :=
  Char.ofNat (0x10000 + (high - 0xD800) * 0x400 + (low - 0xDC00))

/-- Puts the character of a code after a text, which is written last character first; with a first half
    pending, the second half makes a pair with it. -/
def putCode (reversed : Text) (pending : Option Nat) (n : Nat) : Text × Option Nat :=
  match pending with
  | none => if isHigh n then (reversed, some n) else (charOfCode n :: reversed, none)
  | some high =>
    if isLow n then (charOfPair high n :: reversed, none)
    else if isHigh n then (charOfCode high :: reversed, some n)
    else (charOfCode n :: charOfCode high :: reversed, none)

/-- The text of codes. -/
def textOfCodes (codes : List Nat) : Text :=
  let (reversed, pending) := codes.foldl (fun (t, pending) n => putCode t pending n) ([], none)
  match pending with
  | none => reversed.reverse
  | some high => (charOfCode high :: reversed).reverse

/-- The character of an escape of one letter. -/
def escape? : Char → Option Char
  | '"' => some '"'
  | '\\' => some '\\'
  | '/' => some '/'
  | 'b' => some '\x08'
  | 'f' => some '\x0c'
  | 'n' => some '\n'
  | 'r' => some '\r'
  | 't' => some '\t'
  | _ => none

/-- Takes the codes of a text up to its closing quote, after those taken already, last code first; a
    text that is never closed is refused at its opening. A code in digits needs four of them and some
    character after them. -/
def takeCodes (opening : Text) (codes : List Nat) : Text → Except Refusal (List Nat × Text)
  | [] => .error (.before opening)
  | ['\\'] => .error (.before opening)
  | '\\' :: 'u' :: a :: b :: c :: d :: after :: rest =>
    match code? a b c d with
    | none => .error (.before ('u' :: a :: b :: c :: d :: after :: rest))
    | some n => takeCodes opening (n :: codes) (after :: rest)
  | '\\' :: c :: rest =>
    match escape? c with
    | some d => takeCodes opening (d.toNat :: codes) rest
    | none => if c = 'u' then .error (.before (c :: rest)) else .error (.before ('\\' :: c :: rest))
  | c :: rest =>
    if c = '"' then .ok (codes.reverse, rest)
    else if c.toNat < 0x20 then .error (.before (c :: rest))
    else takeCodes opening (c.toNat :: codes) rest
termination_by t => t.length
decreasing_by all_goals (simp_all; try omega)

/-- Takes a text up to its closing quote. -/
def takeString (opening t : Text) : Except Refusal (Text × Text) :=
  (takeCodes opening [] t).map fun (codes, rest) => (textOfCodes codes, rest)

/-! ## Numbers and words -/

/-- Takes ASCII digits off the front. -/
def takeAsciiDigits (t : Text) : Text × Text := (t.takeWhile Char.isDigit, t.dropWhile Char.isDigit)

/-- Takes the digits before the point: a zero alone, or digits that start with none. -/
def takeWhole? : Text → Option (Text × Text)
  | '0' :: rest => some (['0'], rest)
  | t =>
    match takeAsciiDigits t with
    | ([], _) => none
    | taken => some taken

/-- Takes a point with digits after it, if both are there. -/
def takePoint (t : Text) : Text × Text :=
  match t with
  | '.' :: rest =>
    match takeAsciiDigits rest with
    | ([], _) => ([], t)
    | (digits, after) => ('.' :: digits, after)
  | _ => ([], t)

/-- Takes a power of ten, if it has digits. -/
def takePower (t : Text) : Text × Text :=
  match t with
  | [] => ([], t)
  | c :: rest =>
    if c = 'e' ∨ c = 'E' then
      let (sign, unsigned) :=
        match rest with
        | '+' :: rest => (['+'], rest)
        | '-' :: rest => (['-'], rest)
        | rest => ([], rest)
      match takeAsciiDigits unsigned with
      | ([], _) => ([], t)
      | (digits, after) => (c :: sign ++ digits, after)
    else ([], t)

/-- Takes a number off the front: its literal, and how many digits it has if it is whole. -/
def takeLiteral? (t : Text) : Option (Text × Option Nat × Text) :=
  let (sign, unsigned) : Text × Text :=
    match t with
    | '-' :: rest => (['-'], rest)
    | rest => ([], rest)
  match takeWhole? unsigned with
  | none => none
  | some (whole, afterWhole) =>
    let (point, afterPoint) := takePoint afterWhole
    let (power, rest) := takePower afterPoint
    some (sign ++ whole ++ point ++ power,
      if point.isEmpty && power.isEmpty then some whole.length else none, rest)

/-- The words and what they stand for. -/
def words : List (Text × Json) :=
  [(Text.ofString "null", null), (Text.ofString "true", flag true),
   (Text.ofString "false", flag false), (Text.ofString "NaN", number (Text.ofString "NaN")),
   (Text.ofString "Infinity", number (Text.ofString "Infinity")),
   (Text.ofString "-Infinity", number (Text.ofString "-Infinity"))]

/-- Takes a word off the front. -/
def takeWord? (t : Text) : Option (Json × Text) :=
  (words.find? fun entry => Text.startsWith entry.1 t).map fun entry =>
    (entry.2, t.drop entry.1.length)

/-- Takes a word or a number off the front; a whole number may have `limit` digits. -/
def takeScalar (limit : Nat) (t : Text) : Except Refusal (Json × Text) :=
  match takeWord? t, takeLiteral? t with
  | some taken, _ => .ok taken
  | none, some (literal, some digits, rest) =>
    if limit < digits then .error .numberTooLong else .ok (number literal, rest)
  | none, some (literal, none, rest) => .ok (number literal, rest)
  | none, none => .error (.before t)

/-! ## Documents -/

/-- How large a document may be: the digits of a whole number, and the lists and objects that stand
    within each other. -/
structure Bounds where
  digits : Nat
  depth : Nat
deriving DecidableEq, Inhabited, Repr

/-- The bounds within a list or an object, if one is allowed at all. -/
def Bounds.inner? (b : Bounds) : Option Bounds :=
  match b.depth with
  | 0 => none
  | depth + 1 => some ⟨b.digits, depth⟩

mutual

/-- Takes a document of at most `fuel` levels and parts off the front. -/
def takeValue : Bounds → Nat → Text → Except Refusal (Json × Text)
  | _, 0, t => .error (.before t)
  | bounds, fuel + 1, t =>
    match t with
    | '"' :: rest => (takeString t rest).map fun (body, rest) => (text body, rest)
    | '[' :: rest =>
      match bounds.inner?, afterSpace rest with
      | none, _ => .error .tooDeep
      | some _, ']' :: rest => .ok (list [], rest)
      | some inner, rest => (takeItems inner fuel rest).map fun (items, rest) => (list items, rest)
    | '\x7b' :: rest =>
      match bounds.inner?, afterSpace rest with
      | none, _ => .error .tooDeep
      | some _, '\x7d' :: rest => .ok (object [], rest)
      | some inner, rest =>
        (takeFields inner fuel rest).map fun (fields, rest) => (object fields, rest)
    | t => takeScalar bounds.digits t

/-- Takes the items of a list that is open, and its end. -/
def takeItems : Bounds → Nat → Text → Except Refusal (List Json × Text)
  | _, 0, t => .error (.before t)
  | bounds, fuel + 1, t => do
    let (item, rest) ← takeValue bounds fuel t
    match afterSpace rest with
    | ']' :: rest => pure ([item], rest)
    | ',' :: rest =>
      let (items, rest) ← takeItems bounds fuel (afterSpace rest)
      pure (item :: items, rest)
    | rest => throw (.before rest)

/-- Takes the fields of an object that is open, and its end. -/
def takeFields : Bounds → Nat → Text → Except Refusal (List (Text × Json) × Text)
  | _, 0, t => .error (.before t)
  | bounds, fuel + 1, t => do
    let (name, rest) ←
      match t with
      | '"' :: rest => takeString t rest
      | t => throw (.before t)
    match afterSpace rest with
    | ':' :: rest =>
      let (value, rest) ← takeValue bounds fuel (afterSpace rest)
      match afterSpace rest with
      | '\x7d' :: rest => pure ([(name, value)], rest)
      | ',' :: rest =>
        let (fields, rest) ← takeFields bounds fuel (afterSpace rest)
        pure ((name, value) :: fields, rest)
      | rest => throw (.before rest)
    | rest => throw (.before rest)

end

/-- The fault of a refusal within a text. -/
def Refusal.toFault (t : Text) : Refusal → JsonFault
  | .before remaining => .malformed (t.length - remaining.length)
  | .numberTooLong => .numberTooLong
  | .tooDeep => .tooDeep

/-- Reads a whole text as a document within bounds, with blanks around it. -/
def parseWithin (bounds : Bounds) (t : Text) : Except JsonFault Json :=
  match takeValue bounds (2 * t.length + 2) (afterSpace t) with
  | .error refusal => .error (refusal.toFault t)
  | .ok (value, rest) =>
    match afterSpace rest with
    | [] => .ok value
    | rest => .error ((Refusal.before rest).toFault t)

/-- How large a document may be that comes from outside. -/
def usualBounds : Bounds := ⟨digitLimit, 950⟩

/-- Reads a whole text as a document. -/
def parse (t : Text) : Except JsonFault Json := parseWithin usualBounds t

end Json

end WeatherTelegram
