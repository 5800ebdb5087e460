import WeatherTelegram.Text.Digit

/-!
# `Text.Utf8` — octets as text

A character is one octet, or a first octet with one to three tails. The first octet tells how many
tails follow and narrows the range of the first of them, so no character has two forms and no half of
a pair of codes is a character.

## Contents
- `tailCount?`, `tailRange`: the tails that a first octet asks for.
- `CharStep`, `charStep`: what the octets at the front of a list come to.
- `OctetFault`: octets that are no character, with the place, and its message.
- `decodeOctets`: the text of a list of octets, and what is left of it.
- `textOfOctets`: a whole list of octets as text.
- `BlockText`, `textOfBlocks`: a text read block by block.
-/

namespace WeatherTelegram

/-! ## One character -/

/-- How many tails follow a first octet above the ASCII ones; none for octets that start nothing. -/
def tailCount? (first : Nat) : Option Nat :=
  if 0xC2 ≤ first ∧ first < 0xE0 then some 1
  else if 0xE0 ≤ first ∧ first < 0xF0 then some 2
  else if 0xF0 ≤ first ∧ first < 0xF5 then some 3
  else none

/-- The least and the greatest first tail after a first octet. -/
def tailRange (first : Nat) : Nat × Nat :=
  if first = 0xE0 then (0xA0, 0xBF)
  else if first = 0xED then (0x80, 0x9F)
  else if first = 0xF0 then (0x90, 0xBF)
  else if first = 0xF4 then (0x80, 0x8F)
  else (0x80, 0xBF)

/-- The bits of a first octet with a number of tails. -/
def leadBits (first tails : Nat) : Nat := first % (64 >>> tails)

/-- Why octets are no character. -/
inductive OctetCause where
  /-- No character starts with the octet. -/
  | start
  /-- A tail is out of its range. -/
  | continuation
  /-- The octets end before the last tail. -/
  | truncation
deriving DecidableEq, Inhabited, Repr

/-- What the octets at the front of a list come to. -/
inductive CharStep where
  /-- A character, how many octets it takes, and the octets after it. -/
  | char (c : Char) (count : Nat) (rest : List UInt8)
  /-- The front of a character, of which tails are missing. -/
  | incomplete
  /-- No character; so many octets are at fault. -/
  | invalid (count : Nat) (cause : OctetCause)

/-- Takes the tails of a character off the front: `code` are its bits so far, from `seen` octets, and
    the next tail lies in a range. -/
def takeTails : Nat → Nat × Nat → Nat → Nat → List UInt8 → CharStep
  | 0, _, code, seen, rest => .char (Char.ofNat code) seen rest
  | _ + 1, _, _, _, [] => .incomplete
  | tails + 1, (least, greatest), code, seen, b :: rest =>
    if least ≤ b.toNat ∧ b.toNat ≤ greatest then
      takeTails tails (0x80, 0xBF) (code * 64 + b.toNat % 64) (seen + 1) rest
    else .invalid seen .continuation

/-- What a first octet and the octets after it come to. -/
def charStep (first : UInt8) (rest : List UInt8) : CharStep :=
  if first.toNat < 0x80 then .char (Char.ofNat first.toNat) 1 rest
  else
    match tailCount? first.toNat with
    | none => .invalid 1 .start
    | some tails => takeTails tails (tailRange first.toNat) (leadBits first.toNat tails) 1 rest

theorem length_takeTails {tails : Nat} {range : Nat × Nat} {code seen count : Nat}
    {octets after : List UInt8} {c : Char}
    (h : takeTails tails range code seen octets = .char c count after) :
    after.length ≤ octets.length := by
  induction tails generalizing range code seen octets with
  | zero =>
    simp only [takeTails, CharStep.char.injEq] at h
    simp [h.2.2]
  | succ tails ih =>
    cases octets with
    | nil => simp [takeTails] at h
    | cons b rest =>
      simp only [takeTails] at h
      split at h
      · exact Nat.le_trans (ih h) (by simp)
      · simp at h

/-- The octets after a character are among those after its first. -/
theorem length_charStep {first : UInt8} {rest after : List UInt8} {c : Char} {count : Nat}
    (h : charStep first rest = .char c count after) : after.length ≤ rest.length := by
  unfold charStep at h
  split at h
  · simp only [CharStep.char.injEq] at h
    simp [h.2.2]
  · split at h
    · simp at h
    · exact length_takeTails h

/-! ## Whole texts -/

/-- Octets that are no character: where they stand, how many and which first. -/
structure OctetFault where
  position : Nat
  count : Nat
  first : UInt8
  cause : OctetCause
deriving DecidableEq, Inhabited

namespace OctetFault

/-- The words for a cause. -/
def causeText : OctetCause → Text
  | .start => Text.ofString "invalid start byte"
  | .continuation => Text.ofString "invalid continuation byte"
  | .truncation => Text.ofString "unexpected end of data"

/-- The message of a fault: the octet and its place, or the first and last place of several. -/
def message (f : OctetFault) : Text :=
  let place :=
    if f.count = 1 then
      Text.ofString "byte 0x" ++ Text.zeroFilled 2 (Nat.toDigits 16 f.first.toNat) ++
        Text.ofString " in position " ++ Text.ofNat f.position
    else
      Text.ofString "bytes in position " ++ Text.ofNat f.position ++ '-' ::
        Text.ofNat (f.position + f.count - 1)
  Text.ofString "'utf-8' codec can't decode " ++ place ++ ':' :: ' ' :: causeText f.cause

end OctetFault

/-- Whether octets are the first two of the three that would write half of a pair of codes. -/
def isCutHalf : List UInt8 → Bool
  | [a, b] => a == 0xED && 0xA0 ≤ b && b ≤ 0xBF
  | _ => false

/-- The text of a list of octets, up to the front of a character at its end that lacks tails. Where
    more octets may follow, half of a pair is at fault only with its third octet. Places are counted
    from `position`. -/
def decodeOctets (mayFollow : Bool) (position : Nat) :
    List UInt8 → Except OctetFault (Text × List UInt8)
  | [] => .ok ([], [])
  | first :: rest =>
    match _h : charStep first rest with
    | .char c count after =>
      (decodeOctets mayFollow (position + count) after).map fun (t, left) => (c :: t, left)
    | .incomplete => .ok ([], first :: rest)
    | .invalid count cause =>
      if mayFollow && isCutHalf (first :: rest) then .ok ([], first :: rest)
      else .error ⟨position, count, first, cause⟩
termination_by octets => octets.length
decreasing_by
  have := length_charStep _h
  simp only [List.length_cons]
  omega

/-- The fault of octets that end within a character, if any are left. -/
def endFault? (position : Nat) : List UInt8 → Option OctetFault
  | [] => none
  | first :: rest => some ⟨position, rest.length + 1, first, .truncation⟩

/-- A whole list of octets as text. -/
def textOfOctets (octets : List UInt8) : Except OctetFault Text := do
  let (t, left) ← decodeOctets false 0 octets
  match endFault? (octets.length - left.length) left with
  | some fault => throw fault
  | none => pure t

/-! ## Texts in blocks -/

/-- A text as far as it could be read, and the fault that ended it. -/
structure BlockText where
  text : Text
  fault : Option OctetFault
deriving DecidableEq, Inhabited

/-- How many octets a block has. -/
def blockSize : Nat := 8192

/-- The text of a list of octets that is read in blocks. A character may run over the end of a block;
    a block with a fault gives no text at all. Places are counted from the start of the block, with
    the octets left of the block before; the end of the octets counts as one more block. -/
def textOfBlocks (left : List UInt8) : List UInt8 → BlockText
  | [] =>
    match textOfOctets left with
    | .error fault => ⟨[], some fault⟩
    | .ok t => ⟨t, none⟩
  | first :: rest =>
    match decodeOctets true 0 (left ++ (first :: rest).take blockSize) with
    | .error fault => ⟨[], some fault⟩
    | .ok (t, left) =>
      let after := textOfBlocks left ((first :: rest).drop blockSize)
      ⟨t ++ after.text, after.fault⟩
termination_by octets => octets.length
decreasing_by
  simp only [blockSize, List.length_drop, List.length_cons]
  omega

end WeatherTelegram
