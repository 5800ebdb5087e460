/-!
# `Random.Twister` — the Mersenne Twister of 624 words

The state is a ring of 624 words of 32 bits. Every output first renews the word at the current place
from its neighbours in the ring and then scrambles a copy of it, so the place alone tells which words
are already new.

## Contents
- `Twister`: ring and place; `Twister.word`, `Twister.put`: one word read and written, places counted
  around the ring.
- `Twister.ofWord`, `Twister.ofKey`, `Twister.ofSeed`: the states for a word, a key and a whole number.
- `Twister.next`: one output of 32 bits.
-/

namespace WeatherTelegram

/-- How many words the ring holds. -/
def ringSize : Nat := 624

/-- The ring of words and the place of the word to renew next. -/
structure Twister where
  ring : Vector UInt32 ringSize
  place : Nat

namespace Twister

theorem mod_ringSize_lt (i : Nat) : i % ringSize < ringSize := Nat.mod_lt _ (by decide)

/-- The word at a place of a ring. -/
def word (ring : Vector UInt32 ringSize) (i : Nat) : UInt32 :=
  ring.get ⟨i % ringSize, mod_ringSize_lt i⟩

/-- The ring with the word at a place replaced. -/
def put (ring : Vector UInt32 ringSize) (i : Nat) (w : UInt32) : Vector UInt32 ringSize :=
  ring.set (i % ringSize) w (mod_ringSize_lt i)

/-! ## Seeding -/

/-- A word combined with its own two highest bits. -/
def folded (w : UInt32) : UInt32 := w ^^^ (w >>> 30)

/-- The ring grown from one word: each word is made of the one before it. -/
def ofWord (seed : UInt32) : Vector UInt32 ringSize :=
  (List.range (ringSize - 1)).foldl
    (fun ring i => put ring (i + 1) (1812433253 * folded (word ring i) + UInt32.ofNat (i + 1)))
    (Vector.replicate ringSize seed)

/-- One step around the ring: the word at place `i` is renewed by `mix` from its fold with the word
    before it, and the last word is carried over to the first at the seam. -/
def mixStep (multiplier : UInt32) (mix : UInt32 → UInt32)
    (state : Vector UInt32 ringSize × Nat) : Vector UInt32 ringSize × Nat :=
  let (ring, i) := state
  let ring := put ring i (mix (word ring i ^^^ (folded (word ring (i - 1)) * multiplier)))
  if i + 1 < ringSize then (ring, i + 1) else (put ring 0 (word ring i), 1)

/-- The state for a key of words, each of which is stirred into the ring at least once. -/
def ofKey (key : Array UInt32) : Twister :=
  let stirred := (List.range (max ringSize key.size)).foldl
    (fun state k =>
      let j := k % key.size
      mixStep 1664525 (fun w => w + key.getD j 0 + UInt32.ofNat j) state)
    (ofWord 19650218, 1)
  let settled := (List.range (ringSize - 1)).foldl
    (fun state _ => mixStep 1566083941 (fun w => w - UInt32.ofNat state.2) state) stirred
  ⟨put settled.1 0 0x80000000, 0⟩

/-- The words of 32 bits of a natural number, least significant first. -/
def wordsOf (n : Nat) : List UInt32 :=
  if _h : n < UInt32.size then [UInt32.ofNat n]
  else UInt32.ofNat (n % UInt32.size) :: wordsOf (n / UInt32.size)
termination_by n
decreasing_by
  simp only [UInt32.size] at *
  exact Nat.div_lt_self (by omega) (by decide)

/-- The state for a whole number, whose sign is ignored. -/
def ofSeed (seed : Int) : Twister := ofKey (wordsOf seed.natAbs).toArray

/-! ## Output -/

/-- The renewed word at a place: the top bit of the word there and the other bits of the next, shifted
    and combined with the word 397 places on. -/
def renewed (ring : Vector UInt32 ringSize) (i : Nat) : UInt32 :=
  let joined := (word ring i &&& 0x80000000) ||| (word ring (i + 1) &&& 0x7fffffff)
  word ring (i + 397) ^^^ (joined >>> 1) ^^^ (if joined &&& 1 = 0 then 0 else 0x9908b0df)

/-- A word scrambled for output. -/
def tempered (w : UInt32) : UInt32 :=
  let w := w ^^^ (w >>> 11)
  let w := w ^^^ ((w <<< 7) &&& 0x9d2c5680)
  let w := w ^^^ ((w <<< 15) &&& 0xefc60000)
  w ^^^ (w >>> 18)

/-- The next output and the state after it. -/
def next (t : Twister) : UInt32 × Twister :=
  let w := renewed t.ring t.place
  (tempered w, ⟨put t.ring t.place w, (t.place + 1) % ringSize⟩)

end Twister

end WeatherTelegram
