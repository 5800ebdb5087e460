import WeatherTelegram.Binary64.Arithmetic
import WeatherTelegram.Random.Twister

/-!
# `Random.Source` — where random numbers come from

A source yields unit numbers, which are doubles from zero up to but not including one, and whole
percentages from 0 to 100.

## Contents
- `RandomSource`: the two draws; `RandomSource.Fair`: every draw of a source lies in its range.
- The twister as a source: 53 bits of two outputs, and the top seven bits of an output.
- `Draws`: a list of unit numbers that starts over at its end.
-/

namespace WeatherTelegram

/-- A source of random numbers with states `σ`. -/
class RandomSource (σ : Type) where
  /-- A double from zero up to but not including one. -/
  unit : σ → Binary64 × σ
  /-- A whole number from 0 to 100. -/
  percent : σ → Nat × σ

/-- Every draw of the source lies in its range, in every state. -/
def RandomSource.Fair (σ : Type) [RandomSource σ] : Prop :=
  ∀ s : σ, 0 ≤ (RandomSource.unit s).1 ∧ (RandomSource.unit s).1 < 1 ∧ (RandomSource.percent s).1 ≤ 100

/-- How many unit numbers of 53 bits there are. -/
def unitCount : Nat := 9007199254740992

/-! ## The twister -/

namespace Twister

/-- The double of 53 bits, from the high bits of two outputs. -/
def unit (t : Twister) : Binary64 × Twister :=
  let (high, t) := t.next
  let (low, t) := t.next
  (Binary64.ofRatio false ((high >>> 5).toNat * 67108864 + (low >>> 6).toNat) unitCount, t)

/-- The top seven bits of the first output for which they make at most 100, of `tries` outputs. -/
def percentWithin : Nat → Twister → Nat × Twister
  | 0, t => (0, t)
  | tries + 1, t =>
    let (w, t) := t.next
    if (w >>> 25).toNat ≤ 100 then ((w >>> 25).toNat, t) else percentWithin tries t

theorem percentWithin_le (tries : Nat) (t : Twister) : (percentWithin tries t).1 ≤ 100 := by
  induction tries generalizing t with
  | zero => exact Nat.zero_le _
  | succ tries ih =>
    simp only [percentWithin]
    split
    · assumption
    · exact ih _

/-- More outputs than are ever refused in a row, four out of five being taken. -/
def percentTries : Nat := 1000

instance : RandomSource Twister := ⟨unit, percentWithin percentTries⟩

end Twister

/-! ## Given draws -/

/-- Unit numbers given in advance: the whole list, and what is left of this round. -/
structure Draws where
  all : List Binary64
  rest : List Binary64

namespace Draws

/-- The draws of a list from its start. -/
def ofList (all : List Binary64) : Draws := ⟨all, all⟩

/-- The next number; the list starts over at its end, and an empty list gives zeros. -/
def unit (d : Draws) : Binary64 × Draws :=
  match d.rest, d.all with
  | u :: rest, all => (u, ⟨all, rest⟩)
  | [], u :: rest => (u, ⟨u :: rest, rest⟩)
  | [], [] => (0, d)

/-- Below this number the unit numbers fall evenly into 101 classes. -/
def evenLimit : Binary64 := Binary64.ofRatio false (unitCount - unitCount % 101) unitCount

/-- The class of the first number below the limit, of `tries` numbers. -/
def percentWithin : Nat → Draws → Nat × Draws
  | 0, d => (0, d)
  | tries + 1, d =>
    let (u, d) := d.unit
    if u < evenLimit then
      match (u * Binary64.ofInt unitCount).floor? with
      | .ok k => ((k % 101).toNat, d)
      | .error _ => (0, d)
    else percentWithin tries d

instance : RandomSource Draws := ⟨unit, fun d => percentWithin (d.all.length + 1) d⟩

end Draws

end WeatherTelegram
