import Mathlib.Data.List.Basic
import Mathlib.Data.Nat.Digits.Lemmas
import Mathlib.Tactic.Ring
import WeatherTelegram.Text.Digit

/-!
# `Proofs.Text.Digit` — written numbers are read back

Numbers are written in ASCII digits, most significant first, and every reader of digits gives their
number back: the one for digits of any script, the one for ASCII digits alone, and the one that stops at
the first other character.

## Contents
- **Digits of every script.** `SpellsDigits`, with `takeDigits_of_spells` and `takeDigits_spec`.
- **Digit texts.** `IsDigits`, `digitValues`, with the readers on them.
- **Written numbers.** `isDigits_ofNat`, `isDigits_padded`, `valueOf_ofNat`, `valueOf_padded`, and their
  lengths.
- **Reading back.** `asciiNumber?_ofNat`, `asciiNumber?_padded`.
- **Only what is written.** `valueOf_eq_ofDigits`, `valueOf_lt`, `pow_le_valueOf`, `eq_of_valueOf_eq`,
  `asciiNumber?_eq_some_iff`: a number is read from its digits alone, filled up with zeros to the width of
  the text.
-/

namespace WeatherTelegram

/-! ## Digits of every script -/

/-- Decimal digits of any script, with their values. -/
def SpellsDigits (ds : List ℕ) (t : Text) : Prop := List.Forall₂ (fun d c => digitValue? c = some d) ds t

theorem SpellsDigits.lt {ds : List ℕ} {t : Text} (h : SpellsDigits ds t) : ∀ d ∈ ds, d < 10 := by
  induction h with
  | nil => exact fun d hd => absurd hd List.not_mem_nil
  | cons hc _ ih =>
    intro d hd
    rcases List.mem_cons.mp hd with rfl | hd
    · exact digitValue?_lt hc
    · exact ih d hd

/-- Taking digits stops at the first character that is none. -/
theorem takeDigits_of_spells {ds : List ℕ} {t rest : Text} (h : SpellsDigits ds t)
    (hrest : ∀ c, rest.head? = some c → digitValue? c = none) : takeDigits (t ++ rest) = (ds, rest) := by
  induction h with
  | nil =>
    cases rest with
    | nil => rfl
    | cons c rest =>
      rw [List.nil_append, takeDigits, hrest c rfl]
  | cons hc _ ih => rw [List.cons_append, takeDigits, hc, ih]

theorem SpellsDigits.takeDigits_eq {ds : List ℕ} {t : Text} (h : SpellsDigits ds t) :
    takeDigits t = (ds, []) := by
  have hend : ∀ c, ([] : Text).head? = some c → digitValue? c = none := by
    intro c hc
    cases hc
  have htaken := takeDigits_of_spells h hend
  rwa [List.append_nil] at htaken

/-- What is taken are the digits in front of the rest. -/
theorem takeDigits_spec (t : Text) :
    ∃ front, t = front ++ (takeDigits t).2 ∧ SpellsDigits (takeDigits t).1 front := by
  induction t with
  | nil => exact ⟨[], rfl, .nil⟩
  | cons c rest ih =>
    rw [takeDigits]
    cases hc : digitValue? c with
    | none => exact ⟨[], rfl, .nil⟩
    | some d =>
      obtain ⟨front, hfront, hspells⟩ := ih
      exact ⟨c :: front, congrArg (c :: ·) hfront, .cons hc hspells⟩

/-! ## Digit texts -/

/-- All characters are ASCII digits. -/
def IsDigits (t : Text) : Prop := ∀ c ∈ t, c.isDigit = true

/-- The values of ASCII digits. -/
def digitValues (t : Text) : List ℕ := t.map fun c => c.toNat - 48

@[simp] theorem length_digitValues (t : Text) : (digitValues t).length = t.length := List.length_map _

theorem isDigits_append {s t : Text} (hs : IsDigits s) (ht : IsDigits t) : IsDigits (s ++ t) := by
  intro c hc
  rcases List.mem_append.mp hc with h | h
  · exact hs c h
  · exact ht c h

theorem isDigit_iff_toNat (c : Char) : c.isDigit = true ↔ 48 ≤ c.toNat ∧ c.toNat ≤ 57 := by
  unfold Char.isDigit
  rw [Bool.and_eq_true, decide_eq_true_eq, decide_eq_true_eq]
  rfl

theorem digitValue?_of_isDigit {c : Char} (h : c.isDigit = true) :
    digitValue? c = some (c.toNat - 48) := by
  obtain ⟨hl, hr⟩ := (isDigit_iff_toNat c).mp h
  have hzeros : digitZeros = 0x30 :: digitZeros.tail := rfl
  have hfirst : (decide (0x30 ≤ c.toNat) && decide (c.toNat < 0x30 + 10)) = true := by
    rw [Bool.and_eq_true, decide_eq_true_eq, decide_eq_true_eq]
    omega
  unfold digitValue?
  rw [hzeros, List.find?_cons, hfirst]
  rfl

theorem asciiDigit?_of_isDigit {c : Char} (h : c.isDigit = true) :
    asciiDigit? c = some (c.toNat - 48) := by
  unfold asciiDigit?
  rw [if_pos h]

theorem digitsOf?_of_isDigits {t : Text} (h : IsDigits t) : digitsOf? t = some (digitValues t) := by
  induction t with
  | nil => rfl
  | cons c rest ih =>
    have hrest := ih fun d hd => h d (List.mem_cons_of_mem c hd)
    unfold digitsOf? at hrest ⊢
    rw [List.mapM_cons, digitValue?_of_isDigit (h c List.mem_cons_self), hrest]
    rfl

theorem asciiNumber?_of_isDigits {t : Text} (h : IsDigits t) (hne : t ≠ []) :
    asciiNumber? t = some (valueOf (digitValues t)) := by
  have hvalues : t.mapM asciiDigit? = some (digitValues t) := by
    clear hne
    induction t with
    | nil => rfl
    | cons c rest ih =>
      rw [List.mapM_cons, asciiDigit?_of_isDigit (h c List.mem_cons_self),
        ih fun d hd => h d (List.mem_cons_of_mem c hd)]
      rfl
  unfold asciiNumber?
  rw [if_neg (by simpa using hne), hvalues]
  rfl

theorem IsDigits.spells {t : Text} (h : IsDigits t) : SpellsDigits (digitValues t) t := by
  induction t with
  | nil => exact .nil
  | cons c t ih =>
    exact .cons (digitValue?_of_isDigit (h c List.mem_cons_self))
      (ih fun d hd => h d (List.mem_cons_of_mem c hd))

/-! ## The number of a list of digits -/

theorem valueOf_digitValues (t : Text) : valueOf (digitValues t) = Nat.ofDigitChars 10 t 0 := by
  unfold valueOf digitValues
  rw [List.foldl_map, Nat.ofDigitChars_eq_foldl]
  rfl

theorem foldl_digits_eq (n : ℕ) (ds : List ℕ) :
    ds.foldl (fun n d => 10 * n + d) n = n * 10 ^ ds.length + valueOf ds := by
  induction ds generalizing n with
  | nil => simp [valueOf]
  | cons d ds ih =>
    unfold valueOf
    rw [List.foldl_cons, List.foldl_cons, ih, ih (10 * 0 + d), List.length_cons, pow_succ]
    ring

theorem valueOf_append (ds es : List ℕ) :
    valueOf (ds ++ es) = valueOf ds * 10 ^ es.length + valueOf es := by
  unfold valueOf
  rw [List.foldl_append, foldl_digits_eq]
  rfl

/-- Leading zeros do not count. -/
theorem valueOf_dropWhile_zero (ds : List ℕ) : valueOf (ds.dropWhile (· == 0)) = valueOf ds := by
  induction ds with
  | nil => rfl
  | cons d ds ih =>
    by_cases hd : d = 0
    · subst hd
      rw [List.dropWhile_cons_of_pos (by rfl), ih]
      rfl
    · rw [List.dropWhile_cons_of_neg (by simpa using hd)]

/-! ## Written numbers -/

theorem isDigits_ofNat (n : ℕ) : IsDigits (Text.ofNat n) := fun _ hc =>
  Nat.isDigit_of_mem_toDigits (by decide) (by decide) hc

theorem isDigits_padded (width n : ℕ) : IsDigits (Text.padded width n) := by
  apply isDigits_append _ (isDigits_ofNat n)
  intro c hc
  rw [List.eq_of_mem_replicate hc]
  rfl

theorem ofNat_ne_nil (n : ℕ) : Text.ofNat n ≠ [] := Nat.toDigits_ne_nil

theorem padded_ne_nil (width n : ℕ) : Text.padded width n ≠ [] := by
  intro h
  exact ofNat_ne_nil n (List.append_eq_nil_iff.mp h).2

theorem isDigit_of_head?_append {n : ℕ} {t : Text} {c : Char}
    (h : (Text.ofNat n ++ t).head? = some c) : c.isDigit = true := by
  apply isDigits_ofNat n
  rw [List.head?_append_of_ne_nil _ (ofNat_ne_nil n)] at h
  exact List.mem_of_mem_head? h

theorem valueOf_ofNat (n : ℕ) : valueOf (digitValues (Text.ofNat n)) = n := by
  rw [valueOf_digitValues]
  exact Nat.ofDigitChars_ten_toDigits

theorem valueOf_padded (width n : ℕ) : valueOf (digitValues (Text.padded width n)) = n := by
  rw [valueOf_digitValues]
  unfold Text.padded Text.zeroFilled
  rw [Nat.ofDigitChars_append, Nat.ofDigitChars_replicate_zero, Nat.mul_zero]
  exact Nat.ofDigitChars_ten_toDigits

theorem length_ofNat_le_iff {n width : ℕ} (hw : 0 < width) :
    (Text.ofNat n).length ≤ width ↔ n < 10 ^ width := Nat.length_toDigits_le_iff (by decide) hw

theorem length_padded {width n : ℕ} (hw : 0 < width) (hn : n < 10 ^ width) :
    (Text.padded width n).length = width := by
  have hle := (length_ofNat_le_iff hw).mpr hn
  unfold Text.padded Text.zeroFilled
  rw [List.length_append, List.length_replicate]
  omega

/-- A whole number is its size with its sign. -/
theorem signed_natAbs (k : ℤ) : (if decide (k < 0) then -(k.natAbs : ℤ) else k.natAbs) = k := by
  simp only [decide_eq_true_eq]
  split
  · omega
  · omega

/-! ## Reading back -/

theorem asciiNumber?_ofNat (n : ℕ) : asciiNumber? (Text.ofNat n) = some n := by
  rw [asciiNumber?_of_isDigits (isDigits_ofNat n) (ofNat_ne_nil n), valueOf_ofNat]

theorem asciiNumber?_padded (width n : ℕ) : asciiNumber? (Text.padded width n) = some n := by
  rw [asciiNumber?_of_isDigits (isDigits_padded width n) (padded_ne_nil width n), valueOf_padded]

/-! ## Only what is written -/

theorem isDigits_of_mapM {t : Text} {ds : List ℕ} (h : t.mapM asciiDigit? = some ds) : IsDigits t := by
  induction t generalizing ds with
  | nil => exact fun c hc => absurd hc List.not_mem_nil
  | cons c rest ih =>
    rw [List.mapM_cons] at h
    obtain ⟨d, hd, h⟩ := Option.bind_eq_some_iff.mp h
    obtain ⟨es, hes, _⟩ := Option.bind_eq_some_iff.mp h
    have hdigit : c.isDigit = true := by
      unfold asciiDigit? at hd
      by_contra hnot
      rw [if_neg hnot] at hd
      cases hd
    intro e he
    rcases List.mem_cons.mp he with rfl | he
    · exact hdigit
    · exact ih hes e he

theorem valueOf_eq_ofDigits (ds : List ℕ) : valueOf ds = Nat.ofDigits 10 ds.reverse := by
  rw [Nat.ofDigits_eq_foldr, List.foldr_reverse]
  unfold valueOf
  congr 1
  funext n d
  exact Nat.add_comm _ _

theorem valueOf_lt {ds : List ℕ} (h : ∀ d ∈ ds, d < 10) : valueOf ds < 10 ^ ds.length := by
  rw [valueOf_eq_ofDigits, ← List.length_reverse]
  exact Nat.ofDigits_lt_base_pow_length (by decide) fun d hd => h d (List.mem_reverse.mp hd)

/-- A number that does not begin with a zero has the size of its digits. -/
theorem pow_le_valueOf {d : ℕ} (hd : d ≠ 0) (ds : List ℕ) : 10 ^ ds.length ≤ valueOf (d :: ds) := by
  have hsplit : valueOf (d :: ds) = d * 10 ^ ds.length + valueOf ds := by
    rw [← List.singleton_append, valueOf_append]
    simp [valueOf]
  rw [hsplit]
  exact (Nat.le_mul_of_pos_left _ (Nat.pos_of_ne_zero hd)).trans (Nat.le_add_right _ _)

theorem digitValues_lt {t : Text} (h : IsDigits t) : ∀ d ∈ (digitValues t).reverse, d < 10 :=
  fun d hd => h.spells.lt d (List.mem_reverse.mp hd)

theorem valueOf_digitValues_lt {t : Text} (h : IsDigits t) : valueOf (digitValues t) < 10 ^ t.length := by
  rw [← length_digitValues]
  exact valueOf_lt h.spells.lt

/-- Two texts of one width that denote one number have the same digits. -/
theorem eq_of_valueOf_eq {s t : Text} (hs : IsDigits s) (ht : IsDigits t) (hlen : s.length = t.length)
    (h : valueOf (digitValues s) = valueOf (digitValues t)) : s = t := by
  rw [valueOf_eq_ofDigits, valueOf_eq_ofDigits] at h
  have hvalues : digitValues s = digitValues t := List.reverse_injective <|
    Nat.ofDigits_inj_of_len_eq (by decide) (by simpa using hlen) (digitValues_lt hs) (digitValues_lt ht) h
  apply List.ext_getElem hlen
  intro i hi hj
  have hvalue : (digitValues s)[i]? = (digitValues t)[i]? := by rw [hvalues]
  simp only [digitValues, List.getElem?_map, List.getElem?_eq_getElem hi, List.getElem?_eq_getElem hj,
    Option.map_some, Option.some.injEq] at hvalue
  have hleft := (isDigit_iff_toNat _).mp (hs _ (List.getElem_mem hi))
  have hright := (isDigit_iff_toNat _).mp (ht _ (List.getElem_mem hj))
  exact Char.toNat_inj.mp (by omega)

/-- **A text of some width is read as a number if it is that number, filled up with zeros.** -/
theorem asciiNumber?_eq_some_iff {t : Text} {width n : ℕ} (hw : 0 < width) (hlen : t.length = width) :
    asciiNumber? t = some n ↔ t = Text.padded width n := by
  constructor
  · intro h
    have hne : t ≠ [] := List.ne_nil_of_length_pos (by omega)
    have hdigits : IsDigits t := by
      unfold asciiNumber? at h
      rw [if_neg (by simpa using hne)] at h
      obtain ⟨ds, hds, _⟩ := Option.map_eq_some_iff.mp h
      exact isDigits_of_mapM hds
    rw [asciiNumber?_of_isDigits hdigits hne, Option.some.injEq] at h
    have hn : n < 10 ^ width := by
      rw [← h, ← hlen]
      exact valueOf_digitValues_lt hdigits
    apply eq_of_valueOf_eq hdigits (isDigits_padded width n)
    · rw [hlen, length_padded hw hn]
    · rw [h, valueOf_padded]
  · rintro rfl
    exact asciiNumber?_padded width n

end WeatherTelegram
