import WeatherTelegram.Proofs.Wire.Token

/-!
# `Proofs.Wire.Whole` — whole numbers on the wire

A whole number is written as it is and read back when it has 32 bits. The reader refuses a token only for
the number of its digits, and the writer keeps within the same limit.

## Contents
- `IsOverlong`: the tokens that are refused, and `readWhole_error_iff`; they are long, by
  `IsOverlong.lt_length`.
- `takeSign_ofInt`, `not_isOverlong_of_writeWhole`: no written token is refused.
- `readWhole_ofInt`, `isInt32_of_readWhole`: what is read back, and the range of what is read.
-/

namespace WeatherTelegram

open Binary64

/-! ## Refusals -/

/-- A token of digits behind at most one sign, more of them than the limit. -/
def IsOverlong (token : Text) (count : ℕ) : Prop :=
  ∃ digits, digitsOf? (takeSign token).2 = some digits ∧ digits.length = count ∧ digitLimit < count

theorem readWhole_error_iff {token : Text} {fault : Fault} :
    readWhole token = .error fault ↔ ∃ count, IsOverlong token count ∧ fault = .digitsToRead count := by
  constructor
  · intro h
    unfold readWhole at h
    simp only at h
    split at h
    · cases h
    · cases h
    · rename_i digits _ hdigits
      split at h
      · rename_i hlimit
        cases h
        exact ⟨digits.length, ⟨digits, hdigits, rfl, hlimit⟩, rfl⟩
      · cases h
  · rintro ⟨count, ⟨digits, hdigits, rfl, hlimit⟩, rfl⟩
    unfold readWhole
    simp only [hdigits]
    split
    · rename_i h
      cases h
    · rename_i h
      cases h
      exact absurd hlimit (by decide)
    · rename_i h
      cases h
      rw [if_pos hlimit]

theorem IsOverlong.unique {token : Text} {m n : ℕ} (hm : IsOverlong token m)
    (hn : IsOverlong token n) : m = n := by
  obtain ⟨digits, hdigits, rfl, _⟩ := hm
  obtain ⟨digits', hdigits', rfl, _⟩ := hn
  rw [hdigits] at hdigits'
  cases hdigits'
  rfl

theorem length_of_digitsOf? {t : Text} {digits : List ℕ} (h : digitsOf? t = some digits) :
    digits.length = t.length := by
  induction t generalizing digits with
  | nil =>
    cases h
    rfl
  | cons c t ih =>
    simp only [digitsOf?, List.mapM_cons, Option.bind_eq_bind, Option.bind_eq_some_iff] at h
    obtain ⟨d, _, rest, hrest, heq⟩ := h
    cases heq
    rw [List.length_cons, List.length_cons, ih hrest]

theorem length_takeSign_le (t : Text) : (takeSign t).2.length ≤ t.length := by
  unfold takeSign
  split <;> simp

/-- A token that is refused is longer than the limit. -/
theorem IsOverlong.lt_length {token : Text} {count : ℕ} (h : IsOverlong token count) :
    digitLimit < token.length := by
  obtain ⟨digits, hdigits, rfl, hlimit⟩ := h
  rw [length_of_digitsOf? hdigits] at hlimit
  exact hlimit.trans_le (length_takeSign_le token)

/-! ## Written numbers -/

/-- The sign of a whole number is written like that of a double. -/
theorem ofInt_eq (k : ℤ) : Text.ofInt k = signText (decide (k < 0)) ++ Text.ofNat k.natAbs := by
  unfold Text.ofInt
  by_cases h : k < 0
  · rw [if_pos h, decide_eq_true h]
    rfl
  · rw [if_neg h, decide_eq_false h]
    rfl

theorem takeSign_ofInt (k : ℤ) : takeSign (Text.ofInt k) = (decide (k < 0), Text.ofNat k.natAbs) := by
  rw [ofInt_eq]
  apply takeSign_signText
  intro c hc
  rw [← List.append_nil (Text.ofNat k.natAbs)] at hc
  exact isDigit_of_head?_append hc

theorem digitsOf?_takeSign_ofInt (k : ℤ) :
    digitsOf? (takeSign (Text.ofInt k)).2 = some (digitValues (Text.ofNat k.natAbs)) := by
  rw [takeSign_ofInt]
  exact digitsOf?_of_isDigits (isDigits_ofNat _)

/-- **No written token is refused.** -/
theorem not_isOverlong_of_writeWhole {k : Option ℤ} {t : Text} (h : writeWhole k = .ok t)
    (count : ℕ) : ¬ IsOverlong t count := by
  rintro ⟨digits, hdigits, rfl, hlimit⟩
  cases k with
  | none =>
    cases h
    cases hdigits
    exact absurd hlimit (by decide)
  | some k =>
    simp only [writeWhole] at h
    split at h
    · cases h
    · rename_i hle
      cases h
      rw [digitsOf?_takeSign_ofInt] at hdigits
      cases hdigits
      rw [length_digitValues] at hlimit
      exact hle hlimit

/-- A whole number of 32 bits. -/
def IsInt32 (k : ℤ) : Prop := -2147483648 ≤ k ∧ k ≤ 2147483647

theorem writeWhole_of_isInt32 {k : ℤ} (h : IsInt32 k) : writeWhole (some k) = .ok (Text.ofInt k) := by
  obtain ⟨hleast, hmost⟩ := h
  have hlength := (length_ofNat_le_iff (n := k.natAbs) (show 0 < 10 by decide)).mpr (by omega)
  simp only [writeWhole]
  rw [if_neg]
  unfold digitLimit
  omega

/-- The number of a token with enough digits and not too many. -/
theorem readWhole_of_digits {t body : Text} {negative : Bool} {digits : List ℕ}
    (hsign : takeSign t = (negative, body)) (hdigits : digitsOf? body = some digits)
    (hne : digits ≠ []) (hlimit : digits.length ≤ digitLimit) {k : ℤ} (hk : IsInt32 k)
    (hvalue : (if negative then -(valueOf digits : ℤ) else valueOf digits) = k) :
    readWhole t = .ok (some k) := by
  unfold readWhole
  simp only [hsign, hdigits]
  rw [if_neg (by omega), hvalue, if_pos ⟨hk.1, hk.2⟩]

/-- **Reading back.** -/
theorem readWhole_ofInt {k : ℤ} (h : IsInt32 k) : readWhole (Text.ofInt k) = .ok (some k) := by
  have hlength := (length_ofNat_le_iff (n := k.natAbs) (show 0 < 10 by decide)).mpr
    (by unfold IsInt32 at h; omega)
  have hne : digitValues (Text.ofNat k.natAbs) ≠ [] := by
    rw [← List.length_pos_iff, length_digitValues, List.length_pos_iff]
    exact ofNat_ne_nil _
  have hlimit : (digitValues (Text.ofNat k.natAbs)).length ≤ digitLimit := by
    rw [length_digitValues]
    unfold digitLimit
    omega
  apply readWhole_of_digits (takeSign_ofInt k) (digitsOf?_of_isDigits (isDigits_ofNat _)) hne hlimit h
  rw [valueOf_ofNat, signed_natAbs]

/-- What is read has 32 bits. -/
theorem isInt32_of_readWhole {t : Text} {k : ℤ} (h : readWhole t = .ok (some k)) : IsInt32 k := by
  simp only [readWhole] at h
  split at h
  · cases h
  · cases h
  · split at h
    · cases h
    · obtain ⟨hbounds, hk⟩ := Option.ite_none_right_eq_some.mp (Except.ok.inj h)
      rw [← Option.some.inj hk]
      exact hbounds

end WeatherTelegram
