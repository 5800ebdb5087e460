/-!
# `Text.Blank` — blank characters and trimming

## Contents
- `Text`: a text is the list of its code points, so lengths and positions count code points.
- `isBlank`: the separators of the Unicode character database, with the control characters that
  end lines, pages and records.
- `isNumberBlank`: the blanks that may stand around a number.
- `Text.trimStart`, `Text.trimEnd`, `Text.trim`, `Text.numberBody`: a text without the blanks at its ends.
-/

namespace WeatherTelegram

/-- A text is the list of its code points. -/
abbrev Text := List Char

/-- The blank characters: space separators, line and paragraph separators, and the control characters
    that separate lines, pages or records. -/
def isBlank (c : Char) : Bool :=
  let n := c.toNat
  (0x09 ≤ n && n ≤ 0x0D) || (0x1C ≤ n && n ≤ 0x20) || n == 0x85 || n == 0xA0 || n == 0x1680
    || (0x2000 ≤ n && n ≤ 0x200A) || n == 0x2028 || n == 0x2029 || n == 0x202F || n == 0x205F
    || n == 0x3000

/-- Whether a character is blank around a number: every blank but the four separators of records. -/
def isNumberBlank (c : Char) : Bool := isBlank c && !(0x1C ≤ c.toNat && c.toNat ≤ 0x1F)

namespace Text

/-- The code points of a string. -/
def ofString (s : String) : Text := s.toList

/-- The string of a text. -/
def toString (t : Text) : String := String.ofList t

/-- The text from its first code point outside the class. -/
def trimStart (blank : Char → Bool) (t : Text) : Text := t.dropWhile blank

/-- The text up to its last code point outside the class. -/
def trimEnd (blank : Char → Bool) (t : Text) : Text := (t.reverse.dropWhile blank).reverse

/-- The text without the blanks at its ends. -/
def trim (t : Text) : Text := trimEnd isBlank (trimStart isBlank t)

/-- The text without the blanks around a number. -/
def numberBody (t : Text) : Text := trimEnd isNumberBlank (trimStart isNumberBlank t)

@[simp] theorem trim_nil : trim [] = [] := rfl

theorem dropWhile_of_visible {t : Text} (hs : ∀ c, t.head? = some c → isBlank c = false) :
    t.dropWhile isBlank = t := by
  cases t with
  | nil => rfl
  | cons c r => simp [hs c rfl]

theorem reverse_dropWhile_of_visible {t : Text} (he : ∀ c, t.getLast? = some c → isBlank c = false) :
    t.reverse.dropWhile isBlank = t.reverse :=
  dropWhile_of_visible fun c hc => he c (by rwa [← List.head?_reverse])

/-- A text whose first and last code points are not blank is left alone. -/
theorem trim_eq_self {t : Text} (hs : ∀ c, t.head? = some c → isBlank c = false)
    (he : ∀ c, t.getLast? = some c → isBlank c = false) : trim t = t := by
  rw [trim, trimStart, dropWhile_of_visible hs, trimEnd, reverse_dropWhile_of_visible he,
    List.reverse_reverse]

/-- The first code point that is left is not of the class. -/
theorem head?_dropWhile_eq_some {blank : Char → Bool} {t : Text} {c : Char}
    (h : (t.dropWhile blank).head? = some c) : blank c = false := by
  have hfirst := List.head?_dropWhile_not blank t
  rwa [h] at hfirst

/-- The last code point that is left is not of the class. -/
theorem getLast?_trimEnd_eq_some {blank : Char → Bool} {t : Text} {c : Char}
    (h : (trimEnd blank t).getLast? = some c) : blank c = false := by
  rw [trimEnd, List.getLast?_reverse] at h
  exact head?_dropWhile_eq_some h

theorem trimEnd_prefix (blank : Char → Bool) (t : Text) : trimEnd blank t <+: t := by
  rw [trimEnd, ← List.reverse_suffix, List.reverse_reverse]
  exact List.dropWhile_suffix blank

/-- Blanks in front do not matter. -/
theorem trim_append_left {front : Text} (h : ∀ c ∈ front, isBlank c = true) (t : Text) :
    trim (front ++ t) = trim t := by
  rw [trim, trimStart, List.dropWhile_append_of_pos h]
  rfl

/-- Blanks at the end do not matter. -/
theorem trim_append_right {back : Text} (h : ∀ c ∈ back, isBlank c = true) (t : Text) :
    trim (t ++ back) = trim t := by
  have hreverse : ∀ c ∈ back.reverse, isBlank c = true := fun c hc => h c (List.mem_reverse.mp hc)
  rw [trim, trim, trimStart, trimStart, List.dropWhile_append]
  split
  · rename_i hempty
    have hback : back.dropWhile isBlank = [] := by
      rw [← List.append_nil back, List.dropWhile_append_of_pos h]
      rfl
    rw [hback, List.isEmpty_iff.mp hempty]
  · rw [trimEnd, List.reverse_append, List.dropWhile_append_of_pos hreverse]
    rfl

/-- Behind a text that begins and ends visibly, only the end is trimmed. -/
theorem trim_append_of_visible {s : Text} (hs : ∀ c, s.head? = some c → isBlank c = false)
    (he : ∀ c, s.getLast? = some c → isBlank c = false) (hne : s ≠ []) (tail : Text) :
    trim (s ++ tail) = s ++ trimEnd isBlank tail := by
  have hstart : (s ++ tail).dropWhile isBlank = s ++ tail := by
    obtain ⟨c, rest, rfl⟩ := List.exists_cons_of_ne_nil hne
    exact dropWhile_of_visible hs
  rw [trim, trimStart, hstart, trimEnd, trimEnd, List.reverse_append, List.dropWhile_append,
    reverse_dropWhile_of_visible he]
  split
  · rename_i hempty
    rw [List.isEmpty_iff.mp hempty, List.reverse_reverse, List.reverse_nil, List.append_nil]
  · rw [List.reverse_append, List.reverse_reverse]

/-- A trimmed text begins visibly. -/
theorem isBlank_of_head?_trim {t : Text} {c : Char} (h : (trim t).head? = some c) :
    isBlank c = false := by
  obtain ⟨back, hback⟩ := trimEnd_prefix isBlank (trimStart isBlank t)
  apply head?_dropWhile_eq_some (t := t)
  show (trimStart isBlank t).head? = some c
  rw [← hback, List.head?_append]
  show ((trim t).head?.or _) = some c
  rw [h]
  rfl

/-- A trimmed text ends visibly. -/
theorem isBlank_of_getLast?_trim {t : Text} {c : Char} (h : (trim t).getLast? = some c) :
    isBlank c = false :=
  getLast?_trimEnd_eq_some h

/-- Trimming twice is trimming once. -/
theorem trim_trim (t : Text) : trim (trim t) = trim t :=
  trim_eq_self (fun _ => isBlank_of_head?_trim) (fun _ => isBlank_of_getLast?_trim)

end Text

end WeatherTelegram
