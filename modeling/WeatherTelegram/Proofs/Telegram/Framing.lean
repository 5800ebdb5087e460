import Mathlib.Data.List.Infix
import WeatherTelegram.Proofs.Text.Digit
import WeatherTelegram.Telegram.Encode

/-!
# `Proofs.Telegram.Framing` — cleaning and cutting undo joining

A telegram is a row of tokens joined by plus signs. When no token holds a part that reading would take
for a delimiter or for a trace of a gateway, and the row begins and ends with a visible character,
cleaning leaves the telegram alone and cutting gives the row back. A trace could only arise across the
join of two tokens, where the plus sign stands in its way. The other way round, no token of a cleaned
message holds such a part.

## Contents
- **Reserved parts.** `hasPart_iff`, `isReserved_eq_false_iff`, `Text.IsPlain`, `IsDigits.isPlain`.
- **Space codes.** `plusForSpaceCode_append`, `plusForSpaceCode_eq_self`, `not_infix_plusForSpaceCode`.
- **Rows.** `clean_intercalate`, `splitOn_intercalate_of_not_isReserved`.
- **Tokens.** `mark_not_mem_clean`, `not_infix_clean`, `isReserved_of_mem_splitOn`.
- **Lengths.** `length_clean_le`, `length_le_of_mem_tokens`.
-/

namespace WeatherTelegram

/-! ## Reserved parts -/

theorem hasPart_iff (part t : Text) : Text.hasPart part t = true ↔ part <:+: t := by
  induction t with
  | nil =>
    rw [Text.hasPart, List.isEmpty_iff, List.infix_nil]
  | cons c rest ih =>
    rw [Text.hasPart, Bool.or_eq_true, ih, Text.startsWith, List.isPrefixOf_iff_prefix,
      List.infix_cons_iff]

/-- The code by which a gateway writes a plus sign. -/
def spaceCode : Text := ['%', '2', '0']

/-- A text breaks no telegram apart when it has neither delimiters nor marks nor space codes. -/
theorem isReserved_eq_false_iff (t : Text) :
    isReserved t = false ↔ delimiter ∉ t ∧ '>' ∉ t ∧ ¬ spaceCode <:+: t := by
  have hparts : isReserved t = (Text.hasPart [delimiter] t || (Text.hasPart ['>'] t ||
      (Text.hasPart spaceCode t || false))) := rfl
  rw [hparts, Bool.or_false, Bool.or_eq_false_iff, Bool.or_eq_false_iff, ← Bool.not_eq_true,
    ← Bool.not_eq_true, ← Bool.not_eq_true, hasPart_iff, hasPart_iff, hasPart_iff,
    List.singleton_infix_iff, List.singleton_infix_iff]

/-- A text without any character of a reserved part that stands for the part. -/
def Text.IsPlain (t : Text) : Prop := ∀ c ∈ t, c ≠ delimiter ∧ c ≠ '>' ∧ c ≠ '%'

theorem Text.isPlain_nil : Text.IsPlain [] := fun _ h => by cases h

theorem ne_of_isDigit {c : Char} (h : c.isDigit = true) : c ≠ delimiter ∧ c ≠ '>' ∧ c ≠ '%' := by
  refine ⟨?_, ?_, ?_⟩
  · rintro rfl
    exact absurd h (by decide)
  · rintro rfl
    exact absurd h (by decide)
  · rintro rfl
    exact absurd h (by decide)

theorem IsDigits.isPlain {t : Text} (h : IsDigits t) : t.IsPlain := fun c hc => ne_of_isDigit (h c hc)

namespace Text.IsPlain

theorem append {s t : Text} (hs : s.IsPlain) (ht : t.IsPlain) : (s ++ t).IsPlain := by
  intro c hc
  rcases List.mem_append.mp hc with h | h
  · exact hs c h
  · exact ht c h

theorem cons {c : Char} {t : Text} (hc : c ≠ delimiter ∧ c ≠ '>' ∧ c ≠ '%') (ht : t.IsPlain) :
    Text.IsPlain (c :: t) := by
  intro d hd
  rcases List.mem_cons.mp hd with rfl | h
  · exact hc
  · exact ht d h

theorem not_isReserved {t : Text} (h : t.IsPlain) : isReserved t = false := by
  rw [isReserved_eq_false_iff]
  refine ⟨fun hd => (h _ hd).1 rfl, fun hm => (h _ hm).2.1 rfl, fun hs => ?_⟩
  have hmem : '%' ∈ t := hs.subset (List.mem_cons_self ..)
  exact (h _ hmem).2.2 rfl

end Text.IsPlain

/-! ## Space codes -/

theorem plusForSpaceCode_cons {c : Char} {t : Text} (h : ¬ spaceCode <+: c :: t) :
    plusForSpaceCode (c :: t) = c :: plusForSpaceCode t := by
  rw [plusForSpaceCode]
  rintro rest rfl rfl
  exact h ⟨rest, rfl⟩

theorem plusForSpaceCode_eq_self {t : Text} (h : ¬ spaceCode <:+: t) : plusForSpaceCode t = t := by
  induction t with
  | nil => rfl
  | cons c t ih =>
    rw [List.infix_cons_iff, not_or] at h
    rw [plusForSpaceCode_cons h.1, ih h.2]

/-- No space code runs over the join to a text that does not go on like one. -/
theorem plusForSpaceCode_append {t : Text} (ht : ∀ c, t.head? = some c → c ≠ '2' ∧ c ≠ '0')
    (s : Text) : plusForSpaceCode (s ++ t) = plusForSpaceCode s ++ plusForSpaceCode t := by
  fun_induction plusForSpaceCode s with
  | case1 rest ih =>
    show delimiter :: plusForSpaceCode (rest ++ t) = _
    rw [ih]
    rfl
  | case2 c rest hcode ih =>
    rw [List.cons_append, plusForSpaceCode_cons, ih, List.cons_append]
    rintro ⟨u, hu⟩
    -- the second text would have to give the second or the third character of the code
    match rest, hcode, hu with
    | [], _, hu =>
      simp only [spaceCode, List.cons_append, List.nil_append, List.cons.injEq] at hu
      exact (ht '2' (by rw [← hu.2]; rfl)).1 rfl
    | [_], _, hu =>
      simp only [spaceCode, List.cons_append, List.nil_append, List.cons.injEq] at hu
      exact (ht '0' (by rw [← hu.2.2]; rfl)).2 rfl
    | d :: e :: rest, hcode, hu =>
      simp only [spaceCode, List.cons_append, List.cons.injEq] at hu
      obtain ⟨rfl, rfl, rfl, _⟩ := hu
      exact hcode rest rfl rfl
  | case3 => rfl

theorem plusForSpaceCode_append_delimiter (s t : Text) :
    plusForSpaceCode (s ++ delimiter :: t) = plusForSpaceCode s ++ delimiter :: plusForSpaceCode t := by
  rw [plusForSpaceCode_append _ s, plusForSpaceCode_cons]
  · rintro ⟨u, hu⟩
    simp [spaceCode, delimiter] at hu
  · rintro c hc
    cases hc
    decide

theorem plusForSpaceCode_intercalate (ts : List Text) :
    plusForSpaceCode (List.intercalate [delimiter] ts) =
      List.intercalate [delimiter] (ts.map plusForSpaceCode) := by
  induction ts with
  | nil => rfl
  | cons t ts ih =>
    cases ts with
    | nil => rw [List.map_singleton, List.intercalate_singleton, List.intercalate_singleton]
    | cons u ts =>
      rw [List.map_cons, List.map_cons, List.intercalate_cons_cons, List.intercalate_cons_cons,
        List.append_assoc, List.append_assoc, List.singleton_append, List.singleton_append,
        plusForSpaceCode_append_delimiter, ih, List.map_cons]

theorem mem_of_mem_plusForSpaceCode {c : Char} {t : Text} (h : c ∈ plusForSpaceCode t) :
    c = delimiter ∨ c ∈ t := by
  fun_induction plusForSpaceCode t with
  | case1 rest ih =>
    rcases List.mem_cons.mp h with rfl | h
    · exact .inl rfl
    · exact (ih h).imp_right fun hmem => by simp [hmem]
  | case2 d rest hcode ih =>
    rcases List.mem_cons.mp h with rfl | h
    · exact .inr (List.mem_cons_self ..)
    · exact (ih h).imp_right (List.mem_cons_of_mem d)
  | case3 => exact .inr h

/-- What stands in front after the rewriting stood there before it, if it is no delimiter. -/
theorem exists_of_plusForSpaceCode_eq_cons {c : Char} {t u : Text} (hc : c ≠ delimiter)
    (h : plusForSpaceCode t = c :: u) : ∃ v, t = c :: v ∧ u = plusForSpaceCode v := by
  fun_cases plusForSpaceCode t with
  | case1 rest =>
    rw [plusForSpaceCode, List.cons.injEq] at h
    exact absurd h.1.symm hc
  | case2 d rest hcode =>
    rw [plusForSpaceCode, List.cons.injEq] at h
    · exact ⟨rest, by rw [h.1], h.2.symm⟩
    · exact hcode
  | case3 => cases h

/-- Rewriting leaves no space code behind. -/
theorem not_infix_plusForSpaceCode (t : Text) : ¬ spaceCode <:+: plusForSpaceCode t := by
  fun_induction plusForSpaceCode t with
  | case1 rest ih =>
    rw [List.infix_cons_iff, not_or]
    refine ⟨?_, ih⟩
    rintro ⟨u, hu⟩
    simp [spaceCode, delimiter] at hu
  | case2 c rest hcode ih =>
    rw [List.infix_cons_iff, not_or]
    refine ⟨?_, ih⟩
    -- a code in front would have stood there before, and then been rewritten
    rintro ⟨u, hu⟩
    simp only [spaceCode, List.cons_append, List.nil_append, List.cons.injEq] at hu
    obtain ⟨rfl, hu⟩ := hu
    obtain ⟨v, rfl, hv⟩ := exists_of_plusForSpaceCode_eq_cons (by decide) hu.symm
    obtain ⟨w, rfl, _⟩ := exists_of_plusForSpaceCode_eq_cons (by decide) hv.symm
    exact hcode w rfl rfl
  | case3 =>
    rw [List.infix_nil]
    decide

theorem filter_mark_eq_self {t : Text} (h : '>' ∉ t) : t.filter (· != '>') = t := by
  rw [List.filter_eq_self]
  intro c hc
  rw [bne_iff_ne]
  rintro rfl
  exact h hc

/-! ## Rows -/

theorem intercalate_cons_cons (t u : Text) (ts : List Text) :
    List.intercalate [delimiter] (t :: u :: ts) =
      t ++ delimiter :: List.intercalate [delimiter] (u :: ts) := by
  rw [List.intercalate_cons_cons, List.append_assoc, List.singleton_append]

theorem mem_intercalate {c : Char} {ts : List Text} (h : c ∈ List.intercalate [delimiter] ts) :
    c = delimiter ∨ ∃ t ∈ ts, c ∈ t := by
  induction ts with
  | nil => cases h
  | cons t ts ih =>
    cases ts with
    | nil =>
      rw [List.intercalate_singleton] at h
      exact .inr ⟨t, List.mem_cons_self .., h⟩
    | cons u ts =>
      rw [intercalate_cons_cons, List.mem_append, List.mem_cons] at h
      rcases h with ht | rfl | hts
      · exact .inr ⟨t, List.mem_cons_self .., ht⟩
      · exact .inl rfl
      · rcases ih hts with hc | ⟨v, hv, hc⟩
        · exact .inl hc
        · exact .inr ⟨v, List.mem_cons_of_mem _ hv, hc⟩

theorem infix_intercalate {t : Text} {ts : List Text} (h : t ∈ ts) :
    t <:+: List.intercalate [delimiter] ts := by
  induction ts with
  | nil => cases h
  | cons u ts ih =>
    cases ts with
    | nil =>
      rw [List.intercalate_singleton, List.mem_singleton.mp h]
    | cons v ts =>
      rw [intercalate_cons_cons]
      rcases List.mem_cons.mp h with rfl | h
      · exact (List.prefix_append t _).isInfix
      · exact (ih h).trans ((List.suffix_cons delimiter _).trans (List.suffix_append u _)).isInfix

theorem getLast?_intercalate {t : Text} {ts : List Text} (ht : t ≠ []) (h : ts.getLast? = some t) :
    (List.intercalate [delimiter] ts).getLast? = t.getLast? := by
  induction ts with
  | nil => cases h
  | cons u ts ih =>
    cases ts with
    | nil =>
      obtain rfl : u = t := by simpa using h
      rw [List.intercalate_singleton]
    | cons v ts =>
      rw [List.getLast?_cons_cons] at h
      rw [intercalate_cons_cons, ← List.singleton_append, ← List.append_assoc,
        List.getLast?_append, ih h, Option.or_of_isSome]
      rwa [List.getLast?_isSome]

/-- Of a row whose tokens are not reserved cleaning takes the blanks at its ends. -/
theorem clean_intercalate_eq_trim {ts : List Text} (hreserved : ∀ w ∈ ts, isReserved w = false) :
    clean (List.intercalate [delimiter] ts) = Text.trim (List.intercalate [delimiter] ts) := by
  have hmarks : '>' ∉ List.intercalate [delimiter] ts := by
    intro hmem
    rcases mem_intercalate hmem with hdelim | ⟨w, hw, hmem⟩
    · exact absurd hdelim (by decide)
    · exact ((isReserved_eq_false_iff w).mp (hreserved w hw)).2.1 hmem
  have hcodes : ts.map plusForSpaceCode = ts := by
    have hid : ∀ w ∈ ts, plusForSpaceCode w = id w := fun w hw =>
      plusForSpaceCode_eq_self ((isReserved_eq_false_iff w).mp (hreserved w hw)).2.2
    rw [List.map_congr_left hid, List.map_id]
  rw [clean, filter_mark_eq_self hmarks, plusForSpaceCode_intercalate, hcodes]

/-- **Cleaning leaves a row alone** whose tokens are not reserved and which begins and ends visibly. -/
theorem clean_intercalate {t u : Text} {ts : List Text} {c d : Char}
    (hreserved : ∀ w ∈ t :: ts, isReserved w = false)
    (hfirst : t.head? = some c) (hc : isBlank c = false)
    (hend : (t :: ts).getLast? = some u) (hlast : u.getLast? = some d) (hd : isBlank d = false) :
    clean (List.intercalate [delimiter] (t :: ts)) = List.intercalate [delimiter] (t :: ts) := by
  rw [clean_intercalate_eq_trim hreserved]
  apply Text.trim_eq_self
  · intro e he
    obtain ⟨v, rfl⟩ : ∃ v, t = c :: v := by
      cases t with
      | nil => cases hfirst
      | cons b v => exact ⟨v, by rw [Option.some.inj hfirst]⟩
    cases ts with
    | nil =>
      rw [List.intercalate_singleton] at he
      cases he
      exact hc
    | cons w ts =>
      rw [intercalate_cons_cons] at he
      cases he
      exact hc
  · intro e he
    have hne : u ≠ [] := by
      rintro rfl
      cases hlast
    rw [getLast?_intercalate hne hend, hlast] at he
    cases he
    exact hd

/-- **Cutting gives the row back.** -/
theorem splitOn_intercalate_of_not_isReserved {t : Text} {ts : List Text}
    (h : ∀ w ∈ t :: ts, isReserved w = false) :
    List.splitOn delimiter (List.intercalate [delimiter] (t :: ts)) = t :: ts := by
  apply List.splitOn_intercalate
  · intro w hw
    exact ((isReserved_eq_false_iff w).mp (h w hw)).1
  · exact List.cons_ne_nil t ts

/-! ## Tokens -/

theorem not_mem_of_mem_splitOn {t message : Text} (h : t ∈ List.splitOn delimiter message) :
    delimiter ∉ t := by
  induction message generalizing t with
  | nil =>
    rw [List.splitOn_nil, List.mem_singleton] at h
    rw [h]
    exact List.not_mem_nil
  | cons c message ih =>
    rw [List.splitOn_cons_eq_if_modifyHead] at h
    split at h
    · rcases List.mem_cons.mp h with rfl | h
      · exact List.not_mem_nil
      · exact ih h
    · rename_i hc
      obtain ⟨u, us, hsplit⟩ := List.exists_cons_of_ne_nil (List.splitOn_ne_nil delimiter message)
      rw [hsplit, List.modifyHead_cons] at h
      rcases List.mem_cons.mp h with rfl | h
      · rw [List.mem_cons, not_or]
        refine ⟨fun heq => hc (beq_iff_eq.mpr heq.symm), ih ?_⟩
        rw [hsplit]
        exact List.mem_cons_self ..
      · apply ih
        rw [hsplit]
        exact List.mem_cons_of_mem _ h

theorem infix_of_mem_splitOn {t message : Text} (h : t ∈ List.splitOn delimiter message) :
    t <:+: message := by
  have := infix_intercalate h
  rwa [List.intercalate_splitOn] at this

theorem infix_trim (t : Text) : t.trim <:+: t := by
  have hstart : Text.trimStart isBlank t <:+: t := (List.dropWhile_suffix _).isInfix
  have hend : Text.trim t <:+: Text.trimStart isBlank t := by
    rw [Text.trim, Text.trimEnd, ← List.reverse_infix, List.reverse_reverse]
    exact (List.dropWhile_suffix _).isInfix
  exact hend.trans hstart

theorem mark_not_mem_clean (raw : Text) : '>' ∉ clean raw := by
  intro hmark
  rcases mem_of_mem_plusForSpaceCode ((infix_trim _).subset hmark) with hdelim | hfilter
  · exact absurd hdelim (by decide)
  · exact absurd (List.of_mem_filter hfilter) (by decide)

theorem not_infix_clean (raw : Text) : ¬ spaceCode <:+: clean raw := fun hcode =>
  not_infix_plusForSpaceCode _ (hcode.trans (infix_trim _))

/-- **The pieces of a message are not reserved.** -/
theorem isReserved_of_mem_splitOn {t raw : Text} (h : t ∈ List.splitOn delimiter (clean raw)) :
    isReserved t = false := by
  have hpart := infix_of_mem_splitOn h
  rw [isReserved_eq_false_iff]
  exact ⟨not_mem_of_mem_splitOn h, fun hmark => mark_not_mem_clean raw (hpart.subset hmark),
    fun hcode => not_infix_clean raw (hcode.trans hpart)⟩

theorem isReserved_of_mem_tokens {t raw : Text} (h : t ∈ tokens (clean raw)) :
    isReserved t = false := isReserved_of_mem_splitOn (List.mem_of_mem_drop h)

/-! ## Lengths -/

theorem length_plusForSpaceCode_le (t : Text) : (plusForSpaceCode t).length ≤ t.length := by
  fun_induction plusForSpaceCode t with
  | case1 rest ih =>
    simp only [List.length_cons]
    omega
  | case2 c rest hcode ih =>
    simp only [List.length_cons]
    omega
  | case3 => exact Nat.le_refl _

/-- Cleaning adds nothing to a message. -/
theorem length_clean_le (raw : Text) : (clean raw).length ≤ raw.length :=
  calc (clean raw).length ≤ (plusForSpaceCode (raw.filter (· != '>'))).length := (infix_trim _).length_le
    _ ≤ (raw.filter (· != '>')).length := length_plusForSpaceCode_le _
    _ ≤ raw.length := List.length_filter_le _ raw

theorem length_le_of_mem_tokens {t raw : Text} (h : t ∈ tokens (clean raw)) : t.length ≤ raw.length :=
  (infix_of_mem_splitOn (List.mem_of_mem_drop h)).length_le.trans (length_clean_le raw)

end WeatherTelegram
