import WeatherTelegram.Proofs.Telegram.Decode

/-!
# `Proofs.Telegram.Relay` — gateways leave no trace

A gateway may write any plus sign of a telegram as a space code, put marks between any of its characters,
inside a space code too, and add blanks at both ends. Cleaning undoes all of it: marks are dropped before
space codes are looked for, no space code can arise across the end of another, and blanks are no part of
one. So the telegram that was sent and the one that arrived are read alike, and a cleaned message is
read like the message.

## Contents
- **Gateways.** `Coded`, `Marked`, `IsRelayed`.
- **Cleaning.** `plusForSpaceCode_cons_congr`, `clean_of_isRelayed`, `clean_clean`.
- **Reading.** `decode_congr`, `message_of_decode`; `decode_relayed`.
-/

namespace WeatherTelegram

/-! ## Gateways -/

/-- Some of the plus signs are written as space codes. -/
inductive Coded : Text → Text → Prop where
  | nil : Coded [] []
  | keep (c : Char) {t u : Text} : Coded t u → Coded (c :: t) (c :: u)
  | code {t u : Text} : Coded t u → Coded (delimiter :: t) (spaceCode ++ u)

/-- Marks are put in anywhere. -/
inductive Marked : Text → Text → Prop where
  | nil : Marked [] []
  | keep (c : Char) {t u : Text} : Marked t u → Marked (c :: t) (c :: u)
  | mark {t u : Text} : Marked t u → Marked t ('>' :: u)

theorem Coded.refl (t : Text) : Coded t t := by
  induction t with
  | nil => exact .nil
  | cons c t ih => exact .keep c ih

theorem Marked.refl (t : Text) : Marked t t := by
  induction t with
  | nil => exact .nil
  | cons c t ih => exact .keep c ih

/-- What gateways may make of a text: plus signs as space codes, then marks, then blanks at the ends. -/
def IsRelayed (t t' : Text) : Prop :=
  ∃ coded marked front back, Coded t coded ∧ Marked coded marked ∧
    (∀ c ∈ front, isBlank c = true) ∧ (∀ c ∈ back, isBlank c = true) ∧ t' = front ++ marked ++ back

/-! ## Cleaning -/

theorem Marked.filter_eq {t u : Text} (h : Marked t u) :
    u.filter (· != '>') = t.filter (· != '>') := by
  induction h with
  | nil => rfl
  | keep c _ ih => rw [List.filter_cons, List.filter_cons, ih]
  | mark _ ih => exact ih

/-- Dropping the marks that were there before does not undo the space codes. -/
theorem Coded.filter {t u : Text} (h : Coded t u) :
    Coded (t.filter (· != '>')) (u.filter (· != '>')) := by
  induction h with
  | nil => exact .nil
  | keep c _ ih =>
    rw [List.filter_cons, List.filter_cons]
    split
    · exact .keep c ih
    · exact ih
  | code _ ih => exact .code ih

/-- Whether a character begins a space code can be told from the rest after its rewriting. -/
theorem plusForSpaceCode_cons_congr (c : Char) {t u : Text}
    (h : plusForSpaceCode t = plusForSpaceCode u) :
    plusForSpaceCode (c :: t) = plusForSpaceCode (c :: u) := by
  have hcode : ∀ {t u : Text}, plusForSpaceCode t = plusForSpaceCode u → spaceCode <+: c :: t →
      plusForSpaceCode (c :: t) = plusForSpaceCode (c :: u) := by
    intro t u h hstart
    obtain ⟨rest, hrest⟩ := hstart
    simp only [spaceCode, List.cons_append, List.nil_append, List.cons.injEq] at hrest
    obtain ⟨rfl, rfl⟩ := hrest
    have hkept : plusForSpaceCode ('2' :: '0' :: rest) = '2' :: '0' :: plusForSpaceCode rest := rfl
    rw [hkept] at h
    obtain ⟨v, rfl, hv⟩ := exists_of_plusForSpaceCode_eq_cons (by decide) h.symm
    obtain ⟨w, rfl, hw⟩ := exists_of_plusForSpaceCode_eq_cons (by decide) hv.symm
    show delimiter :: plusForSpaceCode rest = delimiter :: plusForSpaceCode w
    rw [hw]
  by_cases ht : spaceCode <+: c :: t
  · exact hcode h ht
  by_cases hu : spaceCode <+: c :: u
  · exact (hcode h.symm hu).symm
  · rw [plusForSpaceCode_cons ht, plusForSpaceCode_cons hu, h]

/-- Rewriting undoes the space codes. -/
theorem Coded.plusForSpaceCode_eq {t u : Text} (h : Coded t u) :
    plusForSpaceCode u = plusForSpaceCode t := by
  induction h with
  | nil => rfl
  | keep c _ ih => exact plusForSpaceCode_cons_congr c ih
  | @code t u _ ih =>
    have hplus : plusForSpaceCode (delimiter :: t) = delimiter :: plusForSpaceCode t := rfl
    show delimiter :: plusForSpaceCode u = _
    rw [hplus, ih]

/-! ### Blanks -/

theorem ne_of_isBlank {c : Char} (h : isBlank c = true) : c ≠ '%' ∧ c ≠ '2' ∧ c ≠ '0' ∧ c ≠ '>' := by
  refine ⟨?_, ?_, ?_, ?_⟩ <;> rintro rfl <;> exact absurd h (by decide)

theorem filter_blanks {t : Text} (h : ∀ c ∈ t, isBlank c = true) : t.filter (· != '>') = t :=
  filter_mark_eq_self fun hmark => (ne_of_isBlank (h _ hmark)).2.2.2 rfl

/-- No space code begins in blanks. -/
theorem plusForSpaceCode_blanks_append {front : Text} (h : ∀ c ∈ front, isBlank c = true) (t : Text) :
    plusForSpaceCode (front ++ t) = front ++ plusForSpaceCode t := by
  induction front with
  | nil => rfl
  | cons c front ih =>
    have hne := (ne_of_isBlank (h c (List.mem_cons_self ..))).1
    rw [List.cons_append, plusForSpaceCode_cons, ih fun d hd => h d (List.mem_cons_of_mem c hd)]
    · rfl
    · rintro ⟨u, hu⟩
      exact hne (List.cons.inj hu).1.symm

/-- No space code goes on in blanks. -/
theorem plusForSpaceCode_append_blanks {back : Text} (h : ∀ c ∈ back, isBlank c = true) (t : Text) :
    plusForSpaceCode (t ++ back) = plusForSpaceCode t ++ back := by
  have hself := plusForSpaceCode_blanks_append h []
  rw [List.append_nil] at hself
  rw [plusForSpaceCode_append _ t, hself]
  · exact congrArg _ (List.append_nil back)
  · intro c hc
    have hne := ne_of_isBlank (h c (List.mem_of_mem_head? hc))
    exact ⟨hne.2.1, hne.2.2.1⟩

/-! ### Messages -/

/-- **Cleaning undoes what gateways make of a text.** -/
theorem clean_of_isRelayed {t t' : Text} (h : IsRelayed t t') : clean t' = clean t := by
  obtain ⟨coded, marked, front, back, hcoded, hmarked, hfront, hback, rfl⟩ := h
  calc clean (front ++ marked ++ back)
      = (plusForSpaceCode (front ++ marked.filter (· != '>') ++ back)).trim := by
        rw [clean, List.filter_append, List.filter_append, filter_blanks hfront, filter_blanks hback]
    _ = (front ++ plusForSpaceCode (marked.filter (· != '>')) ++ back).trim := by
        rw [plusForSpaceCode_append_blanks hback, plusForSpaceCode_blanks_append hfront]
    _ = (plusForSpaceCode (marked.filter (· != '>'))).trim := by
        rw [Text.trim_append_right hback, Text.trim_append_left hfront]
    _ = clean t := by
        rw [hmarked.filter_eq, hcoded.filter.plusForSpaceCode_eq, clean]

/-- A cleaned message is left alone. -/
theorem clean_clean (raw : Text) : clean (clean raw) = clean raw := by
  have htrim : (clean raw).trim = clean raw := Text.trim_trim _
  rw [clean, filter_mark_eq_self (mark_not_mem_clean raw),
    plusForSpaceCode_eq_self (not_infix_clean raw), htrim]

/-! ## Reading -/

/-- Messages are read by what cleaning leaves of them. -/
theorem ofMessage_congr {t t' : Text} (h : clean t' = clean t) :
    Variant.ofMessage t' = Variant.ofMessage t := by
  unfold Variant.ofMessage
  rw [h]

theorem decode_congr {t t' : Text} (h : clean t' = clean t) (now : Instant) :
    decode t' now = decode t now := by
  unfold decode
  rw [h]

/-- A reading holds the message that it was read from. -/
theorem message_of_decode {raw : Text} {now : Instant} {r : Reading}
    (h : (decode raw now).outcome = .ok r) : r.health.message = clean raw := by
  obtain ⟨_, _, _, _, _, _, rfl⟩ := outcome_decode_eq_ok_iff.mp h
  rfl

/-- **Gateways leave no trace.** A text and what gateways make of it are cleaned to one message, so they
    are of one layout and read alike, events included. That message is clean, and it is read like the
    text itself. -/
theorem decode_relayed {t t' : Text} (h : IsRelayed t t') :
    clean t' = clean t ∧ Variant.ofMessage t' = Variant.ofMessage t ∧
    (∀ now, decode t' now = decode t now) ∧ clean (clean t) = clean t ∧
    ∀ now r, (decode t now).outcome = .ok r → decode r.health.message now = decode t now := by
  have hclean := clean_of_isRelayed h
  refine ⟨hclean, ofMessage_congr hclean, decode_congr hclean, clean_clean t, fun now r hr => ?_⟩
  rw [message_of_decode hr]
  exact decode_congr (clean_clean t) now

/-- A telegram of nineteen tokens that carry nothing. -/
def emptyTelegram : Text := '0' :: delimiter :: List.replicate 18 delimiter

/-- The same telegram with a mark inside a space code, and between a line end and a space. -/
def relayedTelegram : Text :=
  ['\n'] ++ ('0' :: '%' :: '>' :: '2' :: '0' :: List.replicate 18 delimiter) ++ [' ']

theorem decode_relayed_sample :
    IsRelayed emptyTelegram relayedTelegram ∧ clean relayedTelegram = clean emptyTelegram ∧
      Variant.ofMessage relayedTelegram = .ok .v19 ∧
      ∀ now, decode relayedTelegram now = decode emptyTelegram now := by
  have hfront : ∀ c ∈ ['\n'], isBlank c = true := by
    intro c hc
    rw [List.mem_singleton.mp hc]
    rfl
  have hback : ∀ c ∈ [' '], isBlank c = true := by
    intro c hc
    rw [List.mem_singleton.mp hc]
    rfl
  have hrelayed : IsRelayed emptyTelegram relayedTelegram :=
    ⟨_, _, _, _, .keep '0' (.code (.refl _)),
      .keep '0' (.keep '%' (.mark (.keep '2' (.keep '0' (.refl _))))), hfront, hback, rfl⟩
  obtain ⟨hclean, hvariant, hdecode, _⟩ := decode_relayed hrelayed
  exact ⟨hrelayed, hclean, hvariant.trans rfl, hdecode⟩

end WeatherTelegram
