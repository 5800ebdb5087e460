import Mathlib.Data.List.Infix
import WeatherTelegram.Gateway.Mobile
import WeatherTelegram.Proofs.Text.Digit

/-!
# `Proofs.Gateway.Mobile` — which texts hold the number of a station

The search tries every position of a text from its front, and at each position every thing that may come
before a subscriber number. So it comes back with nothing exactly where no part of the text, wherever it
stands, is a number of a station in one of its four forms.

The forms overlap: a bare number may itself begin with the code of the country, and a plus may stand in
front of it by chance. A wrong start then leaves eight digits only, so the search goes on to the right one,
and all four forms of a number come out as one.

## Contents
- **Forms.** `Text.IsSubscriber`, `Text.IsLead`, `Text.IsMobile`, `Text.HoldsMobile`.
- **Searching.** `subscriberAt?_eq_some_iff`, `mobileAt?_eq_none_iff`, `subscriberIn?_eq_none_iff`,
  `mobileNumber?_eq_none_iff`, `exists_mobileNumber?_iff`.
- **Trying one lead.** `subscriberBehind?`, `mobileAt?_cons`, `subscriberAt?_eq_none_of_few`.
- **One form.** `mobileAt?_append`, `subscriberIn?_append`, `mobileNumber?_canonical`.
-/

namespace WeatherTelegram

/-! ## Forms -/

namespace Text

/-- A subscriber number: an ASCII digit from 1 to 9, and nine digits of any script. -/
def IsSubscriber (t : Text) : Prop :=
  ∃ c rest, t = c :: rest ∧ '1' ≤ c ∧ c ≤ '9' ∧ rest.length = 9 ∧ ∀ d ∈ rest, isDecimalDigit d = true

/-- What comes before a subscriber number: nothing, a zero, or the code of the country, which may have a
    plus. -/
def IsLead (t : Text) : Prop := t = [] ∨ t = ['0'] ∨ t = ['6', '3'] ∨ t = ['+', '6', '3']

/-- The number of a station, as it may be written. -/
def IsMobile (t : Text) : Prop :=
  ∃ lead number, IsLead lead ∧ IsSubscriber number ∧ t = lead ++ number

/-- The number of a station stands somewhere in a text. -/
def HoldsMobile (t : Text) : Prop := ∃ part, part <:+: t ∧ IsMobile part

end Text

theorem mem_mobilePrefixes_iff {lead : Text} : lead ∈ mobilePrefixes ↔ lead.IsLead := by
  simp only [mobilePrefixes, countryCode, Text.IsLead, List.mem_cons, List.not_mem_nil, or_false]
  constructor
  · rintro (h | h | h | h) <;> simp [h]
  · rintro (h | h | h | h) <;> simp [h]

/-! ## Searching -/

/-- A subscriber number is found at the front as it is written there. -/
theorem subscriberAt?_eq_some_iff {t number : Text} :
    subscriberAt? t = some number ↔ number.IsSubscriber ∧ number <+: t := by
  cases t with
  | nil =>
    simp only [subscriberAt?, reduceCtorEq, List.prefix_nil, false_iff, not_and]
    rintro ⟨c, rest, rfl, _⟩ hnil
    cases hnil
  | cons c rest =>
    simp only [subscriberAt?, Option.ite_none_right_eq_some, Option.some.injEq, List.all_eq_true]
    constructor
    · rintro ⟨⟨hleast, hmost, hlength, hdigits⟩, rfl⟩
      refine ⟨⟨c, _, rfl, hleast, hmost, hlength, hdigits⟩, ?_⟩
      rw [List.cons_prefix_cons]
      exact ⟨rfl, List.take_prefix _ rest⟩
    · rintro ⟨⟨d, tail, rfl, hleast, hmost, hlength, hdigits⟩, hprefix⟩
      obtain ⟨rfl, htail⟩ := List.cons_prefix_cons.mp hprefix
      have htake : rest.take subscriberTail = tail := by
        rw [subscriberTail, ← hlength]
        exact (List.prefix_iff_eq_take.mp htail).symm
      rw [htake]
      exact ⟨⟨hleast, hmost, hlength, hdigits⟩, rfl⟩

theorem subscriberAt?_eq_none_iff {t : Text} :
    subscriberAt? t = none ↔ ∀ number : Text, number.IsSubscriber → ¬ number <+: t := by
  rw [Option.eq_none_iff_forall_ne_some]
  exact forall_congr' fun number => by rw [Ne, subscriberAt?_eq_some_iff, not_and]

/-- Nothing is found at the front if no number of a station stands there, behind whichever lead. -/
theorem mobileAt?_eq_none_iff {t : Text} :
    mobileAt? t = none ↔ ∀ part : Text, part.IsMobile → ¬ part <+: t := by
  simp only [mobileAt?, List.findSome?_eq_none_iff, mem_mobilePrefixes_iff]
  constructor
  · rintro h part ⟨lead, number, hlead, hnumber, rfl⟩ ⟨back, rfl⟩
    have hnone := h lead hlead
    have hstarts : Text.startsWith lead (lead ++ number ++ back) = true := by
      simp [Text.startsWith, List.append_assoc]
    rw [if_pos hstarts, List.append_assoc, List.drop_left, subscriberAt?_eq_none_iff] at hnone
    exact hnone number hnumber (List.prefix_append number back)
  · intro h lead hlead
    split
    · rename_i hstarts
      rw [subscriberAt?_eq_none_iff]
      intro number hnumber hprefix
      obtain ⟨back, rfl⟩ := List.isPrefixOf_iff_prefix.mp hstarts
      rw [List.drop_left] at hprefix
      exact h _ ⟨lead, number, hlead, hnumber, rfl⟩ ((List.prefix_append_right_inj lead).mpr hprefix)
    · rfl

theorem Text.IsMobile.ne_nil {t : Text} (h : t.IsMobile) : t ≠ [] := by
  obtain ⟨lead, number, _, ⟨c, rest, rfl, _⟩, rfl⟩ := h
  simp

/-- **The search misses nothing**: it fails only where no part of the text is a number of a station. -/
theorem subscriberIn?_eq_none_iff {t : Text} : subscriberIn? t = none ↔ ¬ t.HoldsMobile := by
  induction t with
  | nil =>
    simp only [subscriberIn?, true_iff]
    rintro ⟨part, hpart, hmobile⟩
    exact hmobile.ne_nil (List.infix_nil.mp hpart)
  | cons c rest ih =>
    have hhere : subscriberIn? (c :: rest) = none ↔
        mobileAt? (c :: rest) = none ∧ subscriberIn? rest = none := by
      rw [subscriberIn?]
      cases mobileAt? (c :: rest) <;> simp
    rw [hhere, mobileAt?_eq_none_iff, ih]
    constructor
    · rintro ⟨hfront, hrest⟩ ⟨part, hpart, hmobile⟩
      rcases List.infix_cons_iff.mp hpart with hprefix | hinfix
      · exact hfront part hmobile hprefix
      · exact hrest ⟨part, hinfix, hmobile⟩
    · intro h
      refine ⟨fun part hmobile hprefix => h ⟨part, hprefix.isInfix, hmobile⟩, ?_⟩
      rintro ⟨part, hpart, hmobile⟩
      exact h ⟨part, List.infix_cons hpart, hmobile⟩

theorem mobileNumber?_eq_none_iff {t : Text} : mobileNumber? t = none ↔ ¬ t.HoldsMobile := by
  rw [mobileNumber?, Option.map_eq_none_iff, subscriberIn?_eq_none_iff]

/-- The texts that hold a number are those with a form of it. -/
theorem exists_mobileNumber?_iff {t : Text} : (∃ number, mobileNumber? t = some number) ↔ t.HoldsMobile := by
  rw [← Option.ne_none_iff_exists', Ne, mobileNumber?_eq_none_iff, not_not]

/-! ## Trying one lead -/

/-- The subscriber number behind one lead at the front of a text. -/
def subscriberBehind? (lead t : Text) : Option Text :=
  if Text.startsWith lead t then subscriberAt? (t.drop lead.length) else none

theorem subscriberBehind?_append (lead t : Text) :
    subscriberBehind? lead (lead ++ t) = subscriberAt? t := by
  have hstarts : Text.startsWith lead (lead ++ t) = true := by simp [Text.startsWith]
  rw [subscriberBehind?, if_pos hstarts, List.drop_left]

/-- No lead begins with another character than the text. -/
theorem subscriberBehind?_of_ne {a b : Char} (lead t : Text) (h : a ≠ b) :
    subscriberBehind? (a :: lead) (b :: t) = none := by
  have hstarts : Text.startsWith (a :: lead) (b :: t) = false := by
    simp [Text.startsWith, List.isPrefixOf_cons_cons, h]
  rw [subscriberBehind?, hstarts]
  rfl

theorem subscriberBehind?_cons (c : Char) (lead t : Text) :
    subscriberBehind? (c :: lead) (c :: t) = subscriberBehind? lead t := by
  simp [subscriberBehind?, Text.startsWith]

/-- The leads are tried in their order. -/
theorem mobileAt?_eq (t : Text) : mobileAt? t =
    (subscriberBehind? ['+', '6', '3'] t).or ((subscriberBehind? ['6', '3'] t).or
      ((subscriberBehind? ['0'] t).or (subscriberAt? t))) := by
  have hbare : subscriberBehind? [] t = subscriberAt? t := subscriberBehind?_append [] t
  rw [← hbare]
  show mobilePrefixes.findSome? (subscriberBehind? · t) = _
  simp only [mobilePrefixes, countryCode, List.findSome?_cons, List.findSome?_nil]
  cases subscriberBehind? ['+', '6', '3'] t <;> cases subscriberBehind? ['6', '3'] t <;>
    cases subscriberBehind? ['0'] t <;> cases subscriberBehind? [] t <;> rfl

theorem Text.IsSubscriber.length_eq {t : Text} (h : t.IsSubscriber) : t.length = 10 := by
  obtain ⟨c, rest, rfl, _, _, hlength, _⟩ := h
  rw [List.length_cons, hlength]

theorem isDecimalDigit_of_isDigit {c : Char} (h : c.isDigit = true) : isDecimalDigit c = true := by
  rw [isDecimalDigit, digitValue?_of_isDigit h]
  rfl

theorem isDigit_of_between {c : Char} (hleast : '1' ≤ c) (hmost : c ≤ '9') : c.isDigit = true := by
  rw [isDigit_iff_toNat]
  have hleast' : ('1' : Char).toNat ≤ c.toNat := hleast
  have hmost' : c.toNat ≤ ('9' : Char).toNat := hmost
  have hone : ('1' : Char).toNat = 49 := rfl
  have hnine : ('9' : Char).toNat = 57 := rfl
  omega

theorem Text.IsSubscriber.isDecimalDigit {t : Text} (h : t.IsSubscriber) {d : Char} (hd : d ∈ t) :
    isDecimalDigit d = true := by
  obtain ⟨c, rest, rfl, hleast, hmost, _, hrest⟩ := h
  rcases List.mem_cons.mp hd with rfl | hd
  · exact isDecimalDigit_of_isDigit (isDigit_of_between hleast hmost)
  · exact hrest d hd

/-- Fewer than ten characters in front of one that is no digit are no subscriber number. -/
theorem subscriberAt?_eq_none_of_few {few back : Text} (hfew : few.length < 10)
    (hback : ∀ c, back.head? = some c → isDecimalDigit c = false) :
    subscriberAt? (few ++ back) = none := by
  rw [subscriberAt?_eq_none_iff]
  intro number hnumber hprefix
  have hlength := hnumber.length_eq
  -- the number would reach over the end of the few
  obtain ⟨more, rfl⟩ := List.prefix_of_prefix_length_le (List.prefix_append few back) hprefix (by omega)
  have hmore := (List.prefix_append_right_inj few).mp hprefix
  cases more with
  | nil =>
    rw [List.append_nil] at hlength
    omega
  | cons c more =>
    obtain ⟨back, rfl⟩ := hmore
    have hdigit := hnumber.isDecimalDigit (List.mem_append_right few List.mem_cons_self)
    rw [hback c rfl] at hdigit
    cases hdigit

/-- A character that is no decimal digit begins no subscriber number. -/
theorem subscriberAt?_cons_of_not_digit {c : Char} (hc : isDecimalDigit c = false) (t : Text) :
    subscriberAt? (c :: t) = none := by
  rw [subscriberAt?_eq_none_iff]
  rintro number hnumber hprefix
  obtain ⟨d, rest, rfl, _⟩ := id hnumber
  obtain ⟨rfl, _⟩ := List.cons_prefix_cons.mp hprefix
  have hdigit := hnumber.isDecimalDigit List.mem_cons_self
  rw [hc] at hdigit
  cases hdigit

/-! ## One form -/

section OneForm

variable {lead number back : Text}

theorem subscriberAt?_append (hnumber : number.IsSubscriber) (back : Text) :
    subscriberAt? (number ++ back) = some number :=
  subscriberAt?_eq_some_iff.mpr ⟨hnumber, List.prefix_append number back⟩

/-- Behind a code of the country that is part of the number itself, too few digits are left. -/
theorem subscriberBehind?_code (hnumber : number.IsSubscriber)
    (hback : ∀ c, back.head? = some c → isDecimalDigit c = false) :
    subscriberBehind? ['6', '3'] (number ++ back) = none := by
  unfold subscriberBehind?
  split
  · have hlength := hnumber.length_eq
    have hdrop : (number ++ back).drop 2 = number.drop 2 ++ back :=
      List.drop_append_of_le_length (by omega)
    rw [List.length_cons, List.length_singleton, hdrop]
    apply subscriberAt?_eq_none_of_few _ hback
    rw [List.length_drop]
    omega
  · rfl

/-- **The number of a station at the front**, in any of its forms. -/
theorem mobileAt?_append (hlead : lead.IsLead) (hnumber : number.IsSubscriber)
    (hback : ∀ c, back.head? = some c → isDecimalDigit c = false) :
    mobileAt? (lead ++ (number ++ back)) = some number := by
  have hfound := subscriberAt?_append hnumber back
  rw [mobileAt?_eq]
  rcases hlead with rfl | rfl | rfl | rfl
  · have hcode := subscriberBehind?_code hnumber hback
    obtain ⟨c, rest, rfl, hleast, _⟩ := hnumber
    have hplus : '+' ≠ c := by
      rintro rfl
      exact absurd hleast (by decide)
    have hzero : '0' ≠ c := by
      rintro rfl
      exact absurd hleast (by decide)
    rw [List.nil_append, hcode, hfound, List.cons_append, subscriberBehind?_of_ne _ _ hplus,
      subscriberBehind?_of_ne _ _ hzero]
    rfl
  · rw [subscriberBehind?_append, hfound, List.singleton_append,
      subscriberBehind?_of_ne _ _ (by decide), subscriberBehind?_of_ne _ _ (by decide)]
    rfl
  · rw [subscriberBehind?_append, hfound, List.cons_append, subscriberBehind?_of_ne _ _ (by decide)]
    rfl
  · rw [subscriberBehind?_append, hfound]
    rfl

/-- In front of a number of a station the code of the country stands only as its lead. -/
theorem subscriberBehind?_code_append {front : Text} (hfront : ∀ d ∈ front, isDecimalDigit d = false)
    (hlead : lead.IsLead) (hnumber : number.IsSubscriber)
    (hback : ∀ c, back.head? = some c → isDecimalDigit c = false) :
    subscriberBehind? ['6', '3'] (front ++ (lead ++ (number ++ back))) = none ∨
      subscriberBehind? ['6', '3'] (front ++ (lead ++ (number ++ back))) = some number := by
  cases front with
  | nil =>
    rw [List.nil_append]
    rcases hlead with rfl | rfl | rfl | rfl
    · rw [List.nil_append]
      exact .inl (subscriberBehind?_code hnumber hback)
    · exact .inl (subscriberBehind?_of_ne _ _ (by decide))
    · exact .inr ((subscriberBehind?_append _ _).trans (subscriberAt?_append hnumber back))
    · exact .inl (subscriberBehind?_of_ne _ _ (by decide))
  | cons d front =>
    refine .inl (subscriberBehind?_of_ne _ _ ?_)
    rintro rfl
    exact absurd (hfront '6' List.mem_cons_self) (by decide)

/-- At a character that is no digit nothing is found, or the number behind it: a plus may stand before a
    code of the country by chance. -/
theorem mobileAt?_cons_append {c : Char} {front : Text} (hc : isDecimalDigit c = false)
    (hfront : ∀ d ∈ front, isDecimalDigit d = false) (hlead : lead.IsLead) (hnumber : number.IsSubscriber)
    (hback : ∀ c, back.head? = some c → isDecimalDigit c = false) :
    mobileAt? (c :: (front ++ (lead ++ (number ++ back)))) = none ∨
      mobileAt? (c :: (front ++ (lead ++ (number ++ back)))) = some number := by
  have hsix : '6' ≠ c := by
    rintro rfl
    exact absurd hc (by decide)
  have hzero : '0' ≠ c := by
    rintro rfl
    exact absurd hc (by decide)
  rw [mobileAt?_eq, subscriberBehind?_of_ne _ _ hsix, subscriberBehind?_of_ne _ _ hzero,
    subscriberAt?_cons_of_not_digit hc, Option.or_none, Option.or_none, Option.or_none]
  by_cases hplus : '+' = c
  · subst hplus
    rw [subscriberBehind?_cons]
    exact subscriberBehind?_code_append hfront hlead hnumber hback
  · exact .inl (subscriberBehind?_of_ne _ _ hplus)

/-- **The number of a station behind other text.** -/
theorem subscriberIn?_append {front : Text} (hfront : ∀ d ∈ front, isDecimalDigit d = false)
    (hlead : lead.IsLead) (hnumber : number.IsSubscriber)
    (hback : ∀ c, back.head? = some c → isDecimalDigit c = false) :
    subscriberIn? (front ++ (lead ++ (number ++ back))) = some number := by
  induction front with
  | nil =>
    have hhere := mobileAt?_append hlead hnumber hback
    rw [List.nil_append]
    cases htext : lead ++ (number ++ back) with
    | nil =>
      have hlength := congrArg List.length htext
      rw [List.length_append, List.length_append, hnumber.length_eq, List.length_nil] at hlength
      omega
    | cons c rest =>
      rw [htext] at hhere
      rw [subscriberIn?, hhere]
  | cons c front ih =>
    have hrest := fun d hd => hfront d (List.mem_cons_of_mem c hd)
    rw [List.cons_append, subscriberIn?]
    rcases mobileAt?_cons_append (hfront c List.mem_cons_self) hrest hlead hnumber hback with h | h
    · rw [h]
      exact ih hrest
    · rw [h]

end OneForm

theorem isSubscriber_of_mobileAt? {t number : Text} (h : mobileAt? t = some number) :
    number.IsSubscriber := by
  obtain ⟨lead, _, hlead⟩ := List.exists_of_findSome?_eq_some h
  obtain ⟨_, hnumber⟩ := Option.ite_none_right_eq_some.mp hlead
  exact (subscriberAt?_eq_some_iff.mp hnumber).1

/-- What is found is a subscriber number. -/
theorem isSubscriber_of_subscriberIn? {t number : Text} (h : subscriberIn? t = some number) :
    number.IsSubscriber := by
  induction t with
  | nil => cases h
  | cons c rest ih =>
    rw [subscriberIn?] at h
    cases hhere : mobileAt? (c :: rest) with
    | none =>
      rw [hhere] at h
      exact ih h
    | some found =>
      rw [hhere] at h
      cases h
      exact isSubscriber_of_mobileAt? hhere

/-- **One form for each number.** In whichever form a subscriber number is written, amid text without digits
    in front and none next behind, it comes out behind the code of the country; and what comes out is its own
    form. -/
theorem mobileNumber?_canonical :
    (∀ front lead number back : Text, (∀ c ∈ front, isDecimalDigit c = false) → lead.IsLead →
      number.IsSubscriber → (∀ c, back.head? = some c → isDecimalDigit c = false) →
      mobileNumber? (front ++ lead ++ number ++ back) = some (countryCode ++ number)) ∧
    ∀ raw number : Text, mobileNumber? raw = some number → mobileNumber? number = some number := by
  have hform : ∀ front lead number back : Text, (∀ c ∈ front, isDecimalDigit c = false) → lead.IsLead →
      number.IsSubscriber → (∀ c, back.head? = some c → isDecimalDigit c = false) →
      mobileNumber? (front ++ lead ++ number ++ back) = some (countryCode ++ number) := by
    intro front lead number back hfront hlead hnumber hback
    rw [mobileNumber?, List.append_assoc, List.append_assoc,
      subscriberIn?_append hfront hlead hnumber hback]
    rfl
  refine ⟨hform, fun raw number h => ?_⟩
  obtain ⟨subscriber, hfound, rfl⟩ := Option.map_eq_some_iff.mp h
  have hagain := hform [] countryCode subscriber [] (fun _ hc => absurd hc List.not_mem_nil)
    (.inr (.inr (.inl rfl))) (isSubscriber_of_subscriberIn? hfound) (fun _ hc => by cases hc)
  rwa [List.nil_append, List.append_nil] at hagain

/-- A bare number that begins with the code of the country, behind a plus, and digits after the text that
    follows it. -/
theorem mobileNumber?_canonical_plus :
    mobileNumber? (Text.ofString "tel:+6312345678 ext 9") = some (Text.ofString "636312345678") ∧
      mobileNumber? (Text.ofString "636312345678") = some (Text.ofString "636312345678") := by
  have hbefore : ∀ c ∈ Text.ofString "tel:+", isDecimalDigit c = false := by
    have hall : (Text.ofString "tel:+").all (fun c => !isDecimalDigit c) = true := by decide
    intro c hc
    simpa using List.all_eq_true.mp hall c hc
  have hsubscriber : Text.IsSubscriber (Text.ofString "6312345678") :=
    ⟨'6', Text.ofString "312345678", rfl, by decide, by decide, rfl, List.all_eq_true.mp (by decide)⟩
  have hbehind : ∀ c, (Text.ofString " ext 9").head? = some c → isDecimalDigit c = false := by
    intro c hc
    obtain rfl : ' ' = c := Option.some.inj hc
    decide
  have hfound := mobileNumber?_canonical.1 (Text.ofString "tel:+") [] (Text.ofString "6312345678")
    (Text.ofString " ext 9") hbefore (.inl rfl) hsubscriber hbehind
  exact ⟨hfound, mobileNumber?_canonical.2 _ _ hfound⟩

end WeatherTelegram
