import WeatherTelegram.Proofs.Gateway.Outcome

/-!
# `Proofs.Gateway.StationKey` — the numbers that stations are keyed by

A station is keyed by the code of its country and ten ASCII digits. The search asks for an ASCII digit in
the first place of a subscriber number only and copies the rest as it is written. So what comes out is a
key exactly if it is written in ASCII digits, which a text without digits of other scripts makes sure of;
and where a text has such digits, one number comes out in more than one form.

## Contents
- **Keys.** `Text.IsStationKey`, `isStationKey_iff`.
- **Origins.** `infix_of_mobileAt?`, `infix_of_subscriberIn?`.
- **Answers.** `exists_number_of_receive`.
- **Together.** `mobileNumber?_form`; `mobileNumber?_otherScript`.
-/

namespace WeatherTelegram

/-! ## Keys -/

/-- The form by which a station is keyed: the code of the country, an ASCII digit from 1 to 9 and nine ASCII
    digits. -/
def Text.IsStationKey (t : Text) : Prop :=
  ∃ c rest, t = '6' :: '3' :: c :: rest ∧ '1' ≤ c ∧ c ≤ '9' ∧ rest.length = 9 ∧
    ∀ d ∈ rest, d.isDigit = true

theorem Text.IsStationKey.isDigit {t : Text} (h : t.IsStationKey) {d : Char} (hd : d ∈ t) :
    d.isDigit = true := by
  obtain ⟨c, rest, rfl, hleast, hmost, _, hrest⟩ := h
  simp only [List.mem_cons] at hd
  rcases hd with rfl | rfl | rfl | hd
  · rfl
  · rfl
  · exact isDigit_of_between hleast hmost
  · exact hrest d hd

/-- **A subscriber number makes a key** exactly if all its digits are ASCII digits. -/
theorem isStationKey_iff {number : Text} (h : number.IsSubscriber) :
    (countryCode ++ number).IsStationKey ↔ ∀ d ∈ number, d.isDigit = true := by
  constructor
  · exact fun hkey d hd => hkey.isDigit (List.mem_append_right countryCode hd)
  · intro hdigits
    obtain ⟨c, rest, rfl, hleast, hmost, hlength, _⟩ := h
    exact ⟨c, rest, rfl, hleast, hmost, hlength, fun d hd => hdigits d (List.mem_cons_of_mem c hd)⟩

/-! ## Origins -/

/-- What is found at the front of a text stands in it. -/
theorem infix_of_mobileAt? {t number : Text} (h : mobileAt? t = some number) : number <:+: t := by
  obtain ⟨lead, _, hlead⟩ := List.exists_of_findSome?_eq_some h
  obtain ⟨_, hnumber⟩ := Option.ite_none_right_eq_some.mp hlead
  exact (subscriberAt?_eq_some_iff.mp hnumber).2.isInfix.trans (List.drop_suffix _ t).isInfix

/-- What is found in a text stands in it. -/
theorem infix_of_subscriberIn? {t number : Text} (h : subscriberIn? t = some number) : number <:+: t := by
  induction t with
  | nil => cases h
  | cons c rest ih =>
    rw [subscriberIn?] at h
    cases hhere : mobileAt? (c :: rest) with
    | none =>
      rw [hhere] at h
      exact List.infix_cons (ih h)
    | some found =>
      rw [hhere] at h
      cases h
      exact infix_of_mobileAt? hhere

/-- A subscriber number comes out as it is written. -/
theorem mobileNumber?_of_isSubscriber {number : Text} (h : number.IsSubscriber) :
    mobileNumber? number = some (countryCode ++ number) := by
  have hfound : subscriberIn? ([] ++ ([] ++ (number ++ []))) = some number :=
    subscriberIn?_append (fun _ hc => absurd hc List.not_mem_nil) (.inl rfl) h (fun _ hc => by cases hc)
  rw [List.nil_append, List.nil_append, List.append_nil] at hfound
  rw [mobileNumber?, hfound]
  rfl

/-! ## Answers -/

theorem exists_number_of_receiveReading {s : Submission} {r : Reading} {a : Answer}
    (h : (receiveReading s r).outcome = .ok a) (hstatus : a.status = 200) :
    ∃ number, mobileNumber? s.number = some number ∧
      a.body.member? (Text.ofString "mobile_number") = some (.text number) := by
  cases hnumber : mobileNumber? s.number with
  | none =>
    simp only [receiveReading, hnumber] at h
    cases h
    cases hstatus
  | some number =>
    rw [outcome_receiveReading hnumber, map_ok_iff] at h
    obtain ⟨v, _, rfl⟩ := h
    exact ⟨number, rfl, rfl⟩

/-- **A submission that is taken** is answered with the number that was found in that of its sender. -/
theorem exists_number_of_receive {g : Gateway} {now : Instant} {s : Submission} {a : Answer}
    (h : (receive g now s).outcome = .ok a) (hstatus : a.status = 200) :
    ∃ number, mobileNumber? s.number = some number ∧
      a.body.member? (Text.ofString "mobile_number") = some (.text number) := by
  unfold receive at h
  split at h
  · cases h
    cases hstatus
  · dsimp only at h
    split at h
    · exact exists_number_of_receiveReading h hstatus
    · cases h
      cases hstatus
    · cases h

/-! ## Together -/

/-- **The form of the number that comes out** of a text is the code of the country and a subscriber number, ten
    decimal digits as the text has them; and each of those comes out of itself. It is the key of a station
    exactly if it is written in ASCII digits, as in every text without digits of other scripts. It is the
    number in each answer to a submission from there that is taken. -/
theorem mobileNumber?_form (raw : Text) :
    (raw.IsSubscriber → mobileNumber? raw = some (countryCode ++ raw)) ∧
    (∀ key : Text, mobileNumber? raw = some key →
      key.length = 12 ∧
      (∃ number : Text, number.IsSubscriber ∧ number <:+: raw ∧ key = countryCode ++ number) ∧
      (key.IsStationKey ↔ ∀ d ∈ key, d.isDigit = true) ∧
      ((∀ d ∈ raw, isDecimalDigit d = true → d.isDigit = true) → key.IsStationKey)) ∧
    ∀ (g : Gateway) (now : Instant) (r : Request) (message : Text) (a : Answer), r.Submits ⟨raw, message⟩ →
      (g.respond now r).outcome = .ok a → a.status = 200 →
      ∃ key, mobileNumber? raw = some key ∧
        a.body.member? (Text.ofString "mobile_number") = some (.text key) := by
  refine ⟨mobileNumber?_of_isSubscriber, fun key h => ?_, fun g now r message a hsubmits h hstatus => ?_⟩
  · obtain ⟨number, hfound, rfl⟩ := Option.map_eq_some_iff.mp h
    have hnumber := isSubscriber_of_subscriberIn? hfound
    have hpart := infix_of_subscriberIn? hfound
    refine ⟨?_, ⟨number, hnumber, hpart, rfl⟩, ⟨fun hkey d => hkey.isDigit, fun hdigits => ?_⟩,
      fun hplain => ?_⟩
    · rw [List.length_append, hnumber.length_eq]
      rfl
    · exact (isStationKey_iff hnumber).mpr fun d hd =>
        hdigits d (List.mem_append_right countryCode hd)
    · exact (isStationKey_iff hnumber).mpr fun d hd =>
        hplain d (hpart.subset hd) (hnumber.isDecimalDigit hd)
  · rw [respond_of_submits hsubmits] at h
    exact exists_number_of_receive h hstatus

/-- A gateway takes the full telegram from every station. -/
theorem exists_receipt_fullMessage {sender number : Text} (h : mobileNumber? sender = some number) :
    ∃ r, (receive ⟨480, defaultLimitText⟩ sampleReceipt ⟨sender, fullMessage⟩).outcome =
      .ok ⟨200, receiptJson number Variant.v23.size r⟩ := by
  obtain ⟨r, hr⟩ := exists_decode_fullMessage
  exact ⟨r, outcome_receive length_fullMessage_le hr ofMessage_fullMessage h⟩

/-- The number of a station, and the answer to a request of it. -/
theorem mobileNumber?_form_plain :
    mobileNumber? sampleSender = some (Text.ofString "639171234567") ∧
    (∀ d ∈ sampleSender, isDecimalDigit d = true → d.isDigit = true) ∧
    (Text.ofString "639171234567").IsStationKey ∧
    sampleRequest.Submits ⟨sampleSender, fullMessage⟩ ∧
    ∃ a, (Gateway.respond ⟨480, defaultLimitText⟩ sampleReceipt sampleRequest).outcome = .ok a ∧
      a.status = 200 ∧
      a.body.member? (Text.ofString "mobile_number") = some (.text (Text.ofString "639171234567")) := by
  obtain ⟨_, hform, hanswer⟩ := mobileNumber?_form sampleSender
  have hplain : ∀ d ∈ sampleSender, isDecimalDigit d = true → d.isDigit = true := fun d hd _ =>
    List.all_eq_true.mp (show sampleSender.all Char.isDigit = true by decide) d hd
  have hsender := mobileNumber?_sampleSender
  obtain ⟨r, hrespond⟩ := exists_receipt_fullMessage hsender
  rw [← respond_of_submits submits_sampleRequest] at hrespond
  obtain ⟨key, hkey, hmember⟩ := hanswer _ _ _ _ _ submits_sampleRequest hrespond rfl
  obtain rfl := Option.some.inj (hsender.symm.trans hkey)
  exact ⟨hsender, hplain, (hform _ hsender).2.2.2 hplain, submits_sampleRequest, _, hrespond, rfl, hmember⟩

/-- The number of that station, with a last digit of another script. -/
def otherScriptSender : Text := Text.ofString "0917123456٧"

/-- **A number that comes out need not be a key**: with a last digit of another script the number of a
    station has a second form, and in this form it is in the answer to a telegram. -/
theorem mobileNumber?_otherScript :
    mobileNumber? otherScriptSender = some (Text.ofString "63917123456٧") ∧
    ¬ (Text.ofString "63917123456٧").IsStationKey ∧
    mobileNumber? sampleSender = some (Text.ofString "639171234567") ∧
    digitsOf? (Text.ofString "63917123456٧") = digitsOf? (Text.ofString "639171234567") ∧
    ∃ a, (receive ⟨480, defaultLimitText⟩ sampleReceipt ⟨otherScriptSender, fullMessage⟩).outcome = .ok a ∧
      a.status = 200 ∧
      a.body.member? (Text.ofString "mobile_number") = some (.text (Text.ofString "63917123456٧")) := by
  have hfound : mobileNumber? otherScriptSender = some (Text.ofString "63917123456٧") := by decide +kernel
  obtain ⟨r, hreceive⟩ := exists_receipt_fullMessage hfound
  refine ⟨hfound, fun hkey => ?_, mobileNumber?_sampleSender, by decide +kernel, _, hreceive, rfl, rfl⟩
  exact absurd (hkey.isDigit (d := '٧') (by decide)) (by decide)

end WeatherTelegram
