import WeatherTelegram.Gateway.Route
import WeatherTelegram.Proofs.Gateway.Mobile
import WeatherTelegram.Proofs.Gateway.Traffic
import WeatherTelegram.Proofs.Telegram.Position

/-!
# `Proofs.Gateway.Outcome` — every submission is answered

A gateway whose limit is that of the digits of whole numbers never meets a token that could fail: what it
lets pass is too short for one. So a message that is let pass is a telegram or has the wrong number of
tokens, and the answer is decided by three questions in a fixed order: whether the message is too long,
whether it has the tokens of a layout, and whether it comes from a station.

## Contents
- **The start.** `outcome_startGateway_eq_ok_iff`.
- **Short messages.** `mem_sizes_iff`, `exists_decode_of_length_le`.
- **Answers.** `outcome_receive_tooLong`, `outcome_receive_tokenCount`, `outcome_receive_noMobile`.
- **Questions.** `Gateway.Answers` with one lemma for each answer, `Gateway.exists_answer`.
- **The outcome.** `Request.Submits`, `receive_answers`.
-/

namespace WeatherTelegram

/-! ## The start -/

/-- **A gateway starts** exactly with a limit that is a positive whole number, and keeps what was given. -/
theorem outcome_startGateway_eq_ok_iff {environment : List (Text × Text)} {g : Gateway} :
    (startGateway environment).outcome = .ok g ↔
      g.limitText = (environment.lookup limitVariable).getD defaultLimitText ∧
        g.limitText.wholeNumber? = some g.limit ∧ 1 ≤ g.limit := by
  unfold startGateway
  simp only
  split
  · rename_i hnone
    constructor
    · intro h
      cases h
    · rintro ⟨htext, hlimit, _⟩
      rw [htext, hnone] at hlimit
      cases hlimit
  · rename_i limit hsome
    split
    · constructor
      · intro h
        cases h
      · rintro ⟨htext, hlimit, hpositive⟩
        rw [htext, hsome] at hlimit
        cases hlimit
        omega
    · constructor
      · intro h
        cases h
        exact ⟨rfl, hsome, Int.not_lt.mp ‹_›⟩
      · rintro ⟨htext, hlimit, _⟩
        rw [htext, hsome] at hlimit
        cases hlimit
        rw [← htext]

/-! ## Short messages -/

theorem mem_sizes_iff {n : ℕ} : n ∈ [19, 20, 23, 24] ↔ ∃ v : Variant, n = v.size := by
  constructor
  · intro h
    simp only [List.mem_cons, List.not_mem_nil, or_false] at h
    rcases h with rfl | rfl | rfl | rfl
    · exact ⟨.v19, rfl⟩
    · exact ⟨.v20, rfl⟩
    · exact ⟨.v23, rfl⟩
    · exact ⟨.v24, rfl⟩
  · rintro ⟨v, rfl⟩
    cases v <;> decide

/-- **A message too short for an overlong token** is read if it has the tokens of a layout. -/
theorem exists_decode_of_length_le {raw : Text} {now : Instant} (hnow : now.IsAware)
    (hlength : raw.length ≤ digitLimit) {v : Variant} (hv : (tokens (clean raw)).length = v.size) :
    ∃ r, (decode raw now).outcome = .ok r := by
  cases hdecode : (decode raw now).outcome with
  | ok r => exact ⟨r, rfl⟩
  | error fault =>
    rcases (decode_error_iff raw hnow fault).mp hdecode with ⟨hne, _⟩ | ⟨_, _, token, _, hmem, hlong, _⟩
    · exact absurd hv (hne v)
    · have hshort := length_le_of_mem_tokens (List.of_mem_zip hmem).2
      exact absurd hlong.lt_length (by omega)

/-! ## Answers -/

section

variable {g : Gateway} {now : Instant} {s : Submission}

theorem outcome_receive_tooLong (h : g.limit < s.message.length) :
    (receive g now s).outcome = .ok (.detail 400 (tooLongDetail g.limit)) := by
  unfold receive
  rw [if_pos h]

theorem outcome_receive_tokenCount (hlength : s.message.length ≤ g.limit) {count : ℤ}
    (hdecode : (decode s.message now).outcome = .error (.tokenCount count)) :
    (receive g now s).outcome = .ok (.detail 400 (Fault.tokenCount count).message) := by
  unfold receive
  rw [if_neg (by omega)]
  simp only [hdecode]
  rfl

theorem outcome_receive_noMobile (hlength : s.message.length ≤ g.limit) {r : Reading}
    (hdecode : (decode s.message now).outcome = .ok r) (hnumber : mobileNumber? s.number = none) :
    (receive g now s).outcome = .ok (.detail 400 (invalidNumberDetail s.number)) := by
  unfold receive
  rw [if_neg (by omega)]
  simp only [hdecode, Traced.outcome_bind, receiveReading, hnumber]
  rfl

theorem Answer.detail_inj {k : ℕ} {t u : Text} : Answer.detail k t = .detail k u ↔ t = u := by
  simp [Answer.detail]

theorem Answer.ne_detail {k l : ℕ} (h : k ≠ l) (body : Json) (t : Text) :
    ⟨k, body⟩ ≠ Answer.detail l t := by
  simp [Answer.detail, h]

-- the details differ in their ninth character
theorem getElem?_tooLongDetail (limit : ℤ) : (tooLongDetail limit)[8]? = some 'e' := rfl

theorem getElem?_tokenCount (count : ℤ) : (Fault.tokenCount count).message[8]? = some 's' := rfl

theorem getElem?_invalidNumberDetail (number : Text) : (invalidNumberDetail number)[8]? = some 'm' := rfl

theorem tokenCount_ne_tooLongDetail (count limit : ℤ) :
    (Fault.tokenCount count).message ≠ tooLongDetail limit := by
  apply ne_of_apply_ne (·[8]?)
  rw [getElem?_tokenCount, getElem?_tooLongDetail]
  decide

theorem invalidNumberDetail_ne_tooLongDetail (number : Text) (limit : ℤ) :
    invalidNumberDetail number ≠ tooLongDetail limit := by
  apply ne_of_apply_ne (·[8]?)
  rw [getElem?_invalidNumberDetail, getElem?_tooLongDetail]
  decide

theorem invalidNumberDetail_ne_tokenCount (number : Text) (count : ℤ) :
    invalidNumberDetail number ≠ (Fault.tokenCount count).message := by
  apply ne_of_apply_ne (·[8]?)
  rw [getElem?_invalidNumberDetail, getElem?_tokenCount]
  decide

/-! ## Questions -/

/-- The number of tokens of a submission. -/
def Submission.tokenCount (s : Submission) : ℕ := (tokens (clean s.message)).length

/-- What the answer to a submission is: the length of the message decides first, the number of its tokens
    next, and the number that it was sent from last. One that is refused is answered with a detail alone, and
    one that is taken with the number of the station, the layout that its tokens make up and the reading that
    was decoded. -/
structure Gateway.Answers (g : Gateway) (now : Instant) (s : Submission) (a : Answer) : Prop where
  status : a.status = 200 ∨ a.status = 400
  refused : a.status ≠ 200 → ∃ detail, a = .detail 400 detail ∧
    (a.body.member? (Text.ofString "detail")).bind Json.toText? = some detail
  tooLong : a = .detail 400 (tooLongDetail g.limit) ↔ g.limit < s.message.length
  noTelegram : s.message.length ≤ g.limit →
    (a = .detail 400 (Fault.tokenCount s.tokenCount).message ↔ s.tokenCount ∉ [19, 20, 23, 24])
  noMobile : s.message.length ≤ g.limit → s.tokenCount ∈ [19, 20, 23, 24] →
    (a = .detail 400 (invalidNumberDetail s.number) ↔ ¬ s.number.HoldsMobile)
  taken : s.message.length ≤ g.limit → s.tokenCount ∈ [19, 20, 23, 24] → s.number.HoldsMobile →
    ∃ v number r, s.tokenCount = v.size ∧ mobileNumber? s.number = some number ∧
      (decode s.message now).outcome = .ok r ∧
      (decodeAs v (clean s.message) (tokens (clean s.message)) now).outcome = .ok r ∧
      a.Acknowledges number v r

namespace Gateway

theorem answers_tooLong (h : g.limit < s.message.length) :
    g.Answers now s (.detail 400 (tooLongDetail g.limit)) where
  status := .inr rfl
  refused := fun _ => ⟨_, rfl, rfl⟩
  tooLong := iff_of_true rfl h
  noTelegram := fun hle => absurd h (Int.not_lt.mpr hle)
  noMobile := fun hle => absurd h (Int.not_lt.mpr hle)
  taken := fun hle => absurd h (Int.not_lt.mpr hle)

theorem answers_noTelegram (hlength : s.message.length ≤ g.limit)
    (hcount : s.tokenCount ∉ [19, 20, 23, 24]) :
    g.Answers now s (.detail 400 (Fault.tokenCount s.tokenCount).message) where
  status := .inr rfl
  refused := fun _ => ⟨_, rfl, rfl⟩
  tooLong := by
    rw [Answer.detail_inj]
    exact iff_of_false (tokenCount_ne_tooLongDetail _ _) (Int.not_lt.mpr hlength)
  noTelegram := fun _ => iff_of_true rfl hcount
  noMobile := fun _ h => absurd h hcount
  taken := fun _ h => absurd h hcount

theorem answers_noMobile (hlength : s.message.length ≤ g.limit)
    (hcount : s.tokenCount ∈ [19, 20, 23, 24]) (hmobile : ¬ s.number.HoldsMobile) :
    g.Answers now s (.detail 400 (invalidNumberDetail s.number)) where
  status := .inr rfl
  refused := fun _ => ⟨_, rfl, rfl⟩
  tooLong := by
    rw [Answer.detail_inj]
    exact iff_of_false (invalidNumberDetail_ne_tooLongDetail _ _) (Int.not_lt.mpr hlength)
  noTelegram := fun _ => by
    rw [Answer.detail_inj]
    exact iff_of_false (invalidNumberDetail_ne_tokenCount _ _) (not_not.mpr hcount)
  noMobile := fun _ _ => iff_of_true rfl hmobile
  taken := fun _ _ h => absurd h hmobile

theorem answers_taken (hlength : s.message.length ≤ g.limit) {v : Variant} (hv : s.tokenCount = v.size)
    {number : Text} (hnumber : mobileNumber? s.number = some number) {r : Reading}
    (hdecode : (decode s.message now).outcome = .ok r) :
    g.Answers now s ⟨200, receiptJson number v.size r⟩ := by
  have hcount : s.tokenCount ∈ [19, 20, 23, 24] := mem_sizes_iff.mpr ⟨v, hv⟩
  have hmobile : s.number.HoldsMobile := exists_mobileNumber?_iff.mp ⟨number, hnumber⟩
  have hlayout := hdecode
  rw [outcome_decode_of_ofMessage (ofMessage_eq_ok_iff.mpr hv)] at hlayout
  constructor
  · exact .inl rfl
  · exact fun h => absurd rfl h
  · exact iff_of_false (Answer.ne_detail (by decide) _ _) (Int.not_lt.mpr hlength)
  · exact fun _ => iff_of_false (Answer.ne_detail (by decide) _ _) (not_not.mpr hcount)
  · exact fun _ _ => iff_of_false (Answer.ne_detail (by decide) _ _) (not_not.mpr hmobile)
  · exact fun _ _ _ => ⟨v, number, r, hv, hnumber, hdecode, hlayout,
      acknowledges_receiptJson hdecode number v⟩

/-- **A gateway whose limit is short enough always answers.** -/
theorem exists_answer (hlimit : g.limit ≤ digitLimit) (hnow : now.IsAware) (s : Submission) :
    ∃ a, (receive g now s).outcome = .ok a ∧ g.Answers now s a := by
  rcases Int.lt_or_le g.limit s.message.length with hlong | hlength
  · exact ⟨_, outcome_receive_tooLong hlong, answers_tooLong hlong⟩
  by_cases hcount : s.tokenCount ∈ [19, 20, 23, 24]
  · obtain ⟨v, hv⟩ := mem_sizes_iff.mp hcount
    obtain ⟨r, hr⟩ := exists_decode_of_length_le hnow (by omega) hv
    by_cases hmobile : s.number.HoldsMobile
    · obtain ⟨number, hnumber⟩ := exists_mobileNumber?_iff.mpr hmobile
      exact ⟨_, outcome_receive hlength hr (ofMessage_eq_ok_iff.mpr hv) hnumber,
        answers_taken hlength hv hnumber hr⟩
    · exact ⟨_, outcome_receive_noMobile hlength hr (mobileNumber?_eq_none_iff.mpr hmobile),
        answers_noMobile hlength hcount hmobile⟩
  · have hnone : ∀ v : Variant, s.tokenCount ≠ v.size := fun v hv => hcount (mem_sizes_iff.mpr ⟨v, hv⟩)
    have hdecode := outcome_decode_of_ofMessage_error (ofTokenCount_of_ne hnone) now
    exact ⟨_, outcome_receive_tokenCount hlength hdecode, answers_noTelegram hlength hcount⟩

end Gateway

end

/-! ## The outcome -/

/-- A request that hands a submission to the webhook. -/
structure Request.Submits (r : Request) (s : Submission) : Prop where
  route : Route.ofPath? r.path = some .webhook
  method : r.method = Route.webhook.method
  body : Submission.ofBody r.body = .ok s

theorem respond_of_submits {r : Request} {s : Submission} (h : r.Submits s) (g : Gateway) (now : Instant) :
    g.respond now r = receive g now s := by
  simp [Gateway.respond, h.route, h.method, h.body]

/-- **Every submission is answered**, by a gateway that started with a limit of at most 4300 characters:
    with 400 and what is wrong with it, or with 200, the number of the station, the layout and what was read;
    and that is what comes of every request that hands it in. -/
theorem receive_answers {environment : List (Text × Text)} {g : Gateway}
    (hstart : (startGateway environment).outcome = .ok g) (hlimit : g.limit ≤ 4300) {now : Instant}
    (hnow : now.IsAware) (s : Submission) :
    (g.limitText.wholeNumber? = some g.limit ∧ 1 ≤ g.limit) ∧
      ∃ a, (receive g now s).outcome = .ok a ∧ g.Answers now s a ∧
        ∀ r : Request, r.Submits s → (g.respond now r).outcome = .ok a := by
  obtain ⟨_, htext, hpositive⟩ := outcome_startGateway_eq_ok_iff.mp hstart
  obtain ⟨a, ha, hanswers⟩ := Gateway.exists_answer hlimit hnow s
  refine ⟨⟨htext, hpositive⟩, a, ha, hanswers, fun r hr => ?_⟩
  rw [respond_of_submits hr, ha]

/-- A full telegram from that station, as the body of a request. -/
def sampleRequest : Request :=
  ⟨Text.ofString "POST", Text.ofString "/v1/ptexter",
    Text.ofString "\x7b\"number\": \"09171234567\", \"msg\": \"" ++ fullMessage ++ Text.ofString "\"\x7d"⟩

theorem submits_sampleRequest : sampleRequest.Submits ⟨sampleSender, fullMessage⟩ :=
  ⟨by decide +kernel, rfl, by decide +kernel⟩

theorem length_fullMessage_le : (fullMessage.length : ℤ) ≤ 480 := by decide +kernel

theorem receive_answers_sample : (startGateway []).outcome = .ok ⟨480, defaultLimitText⟩ ∧
    sampleReceipt.IsAware ∧ sampleRequest.Submits ⟨sampleSender, fullMessage⟩ ∧
    ∃ r a, (decode fullMessage sampleReceipt).outcome = .ok r ∧
      (Gateway.respond ⟨480, defaultLimitText⟩ sampleReceipt sampleRequest).outcome = .ok a ∧
      a.Acknowledges (Text.ofString "639171234567") .v23 r := by
  have hnow : sampleReceipt.IsAware := ⟨0, rfl, by decide⟩
  obtain ⟨_, a, _, hanswers, hrespond⟩ :=
    receive_answers outcome_startGateway_nil (by decide) hnow ⟨sampleSender, fullMessage⟩
  have hnumber := mobileNumber?_sampleSender
  have hsize : Submission.tokenCount ⟨sampleSender, fullMessage⟩ = 23 :=
    ofMessage_eq_ok_iff.mp ofMessage_fullMessage
  obtain ⟨v, number, r, hv, hsome, hdecode, _, hholds⟩ := hanswers.taken length_fullMessage_le
    (mem_sizes_iff.mpr ⟨.v23, hsize⟩) (exists_mobileNumber?_iff.mp ⟨_, hnumber⟩)
  obtain rfl := Option.some.inj (hnumber.symm.trans hsome)
  obtain rfl : v = .v23 := size_injective (hv.symm.trans hsize)
  exact ⟨outcome_startGateway_nil, hnow, submits_sampleRequest, r, a, hdecode,
    hrespond _ submits_sampleRequest, hholds⟩

end WeatherTelegram
