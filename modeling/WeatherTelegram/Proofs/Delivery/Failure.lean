import WeatherTelegram.Proofs.Delivery.Replay
import WeatherTelegram.Proofs.Delivery.Simulation

/-!
# `Proofs.Delivery.Failure` — which failures a delivery absorbs, and which end a run

A connection that cannot be made and an answer that does not come in time count as a telegram that was not
taken. Any other failed request, such as a connection that breaks while the answer is read, comes out of the
delivery as it is. It is counted neither as sent nor as failed, and a replay or a simulation ends with that
post.

## Contents
- **One delivery.** `Reply.escape?`, `Reply.escape?_eq_none_iff`, `Reply.outcome`, `Sender.outcome_deliver_eq`.
- **Deliveries one by one.** `Sender.outcomes`, `Sender.outcomes_eq`, `Tally.foldl_after`.
- **Runs.** `Replies.escape?`, `Replies.made`, `EndsAt`, `Sender.deliverAll_until`.
- **Replays and simulations.** `endsAt_replay`, `endsAt_simulate`.
- **Together.** `deliver_absorbs`; `deliver_brokenOff`.
-/

namespace WeatherTelegram

/-! ## One delivery -/

/-- The failure that comes out of a delivery, if the reply is one that is not absorbed. -/
def Reply.escape? : Reply → Option Failure
  | .answered .. => none
  | .failed failure => if failure.kind.isAbsorbed then none else some failure

theorem FailureKind.isAbsorbed_iff {kind : FailureKind} :
    kind.isAbsorbed = true ↔ kind = .connect ∨ kind.isTimeout = true := by
  cases kind <;> simp [isAbsorbed, isTimeout]

/-- **Ordinary replies are those that are absorbed.** -/
theorem Reply.escape?_eq_none_iff {reply : Reply} : reply.escape? = none ↔ reply.IsOrdinary := by
  constructor
  · intro h
    cases reply with
    | answered status body => exact .answered status body
    | failed failure =>
      obtain ⟨kind, message⟩ := failure
      have habsorbed : kind.isAbsorbed = true := by
        by_contra hnot
        rw [escape?, if_neg hnot] at h
        cases h
      rcases FailureKind.isAbsorbed_iff.mp habsorbed with rfl | hlate
      · exact .unconnected message
      · exact .late hlate
  · rintro (⟨status, body⟩ | message | hlate)
    · rfl
    · rfl
    · rw [escape?, if_pos (FailureKind.isAbsorbed_of_isTimeout hlate)]

theorem Reply.escape?_eq_some_iff {reply : Reply} {failure : Failure} : reply.escape? = some failure ↔
    reply = .failed failure ∧ failure.kind ≠ .connect ∧ failure.kind.isTimeout = false := by
  cases reply with
  | answered status body => simp [escape?]
  | failed other =>
    have habsorbed : other.kind.isAbsorbed = true ↔ _ := FailureKind.isAbsorbed_iff
    cases h : other.kind.isAbsorbed with
    | true =>
      rw [h] at habsorbed
      rw [escape?, if_pos h]
      constructor
      · nofun
      · rintro ⟨heq, hconnect, hlate⟩
        cases heq
        rcases habsorbed.mp rfl with hkind | hkind
        · exact absurd hkind hconnect
        · rw [hlate] at hkind
          cases hkind
    | false =>
      rw [h] at habsorbed
      rw [escape?, h]
      constructor
      · rintro ⟨⟩
        refine ⟨rfl, fun hkind => ?_, Bool.eq_false_iff.mpr fun hkind => ?_⟩
        · exact Bool.false_ne_true (habsorbed.mpr (.inl hkind))
        · exact Bool.false_ne_true (habsorbed.mpr (.inr hkind))
      · rintro ⟨heq, _⟩
        cases heq
        rfl

/-- What a delivery comes to: a failure that escapes, or whether the telegram was taken. -/
def Reply.outcome (reply : Reply) : Except Failure Bool :=
  match reply.escape? with
  | some failure => .error failure
  | none => .ok reply.isTaken

namespace Sender

variable {s : Sender}

theorem outcome_deliver_escaped {failure : Failure} (h : failure.kind.isAbsorbed = false)
    (number message : Text) : (s.deliver (.failed failure) number message).outcome = .error failure := by
  obtain ⟨url, timeout, shared⟩ := s
  cases shared <;> simp only [deliver, h] <;> rfl

/-- **What a delivery comes to** depends on its reply alone. -/
theorem outcome_deliver_eq (s : Sender) (reply : Reply) (number message : Text) :
    (s.deliver reply number message).outcome = reply.outcome := by
  unfold Reply.outcome
  split
  · rename_i failure h
    obtain ⟨rfl, hconnect, hlate⟩ := Reply.escape?_eq_some_iff.mp h
    apply outcome_deliver_escaped
    rw [Bool.eq_false_iff, Ne, FailureKind.isAbsorbed_iff, not_or, hlate]
    exact ⟨hconnect, Bool.false_ne_true⟩
  · rename_i h
    exact outcome_deliver (Reply.escape?_eq_none_iff.mp h) number message

end Sender

/-! ## Deliveries one by one -/

/-- What becomes of each telegram of a list, posted one after the other whatever became of those before. -/
def Sender.outcomes (s : Sender) : Replies → List (Text × Text) → List (Except Failure Bool)
  | _, [] => []
  | replies, (number, message) :: rest =>
    (s.deliver replies.head number message).outcome :: s.outcomes replies.tail rest

theorem Sender.outcomes_eq (s : Sender) (replies : Replies) (rows : List (Text × Text)) :
    s.outcomes replies rows = (replies.first rows.length).map Reply.outcome := by
  induction rows generalizing replies with
  | nil => simp [outcomes]
  | cons row rows ih =>
    rw [outcomes, ih, outcome_deliver_eq, List.length_cons, Replies.first_succ, List.map_cons]

/-- Whether a reply is absorbed without the telegram being taken. -/
def Reply.isMissed (reply : Reply) : Bool := reply.escape?.isNone && !reply.isTaken

/-- A reply is that of a telegram that was taken or missed, or a failure that escapes. -/
theorem Reply.cases_outcome (reply : Reply) :
    (reply.isTaken = true ∧ reply.isMissed = false ∧ reply.escape?.isSome = false ∧
      reply.outcome = .ok true) ∨
    (reply.isTaken = false ∧ reply.isMissed = true ∧ reply.escape?.isSome = false ∧
      reply.outcome = .ok false) ∨
    ∃ failure, reply.isTaken = false ∧ reply.isMissed = false ∧ reply.escape?.isSome = true ∧
      reply.outcome = .error failure := by
  unfold isMissed Reply.outcome
  cases hescape : reply.escape? with
  | some failure =>
    obtain ⟨rfl, _⟩ := escape?_eq_some_iff.mp hescape
    exact .inr (.inr ⟨failure, rfl, rfl, rfl, rfl⟩)
  | none =>
    cases htaken : reply.isTaken with
    | true => exact .inl ⟨rfl, rfl, rfl, rfl⟩
    | false => exact .inr (.inl ⟨rfl, rfl, rfl, rfl⟩)

/-- **The tally of deliveries**: taken telegrams are sent, missed ones failed, and a failure that escapes is
    neither. -/
theorem Tally.foldl_after (t : Tally) (replies : List Reply) :
    (replies.map Reply.outcome).foldl Tally.after t =
      ⟨t.sent + replies.countP Reply.isTaken, t.failed + replies.countP Reply.isMissed⟩ := by
  induction replies generalizing t with
  | nil => rfl
  | cons reply replies ih =>
    rw [List.map_cons, List.foldl_cons, ih, List.countP_cons, List.countP_cons]
    rcases reply.cases_outcome with
      ⟨htaken, hmissed, _, h⟩ | ⟨htaken, hmissed, _, h⟩ | ⟨_, htaken, hmissed, _, h⟩ <;>
      simp only [h, htaken, hmissed, after, Tally.mk.injEq, ↓reduceIte, Bool.false_eq_true] <;>
      omega

/-- Every reply is one of the three. -/
theorem Reply.countP_total (replies : List Reply) :
    replies.countP Reply.isTaken + replies.countP Reply.isMissed + replies.countP (·.escape?.isSome) =
      replies.length := by
  induction replies with
  | nil => rfl
  | cons reply replies ih =>
    rw [List.countP_cons, List.countP_cons, List.countP_cons, List.length_cons]
    rcases reply.cases_outcome with
      ⟨htaken, hmissed, hescape, _⟩ | ⟨htaken, hmissed, hescape, _⟩ | ⟨_, htaken, hmissed, hescape, _⟩ <;>
      simp only [htaken, hmissed, hescape, ↓reduceIte, Bool.false_eq_true] <;>
      omega

/-! ## Runs -/

namespace Replies

/-- The first failure that escapes among the replies to the first requests. -/
def escape? (r : Replies) (n : ℕ) : Option Failure := (r.first n).findSome? Reply.escape?

/-- How many of the first requests are made: all of them, or those up to the first failure that escapes. -/
def made (r : Replies) (n : ℕ) : ℕ := min n (((r.first n).takeWhile (·.escape?.isNone)).length + 1)

variable {r : Replies} {failure : Failure}

@[simp] theorem escape?_zero (r : Replies) : r.escape? 0 = none := by simp [escape?]

@[simp] theorem made_zero (r : Replies) : r.made 0 = 0 := Nat.zero_min _

theorem made_le (r : Replies) (n : ℕ) : r.made n ≤ n := Nat.min_le_left ..

theorem escape?_succ (r : Replies) (n : ℕ) : r.escape? (n + 1) = r.head.escape?.or (r.tail.escape? n) := by
  rw [escape?, first_succ, List.findSome?_cons]
  cases r.head.escape? <;> rfl

theorem made_succ_of_none (h : r.head.escape? = none) (n : ℕ) : r.made (n + 1) = r.tail.made n + 1 := by
  simp only [made, first_succ, List.takeWhile_cons, h, Option.isNone_none, ↓reduceIte, List.length_cons]
  omega

theorem made_succ_of_some (h : r.head.escape? = some failure) (n : ℕ) : r.made (n + 1) = 1 := by
  simp only [made, first_succ, List.takeWhile_cons, h, Option.isNone_some, Bool.false_eq_true, ↓reduceIte,
    List.length_nil]
  omega

end Replies

/-- How a run over `n` requests ends: after the last of them, or with the first failure that escapes, which is
    that of its last post. -/
structure EndsAt {ε α : Type} (replies : Replies) (n : ℕ) (asFault : Failure → ε) (posts : List Post)
    (outcome : Except ε α) : Prop where
  length : posts.length = replies.made n
  through : replies.escape? n = none → ∃ a, outcome = .ok a
  ended : ∀ failure, replies.escape? n = some failure → outcome = .error (asFault failure)

/-- **A run goes on up to the first failure that escapes.** -/
theorem Sender.deliverAll_until (s : Sender) (replies : Replies) (tally : Tally) (rows : List (Text × Text)) :
    (s.deliverAll replies tally rows).posts = (rows.take (replies.made rows.length)).map s.postOf ∧
      (s.deliverAll replies tally rows).outcome =
        match replies.escape? rows.length with
        | none => .ok (tally.afterAll (replies.first rows.length))
        | some failure => .error failure := by
  induction rows generalizing replies tally with
  | nil => exact ⟨by simp [deliverAll], by simp [deliverAll]⟩
  | cons row rows ih =>
    obtain ⟨number, message⟩ := row
    have hfirst := s.outcome_deliver_eq replies.head number message
    rw [List.length_cons, Replies.escape?_succ]
    cases hescape : replies.head.escape? with
    | some failure =>
      have hended : (s.deliver replies.head number message).outcome = .error failure := by
        rw [hfirst, Reply.outcome, hescape]
      rw [Replies.made_succ_of_some hescape, deliverAll]
      constructor
      · rw [Traced.posts_bind_error hended, posts_deliver]
        rfl
      · rw [Traced.outcome_bind, hended]
        rfl
    | none =>
      have hgoes : (s.deliver replies.head number message).outcome = .ok replies.head.isTaken := by
        rw [hfirst, Reply.outcome, hescape]
      obtain ⟨hposts, houtcome⟩ := ih replies.tail (tally.after (.ok replies.head.isTaken))
      rw [Replies.made_succ_of_none hescape, Replies.first_succ, Tally.afterAll_cons, Option.none_or,
        ← houtcome, deliverAll]
      constructor
      · rw [Traced.posts_bind_ok hgoes, posts_deliver, hposts]
        rfl
      · rw [Traced.outcome_bind, hgoes]
        rfl

/-! ## Replays and simulations -/

/-- What follows without a post leaves the posts as they are. -/
theorem Traced.posts_bind_of_silent {ε α β : Type} (x : Traced Effect ε α) {f : α → Traced Effect ε β}
    (h : ∀ a, (f a).posts = []) : (x >>= f).posts = x.posts := by
  cases hx : x.outcome with
  | ok a => rw [posts_bind_ok hx, h, List.append_nil]
  | error e => exact posts_bind_error hx f

/-- The telegrams of a replay are posted up to the first failure that escapes. -/
theorem endsAt_replay {octets : List UInt8} {records : List (List Text)}
    (hread : replayRecords octets = (records, none)) (sender : Sender) (replies : Replies) (path : Text) :
    let rows := records.filterMap recorded?
    (replay sender replies path octets).posts = (rows.take (replies.made rows.length)).map sender.postOf ∧
      EndsAt replies rows.length .delivery (replay sender replies path octets).posts
        (replay sender replies path octets).outcome := by
  have hrows : ((readReplay octets).withEvents).outcome = .ok (replayRows records) := by
    simp only [readReplay, hread]
    rfl
  obtain ⟨hposts, houtcome⟩ := sender.deliverAll_until replies .zero (replayRows records).rows
  rw [rows_replayRows] at hposts houtcome
  have hsame : (replay sender replies path octets).posts =
      (sender.deliverAll replies .zero (records.filterMap recorded?)).posts := by
    rw [replay, Traced.posts_bind_ok hrows, Traced.posts_withEvents, List.nil_append, replayAll,
      Traced.posts_bind_ok rfl, Traced.posts_report, List.nil_append, rows_replayRows,
      Traced.posts_bind_of_silent _ fun _ => rfl, Traced.posts_mapError]
  have hreplay : (replay sender replies path octets).outcome =
      ((sender.deliverAll replies .zero (records.filterMap recorded?)).outcome.mapError RunFault.delivery).map
        fun tally => ⟨tally.sent, tally.failed, (replayRows records).skipped⟩ := by
    rw [replay, Traced.outcome_bind, hrows, ← rows_replayRows]
    show (replayAll sender replies path (replayRows records)).outcome = _
    simp only [replayAll, Traced.outcome_bind, Traced.mapError]
    cases (sender.deliverAll replies .zero (replayRows records).rows).outcome <;> rfl
  refine ⟨hsame.trans hposts, ?_, fun hnone => ?_, fun failure hsome => ?_⟩
  · rw [hsame, hposts, List.length_map, List.length_take, Nat.min_eq_left (replies.made_le _)]
  · rw [hreplay, houtcome, hnone]
    exact ⟨_, rfl⟩
  · rw [hreplay, houtcome, hsome]
    rfl

section

variable {σ : Type} [RandomSource σ] {settings : Settings} {clock : ℕ → Instant}

/-- The requests that are left are made up to the first failure that escapes. -/
theorem endsAt_simulateFrom [HostZone] (hfair : RandomSource.Fair σ) (settings : Settings)
    (sender : Sender) {left i : ℕ} (hclock : ∀ j, i ≤ j → j < i + left → (clock j).toStation?.isSome) (replies : Replies)
    (source : σ) (tally : Tally) : EndsAt replies left .delivery
      (simulateFrom settings sender clock left i source replies tally).posts
      (simulateFrom settings sender clock left i source replies tally).outcome := by
  -- each request moves the turn, the replies, the source and the tally on
  induction left generalizing i replies source tally with
  | zero => exact ⟨by simp [simulateFrom], fun _ => ⟨tally, rfl⟩, fun _ h => by simp at h⟩
  | succ left ih =>
    obtain ⟨telegram, source', hrandom, _⟩ :=
      exists_randomTelegram hfair settings.variant (hclock i le_rfl (by omega)) source
    have hdrawn : ((Traced.ofExcept (randomTelegram settings.variant (clock i) source)).mapError
        RunFault.telegram : Traced Effect RunFault (Text × σ)).outcome = .ok (telegram, source') :=
      Traced.outcome_mapError_ok hrandom _
    have hfirst := sender.outcome_deliver_eq replies.head (settings.station i) telegram
    cases hescape : replies.head.escape? with
    | some failure =>
      have hended : ((sender.deliver replies.head (settings.station i) telegram).mapError
          RunFault.delivery).outcome = .error (.delivery failure) := by
        rw [Traced.mapError, hfirst, Reply.outcome, hescape]
        rfl
      refine ⟨?_, fun hnone => ?_, fun other hsome => ?_⟩
      · rw [Replies.made_succ_of_some hescape, simulateFrom, Traced.posts_bind_ok hdrawn,
          Traced.posts_bind_error hended, Traced.posts_mapError, Traced.posts_mapError,
          Traced.posts_ofExcept, Sender.posts_deliver]
        rfl
      · rw [Replies.escape?_succ, hescape] at hnone
        cases hnone
      · rw [Replies.escape?_succ, hescape] at hsome
        cases hsome
        rw [simulateFrom, Traced.outcome_bind, hdrawn]
        simp only [Except.bind, Traced.outcome_bind, hended]
    | none =>
      have hgoes : ((sender.deliver replies.head (settings.station i) telegram).mapError
          RunFault.delivery).outcome = .ok replies.head.isTaken := by
        rw [Traced.mapError, hfirst, Reply.outcome, hescape]
        rfl
      have hrest := ih (i := i + 1) (fun j hleast hmost => hclock j (by omega) (by omega)) replies.tail
        source' (tally.after (.ok replies.head.isTaken))
      have houtcome : (simulateFrom settings sender clock (left + 1) i source replies tally).outcome =
          (simulateFrom settings sender clock left (i + 1) source' replies.tail
            (tally.after (.ok replies.head.isTaken))).outcome := by
        rw [simulateFrom, Traced.outcome_bind, hdrawn]
        simp only [Except.bind, Traced.outcome_bind, hgoes]
      rw [houtcome]
      refine ⟨?_, fun hnone => hrest.through ?_, fun failure hsome => hrest.ended failure ?_⟩
      · rw [Replies.made_succ_of_none hescape, ← hrest.length, simulateFrom, Traced.posts_bind_ok hdrawn,
          Traced.posts_bind_ok hgoes, Traced.posts_mapError, Traced.posts_mapError,
          Traced.posts_ofExcept, Sender.posts_deliver]
        rfl
      · rwa [Replies.escape?_succ, hescape, Option.none_or] at hnone
      · rwa [Replies.escape?_succ, hescape, Option.none_or] at hsome

/-- The requests of a simulation are made up to the first failure that escapes. -/
theorem endsAt_simulate [HostZone] (hfair : RandomSource.Fair σ) (settings : Settings) (sender : Sender)
    (hclock : ∀ i < settings.requestCount, (clock i).toStation?.isSome) (replies : Replies) (source : σ) :
    EndsAt replies settings.requestCount .delivery
      (simulate settings sender clock source replies).posts
      (simulate settings sender clock source replies).outcome := by
  have htimes : ∀ j, 0 ≤ j → j < 0 + settings.requestCount → (clock j).toStation?.isSome :=
    fun j _ hmost => hclock j (by omega)
  have hrun := endsAt_simulateFrom hfair settings sender htimes replies source .zero
  have hposts : (simulate settings sender clock source replies).posts =
      (simulateFrom settings sender clock settings.requestCount 0 source replies .zero).posts := by
    rw [simulate, Traced.posts_bind_ok rfl, Traced.posts_report, List.nil_append]
    exact Traced.posts_bind_of_silent _ fun _ => rfl
  have houtcome : (simulate settings sender clock source replies).outcome =
      (simulateFrom settings sender clock settings.requestCount 0 source replies .zero).outcome := by
    simp only [simulate, Traced.outcome_bind]
    cases (simulateFrom settings sender clock settings.requestCount 0 source replies .zero).outcome <;> rfl
  rw [hposts, houtcome]
  exact hrun

end

/-! ## Together -/

/-- **What a sender absorbs.** A delivery tells whether the telegram was taken exactly after an ordinary reply:
    an answer of any status, a failed connection or an answer that did not come in time. It was taken
    exactly if the status is 200, and any other failure comes out as it is, with or without a shared client.
    Of deliveries one by one, those that were taken are counted as sent, and those that were not as failed,
    so that the two add up exactly if all replies are ordinary. A replay and a simulation go through if no
    failure escapes, and end with the first one that does. -/
theorem deliver_absorbs [HostZone] (s : Sender) :
    (∀ (reply : Reply) (number message : Text),
      ((∃ taken, (s.deliver reply number message).outcome = .ok taken) ↔ reply.IsOrdinary) ∧
      ((s.deliver reply number message).outcome = .ok true ↔ ∃ body, reply = .answered 200 body) ∧
      ∀ failure, (s.deliver reply number message).outcome = .error failure ↔
        reply = .failed failure ∧ failure.kind ≠ .connect ∧ failure.kind.isTimeout = false) ∧
    (∀ (replies : Replies) (rows : List (Text × Text)),
      let tally := (s.outcomes replies rows).foldl Tally.after .zero
      tally.sent = (replies.first rows.length).countP Reply.isTaken ∧
      tally.sent + tally.failed + (replies.first rows.length).countP (·.escape?.isSome) = rows.length ∧
      (tally.sent + tally.failed = rows.length ↔ ∀ reply ∈ replies.first rows.length, reply.IsOrdinary)) ∧
    (∀ (replies : Replies) (path : Text) (octets : List UInt8) (records : List (List Text)),
      replayRecords octets = (records, none) →
      EndsAt replies (records.filterMap recorded?).length .delivery (replay s replies path octets).posts
        (replay s replies path octets).outcome) ∧
    ∀ (σ : Type) [RandomSource σ], RandomSource.Fair σ → ∀ (sources : SettingSources) (settings : Settings)
      (clock : ℕ → Instant) (replies : Replies) (source : σ), Settings.load sources = .ok settings →
      (∀ i < settings.requestCount, (clock i).toStation?.isSome) →
      EndsAt replies settings.requestCount .delivery (simulate settings s clock source replies).posts
        (simulate settings s clock source replies).outcome := by
  refine ⟨fun reply number message => ?_, fun replies rows => ?_, fun replies path octets records hread =>
    (endsAt_replay hread s replies path).2, fun σ _ hfair sources settings clock replies source _ hclock =>
    endsAt_simulate hfair settings s hclock replies source⟩
  · rw [s.outcome_deliver_eq]
    refine ⟨?_, ?_, fun failure => ?_⟩
    · rw [← Reply.escape?_eq_none_iff, Reply.outcome]
      cases reply.escape? <;> simp
    · cases reply with
      | answered status body => simp [Reply.outcome, Reply.escape?, Reply.isTaken]
      | failed failure =>
        rw [Reply.outcome]
        cases (Reply.failed failure).escape? <;> simp [Reply.isTaken]
    · rw [← Reply.escape?_eq_some_iff, Reply.outcome]
      cases reply.escape? <;> simp
  · have htotal := Reply.countP_total (replies.first rows.length)
    rw [Replies.length_first] at htotal
    simp only [s.outcomes_eq, Tally.foldl_after, Tally.zero, Nat.zero_add]
    refine ⟨trivial, htotal, ?_⟩
    have hnone : (replies.first rows.length).countP (·.escape?.isSome) = 0 ↔
        ∀ reply ∈ replies.first rows.length, reply.IsOrdinary := by
      simp only [List.countP_eq_zero, Option.not_isSome_iff_eq_none, Reply.escape?_eq_none_iff]
    rw [← hnone]
    omega

/-- A connection that breaks while the answer is read. -/
def brokenOff : Failure := ⟨.read, Text.ofString "connection reset"⟩

/-- The gateway takes the first telegram, and the second connection breaks. -/
def brokenReplies : Replies := ⟨[.answered 200 [], .failed brokenOff], .answered 200 []⟩

/-- A sender without a shared client. -/
def plainSender : Sender := Sender.ofBase (Text.ofString "http://gw.example.com") 3 false

/-- A replay of two telegrams and a simulation of five both end with the second post. -/
theorem deliver_absorbs_broken :
    replayRecords sampleFile = (sampleRecords, none) ∧
    (replay plainSender brokenReplies ['r'] sampleFile).posts.length = 2 ∧
    (replay plainSender brokenReplies ['r'] sampleFile).outcome = .error (.delivery brokenOff) ∧
    RandomSource.Fair Twister ∧
    ∃ settings, Settings.load sampleSources = .ok settings ∧ settings.requestCount = 5 ∧
      (∀ i < settings.requestCount, sampleReceipt.toStation?.isSome) ∧
      (simulate settings plainSender (fun _ => sampleReceipt) (Twister.ofSeed 1) brokenReplies).posts.length
        = 2 ∧
      (simulate settings plainSender (fun _ => sampleReceipt) (Twister.ofSeed 1) brokenReplies).outcome
        = .error (.delivery brokenOff) := by
  obtain ⟨_, _, hreplay, hsimulate⟩ := deliver_absorbs plainSender
  have hkept : (sampleRecords.filterMap recorded?).length = 2 := by decide +kernel
  obtain ⟨settings, hsettings, hcount, _⟩ := exists_load_sampleSources
  have hclock : ∀ i < settings.requestCount, sampleReceipt.toStation?.isSome := fun _ _ => rfl
  have hreplayed := hreplay brokenReplies ['r'] sampleFile sampleRecords replayRecords_sampleFile
  have hsimulated := hsimulate Twister Twister.fair sampleSources settings (fun _ => sampleReceipt)
    brokenReplies (Twister.ofSeed 1) hsettings hclock
  rw [hkept] at hreplayed
  rw [hcount] at hsimulated
  exact ⟨replayRecords_sampleFile, hreplayed.length, hreplayed.ended _ (by decide), Twister.fair, settings,
    hsettings, hcount, hclock, hsimulated.length, hsimulated.ended _ (by decide)⟩

/-- **A broken connection is not absorbed**: the delivery gives no answer, its telegram is not counted, and
    the run stops short of the next one. -/
theorem deliver_brokenOff :
    (plainSender.deliver (.failed brokenOff) sampleSender ['0']).outcome = .error brokenOff ∧
    (plainSender.outcomes ⟨[.failed brokenOff], .answered 200 []⟩
      [(sampleSender, ['0']), (sampleSender, ['1'])]).foldl Tally.after .zero = ⟨1, 0⟩ ∧
    (plainSender.deliverAll ⟨[.failed brokenOff], .answered 200 []⟩ .zero
      [(sampleSender, ['0']), (sampleSender, ['1'])]).posts = [plainSender.postOf (sampleSender, ['0'])] := by
  refine ⟨rfl, ?_, ?_⟩
  · rw [Sender.outcomes_eq]
    decide
  · exact (plainSender.deliverAll_until _ _ _).1

end WeatherTelegram
