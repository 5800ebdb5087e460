import Mathlib.Data.Int.Notation
import Mathlib.Data.List.Basic
import WeatherTelegram.Delivery.Sender

/-!
# `Proofs.Delivery.Sender` — one post for each telegram

A delivery makes one post whatever becomes of it, and goes on after every answer, after a failed
connection and after an answer that did not come in time. So a run over a list makes one post for each
entry, in order, and its tally counts the replies of status 200 apart from the rest.

## Contents
- **Posts.** `Traced.posts_bind_ok`, `Traced.posts_bind_error`, `Traced.ofExcept_bind_ok`,
  `Traced.outcome_mapError_ok`.
- **Replies.** `Reply.isTaken`, `Reply.IsOrdinary`, `Replies.IsOrdinary`, `Replies.first`, `sampleReplies`.
- **One delivery.** `Sender.postOf`, `Sender.posts_deliver`, `Sender.outcome_deliver`.
- **Tallies.** `Tally.afterAll`, `Tally.afterAll_total`.
- **Runs.** `Sender.deliverAll_run`.
-/

namespace WeatherTelegram

/-! ## Posts -/

namespace Traced

variable {ε ε' α β : Type}

theorem posts_bind_ok {x : Traced Effect ε α} {a : α} (h : x.outcome = .ok a)
    (f : α → Traced Effect ε β) : (x >>= f).posts = x.posts ++ (f a).posts := by
  unfold posts
  rw [trace_bind_ok h, List.filterMap_append]

theorem posts_bind_error {x : Traced Effect ε α} {e : ε} (h : x.outcome = .error e)
    (f : α → Traced Effect ε β) : (x >>= f).posts = x.posts := by
  unfold posts
  rw [trace_bind_error h]

/-- What is known goes on at once. -/
theorem ofExcept_bind_ok (a : α) (f : α → Traced Effect ε β) : (ofExcept (.ok a) >>= f) = f a := rfl

theorem outcome_mapError_ok {x : Traced Effect ε α} {a : α} (h : x.outcome = .ok a) (f : ε → ε') :
    (x.mapError f).outcome = .ok a := by
  rw [mapError, h]
  rfl

@[simp] theorem posts_pure (a : α) : (pure a : Traced Effect ε α).posts = [] := rfl

@[simp] theorem posts_report (e : Event) : (report e : Traced Effect ε Unit).posts = [] := rfl

@[simp] theorem posts_ofExcept (r : Except ε α) : (ofExcept r : Traced Effect ε α).posts = [] := rfl

@[simp] theorem posts_mapError (f : ε → ε') (x : Traced Effect ε α) :
    (x.mapError f).posts = x.posts := rfl

/-- Reports alone post nothing. -/
@[simp] theorem posts_withEvents (x : Traced Event ε α) : x.withEvents.posts = [] := by
  unfold posts withEvents mapEffects
  rw [List.filterMap_map]
  exact List.filterMap_eq_nil_iff.mpr fun _ _ => rfl

end Traced

/-! ## Replies -/

/-- Whether a failure is an answer that did not come in time. -/
def FailureKind.isTimeout : FailureKind → Bool
  | .connectTimeout | .readTimeout | .writeTimeout | .poolTimeout | .timeout => true
  | _ => false

/-- Whether the gateway took the telegram. -/
def Reply.isTaken : Reply → Bool
  | .answered status _ => decide (status = 200)
  | .failed _ => false

/-- An answer of any status, a connection that failed, or an answer that did not come in time. -/
inductive Reply.IsOrdinary : Reply → Prop where
  | answered (status : ℤ) (body : Text) : IsOrdinary (.answered status body)
  | unconnected (message : Text) : IsOrdinary (.failed ⟨.connect, message⟩)
  | late {failure : Failure} (h : failure.kind.isTimeout = true) : IsOrdinary (.failed failure)

theorem FailureKind.isAbsorbed_of_isTimeout {kind : FailureKind} (h : kind.isTimeout = true) :
    kind.isAbsorbed = true := by
  cases kind with
  | connectTimeout | readTimeout | writeTimeout | poolTimeout | timeout => rfl
  | _ => cases h

namespace Replies

variable {r : Replies}

/-- All replies are ordinary. -/
def IsOrdinary (r : Replies) : Prop := ∀ reply ∈ r.otherwise :: r.listed, reply.IsOrdinary

theorem IsOrdinary.head (h : r.IsOrdinary) : r.head.IsOrdinary := by
  obtain ⟨listed, otherwise⟩ := r
  cases listed with
  | nil => exact h _ (List.mem_cons_self ..)
  | cons reply listed => exact h _ (List.mem_cons_of_mem _ (List.mem_cons_self ..))

theorem IsOrdinary.tail (h : r.IsOrdinary) : r.tail.IsOrdinary := by
  intro reply hreply
  rcases List.mem_cons.mp hreply with rfl | hlisted
  · exact h _ (List.mem_cons_self ..)
  · exact h _ (List.mem_cons_of_mem _ (List.mem_of_mem_tail hlisted))

/-- The replies to the first requests. -/
def first (r : Replies) (n : ℕ) : List Reply :=
  r.listed.take n ++ List.replicate (n - r.listed.length) r.otherwise

@[simp] theorem first_zero (r : Replies) : r.first 0 = [] := by simp [first]

@[simp] theorem first_succ (r : Replies) (n : ℕ) : r.first (n + 1) = r.head :: r.tail.first n := by
  obtain ⟨listed, otherwise⟩ := r
  cases listed with
  | nil => simp [first, head, tail, List.replicate_succ]
  | cons reply listed => simp [first, head, tail]

@[simp] theorem length_first (r : Replies) (n : ℕ) : (r.first n).length = n := by
  unfold first
  rw [List.length_append, List.length_take, List.length_replicate]
  omega

end Replies

/-- The gateway takes the first telegram and then cannot be reached. -/
def sampleReplies : Replies :=
  ⟨[.answered 200 []], .failed ⟨.connect, Text.ofString "refused"⟩⟩

theorem isOrdinary_sampleReplies : sampleReplies.IsOrdinary := by
  intro reply hreply
  simp only [sampleReplies, List.mem_cons, List.not_mem_nil, or_false] at hreply
  rcases hreply with rfl | rfl
  · exact .unconnected _
  · exact .answered ..

/-! ## One delivery -/

namespace Sender

variable {s : Sender}

/-- The post of a telegram on behalf of a number; only one through a shared client has a timeout of its
    own. -/
def postOf (s : Sender) (row : Text × Text) : Post :=
  ⟨s.url, if s.shared then some s.timeout else none, row.1, row.2⟩

/-- **A delivery makes one post**, whatever becomes of it. -/
theorem posts_deliver (s : Sender) (reply : Reply) (number message : Text) :
    (s.deliver reply number message).posts = [s.postOf (number, message)] := by
  obtain ⟨url, timeout, shared⟩ := s
  cases reply with
  | answered status body =>
    by_cases h : status = 200
    · cases shared <;> simp only [deliver, if_pos h] <;> rfl
    · cases shared <;> simp only [deliver, if_neg h] <;> rfl
  | failed failure =>
    cases h : failure.kind.isAbsorbed with
    | true => cases shared <;> simp only [deliver, h] <;> rfl
    | false => cases shared <;> simp only [deliver, h] <;> rfl

/-- A failure that is absorbed is a telegram that was not taken. -/
theorem outcome_deliver_failed {failure : Failure} (h : failure.kind.isAbsorbed = true)
    (number message : Text) : (s.deliver (.failed failure) number message).outcome = .ok false := by
  obtain ⟨url, timeout, shared⟩ := s
  cases shared <;> simp only [deliver, h] <;> rfl

/-- **A delivery goes on** after an ordinary reply, and tells whether the telegram was taken. -/
theorem outcome_deliver {reply : Reply} (h : reply.IsOrdinary) (number message : Text) :
    (s.deliver reply number message).outcome = .ok reply.isTaken := by
  cases h with
  | answered status body =>
    obtain ⟨url, timeout, shared⟩ := s
    by_cases h : status = 200
    · subst h
      cases shared <;> rfl
    · rw [Reply.isTaken, decide_eq_false h]
      cases shared <;> simp only [deliver, if_neg h] <;> rfl
  | unconnected message => exact outcome_deliver_failed rfl ..
  | late h => exact outcome_deliver_failed (FailureKind.isAbsorbed_of_isTimeout h) ..

end Sender

/-! ## Tallies -/

namespace Tally

/-- The tally after a list of replies. -/
def afterAll (t : Tally) (replies : List Reply) : Tally :=
  ⟨t.sent + replies.countP Reply.isTaken, t.failed + replies.countP (!·.isTaken)⟩

@[simp] theorem afterAll_nil (t : Tally) : t.afterAll [] = t := rfl

@[simp] theorem afterAll_cons (t : Tally) (reply : Reply) (replies : List Reply) :
    t.afterAll (reply :: replies) = (t.after (.ok reply.isTaken)).afterAll replies := by
  cases h : reply.isTaken <;> simp [afterAll, after, h] <;> omega

/-- Every reply is counted once. -/
theorem afterAll_total (t : Tally) (replies : List Reply) :
    (t.afterAll replies).sent + (t.afterAll replies).failed = t.sent + t.failed + replies.length := by
  have hlength := List.length_eq_countP_add_countP Reply.isTaken (l := replies)
  simp only [afterAll]
  simp only [Bool.not_eq_true, Bool.decide_eq_false] at hlength
  omega

end Tally

/-! ## Runs -/

/-- **A run makes one post for each entry**, in order, and counts each reply. -/
theorem Sender.deliverAll_run {s : Sender} {replies : Replies} (h : replies.IsOrdinary) (tally : Tally)
    (rows : List (Text × Text)) :
    (s.deliverAll replies tally rows).outcome = .ok (tally.afterAll (replies.first rows.length)) ∧
      (s.deliverAll replies tally rows).posts = rows.map s.postOf := by
  induction rows generalizing replies tally with
  | nil => exact ⟨by simp [deliverAll], rfl⟩
  | cons row rows ih =>
    obtain ⟨number, message⟩ := row
    have hfirst := s.outcome_deliver h.head number message
    obtain ⟨houtcome, hposts⟩ := ih h.tail (tally.after (.ok replies.head.isTaken))
    constructor
    · rw [deliverAll, Traced.outcome_bind, hfirst, List.length_cons, Replies.first_succ,
        Tally.afterAll_cons]
      exact houtcome
    · rw [deliverAll, Traced.posts_bind_ok hfirst, posts_deliver, hposts]
      rfl

end WeatherTelegram
