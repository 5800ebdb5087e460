import Mathlib.Data.Int.CardIntervalMod
import WeatherTelegram.Command.Run
import WeatherTelegram.Proofs.Delivery.Sender
import WeatherTelegram.Proofs.Gateway.Traffic
import WeatherTelegram.Proofs.Settings.Load

/-!
# `Proofs.Delivery.Simulation` — a simulation takes the stations in turn

Settings that were accepted name a station, so there is one whose turn it is, and a random reading can be
written in every layout. So nothing ends a simulation before its time as long as the times of its clock are
times of the stations' clock, and as long as replies are ordinary ones.

## Contents
- **Turns.** `Settings.getElem?_station`, `turns`, `turns_eq`, `turns_balanced`.
- **One telegram.** `exists_randomTelegram`.
- **Runs.** `simulateFrom_run`, `IsSimulationOf`, `simulate_balanced`.
-/

namespace WeatherTelegram

/-! ## Turns -/

/-- The station whose turn it is stands in the list, which is gone through again and again. -/
theorem Settings.getElem?_station {s : Settings} (h : s.numbers ≠ []) (i : ℕ) :
    s.numbers[i % s.numbers.length]? = some (s.station i) := by
  have hlt : i % s.numbers.length < s.numbers.length := Nat.mod_lt _ (List.length_pos_iff.mpr h)
  rw [Settings.station, List.getD_eq_getElem?_getD, List.getElem?_eq_getElem hlt]
  rfl

/-- How many of the posts fall to a place in a list of `k` stations that take turns. -/
def turns (k place : ℕ) (posts : List Post) : ℕ :=
  posts.zipIdx.countP fun entry => entry.2 % k = place

theorem turns_eq {k place : ℕ} (hplace : place < k) (posts : List Post) :
    turns k place posts = posts.length / k + if place < posts.length % k then 1 else 0 := by
  have hcount : turns k place posts = posts.length.count (· ≡ place [MOD k]) := by
    rw [Nat.count, List.range_eq_range', ← List.zipIdx_map_snd 0 posts, List.countP_map, turns]
    congr 1
    funext entry
    simp only [Function.comp_apply, Nat.ModEq, Nat.mod_eq_of_lt hplace]
  rw [hcount, Nat.count_modEq_card _ (Nat.zero_lt_of_lt hplace), Nat.mod_eq_of_lt hplace]

/-- **Turns are balanced**: every place has the quotient of posts and places, rounded down or up. -/
theorem turns_balanced {k place : ℕ} (hplace : place < k) (posts : List Post) :
    turns k place posts = posts.length / k ∨ turns k place posts = (posts.length + k - 1) / k := by
  rw [turns_eq hplace]
  split
  · rename_i hrest
    have hsum := Nat.div_add_mod' posts.length k
    have hmod := Nat.mod_lt posts.length (Nat.zero_lt_of_lt hplace)
    have hmul : ∀ q, (q + 1) * k = q * k + k := fun q => Nat.succ_mul q k
    refine .inr (Nat.div_eq_of_lt_le ?_ ?_).symm
    · rw [hmul]
      omega
    · rw [hmul, hmul]
      omega
  · exact .inl rfl

/-! ## One telegram -/

section

variable {σ : Type} [RandomSource σ]

/-- **Every random reading is a telegram** of the layout that it was made for. -/
theorem exists_randomTelegram [HostZone] (hfair : RandomSource.Fair σ) (v : Variant) {now : Instant}
    (hnow : now.toStation?.isSome) (source : σ) : ∃ telegram source',
      randomTelegram v now source = .ok (telegram, source') ∧ Variant.ofMessage telegram = .ok v := by
  obtain ⟨st, hst⟩ := Option.isSome_iff_exists.mp hnow
  have hrandom : randomReading now source = some (readingAt st.wholeSecond source) := by
    rw [randomReading, hst]
    rfl
  have hdrawn := isDrawn_readingAt hfair st.wholeSecond source
  obtain ⟨written, hwrites⟩ := hdrawn.exists_writes v (Instant.toStation?_wholeSecond hst)
  refine ⟨telegramOf written, (readingAt st.wholeSecond source).2, ?_, hwrites.ofMessage_telegramOf⟩
  rw [randomTelegram, hrandom]
  show (encodeAs (readingAt st.wholeSecond source).1 v).map _ = _
  rw [encodeAs_eq_ok_iff.mpr ⟨written, hwrites, rfl⟩]
  rfl

/-! ## Runs -/

variable {settings : Settings} {clock : ℕ → Instant} {replies : Replies}

/-- **The requests that are left**: one telegram of the layout for each, to the stations in turn. -/
theorem simulateFrom_run [HostZone] (hfair : RandomSource.Fair σ) (settings : Settings)
    (sender : Sender) {left i : ℕ} (hclock : ∀ j, i ≤ j → j < i + left → (clock j).toStation?.isSome) (hreplies : replies.IsOrdinary)
    (source : σ) (tally : Tally) : ∃ telegrams : List Text, telegrams.length = left ∧
      (∀ telegram ∈ telegrams, Variant.ofMessage telegram = .ok settings.variant) ∧
      (simulateFrom settings sender clock left i source replies tally).outcome =
        .ok (tally.afterAll (replies.first left)) ∧
      (simulateFrom settings sender clock left i source replies tally).posts =
        (telegrams.zipIdx i).map fun entry => sender.postOf (settings.station entry.2, entry.1) := by
  -- each request moves the turn, the replies, the source and the tally on
  induction left generalizing i replies source tally with
  | zero => exact ⟨[], rfl, nofun, by simp [simulateFrom], rfl⟩
  | succ left ih =>
    obtain ⟨telegram, source', hrandom, hvariant⟩ :=
      exists_randomTelegram hfair settings.variant (hclock i le_rfl (by omega)) source
    have hdrawn : ((Traced.ofExcept (randomTelegram settings.variant (clock i) source)).mapError
        RunFault.telegram : Traced Effect RunFault (Text × σ)).outcome = .ok (telegram, source') :=
      Traced.outcome_mapError_ok hrandom _
    have hdelivered := Traced.outcome_mapError_ok
      (sender.outcome_deliver hreplies.head (settings.station i) telegram) RunFault.delivery
    obtain ⟨telegrams, hlength, hvariants, houtcome, hposts⟩ :=
      ih (i := i + 1) (fun j hleast hmost => hclock j (by omega) (by omega)) hreplies.tail source'
        (tally.after (.ok replies.head.isTaken))
    refine ⟨telegram :: telegrams, congrArg Nat.succ hlength, ?_, ?_, ?_⟩
    · exact List.forall_mem_cons.mpr ⟨hvariant, hvariants⟩
    · rw [simulateFrom, Traced.outcome_bind, hdrawn, Replies.first_succ, Tally.afterAll_cons]
      simp only [Except.bind, Traced.outcome_bind, hdelivered]
      exact houtcome
    · rw [simulateFrom, Traced.posts_bind_ok hdrawn]
      simp only [Traced.posts_bind_ok hdelivered, Traced.posts_mapError, Traced.posts_ofExcept,
        Sender.posts_deliver, hposts, List.nil_append]
      rfl

/-- What a simulation comes to: its posts, the turns of the stations, and how deliveries are counted. -/
structure IsSimulationOf (settings : Settings) (sender : Sender) (replies : Replies)
    (posts : List Post) (tally : Tally) : Prop where
  length : posts.length = settings.requestCount
  request : ∀ post ∈ posts, post = sender.postOf (post.number, post.message)
  station : ∀ (i : ℕ) (post : Post), posts[i]? = some post →
    settings.numbers[i % settings.numbers.length]? = some post.number
  variant : ∀ post ∈ posts, Variant.ofMessage post.message = .ok settings.variant
  balanced : ∀ place < settings.numbers.length,
    turns settings.numbers.length place posts = settings.requestCount / settings.numbers.length ∨
    turns settings.numbers.length place posts =
      (settings.requestCount + settings.numbers.length - 1) / settings.numbers.length
  deliveries : tally.sent + tally.failed = settings.requestCount
  sent : tally.sent = (replies.first settings.requestCount).countP Reply.isTaken

/-- Telegrams that were posted to the stations in turn are a simulation. -/
theorem isSimulationOf_of_telegrams {telegrams : List Text} (hnumbers : settings.numbers ≠ [])
    (hlength : telegrams.length = settings.requestCount)
    (hvariants : ∀ telegram ∈ telegrams, Variant.ofMessage telegram = .ok settings.variant)
    (sender : Sender) (replies : Replies) :
    IsSimulationOf settings sender replies
      (telegrams.zipIdx.map fun entry => sender.postOf (settings.station entry.2, entry.1))
      (Tally.zero.afterAll (replies.first settings.requestCount)) where
  length := by rw [List.length_map, List.length_zipIdx, hlength]
  request := by
    intro post hpost
    obtain ⟨entry, _, rfl⟩ := List.mem_map.mp hpost
    rfl
  station := by
    intro i post hpost
    rw [List.getElem?_map, Option.map_eq_some_iff] at hpost
    obtain ⟨⟨telegram, j⟩, hentry, rfl⟩ := hpost
    rw [List.getElem?_zipIdx, Option.map_eq_some_iff] at hentry
    obtain ⟨_, _, hpair⟩ := hentry
    obtain ⟨rfl, rfl⟩ := Prod.mk.inj hpair
    rw [Nat.zero_add]
    exact Settings.getElem?_station hnumbers i
  variant := by
    intro post hpost
    obtain ⟨⟨telegram, j⟩, hentry, rfl⟩ := List.mem_map.mp hpost
    exact hvariants telegram (List.fst_mem_of_mem_zipIdx hentry)
  balanced := by
    intro place hplace
    have hturns := turns_balanced hplace
      (telegrams.zipIdx.map fun entry => sender.postOf (settings.station entry.2, entry.1))
    rwa [List.length_map, List.length_zipIdx, hlength] at hturns
  deliveries := by
    rw [Tally.afterAll_total, Replies.length_first]
    exact Nat.zero_add _
  sent := Nat.zero_add _

/-- **A simulation goes through.** With settings that were accepted, a fair source, times of the stations'
    clock and ordinary replies, it ends without a fault after the posts that the settings ask for. They go
    to the stations in turn, so each place in the list has its share of them, every telegram is one of the
    layout, and every reply is counted. -/
theorem simulate_balanced [HostZone] (hfair : RandomSource.Fair σ) {sources : SettingSources}
    (hsettings : Settings.load sources = .ok settings) (sender : Sender)
    (hclock : ∀ i < settings.requestCount, (clock i).toStation?.isSome) (hreplies : replies.IsOrdinary)
    (source : σ) : settings.numbers ≠ [] ∧
    ∃ tally, (simulate settings sender clock source replies).outcome = .ok tally ∧
      IsSimulationOf settings sender replies (simulate settings sender clock source replies).posts
        tally := by
  have hnumbers := numbers_ne_nil_of_load hsettings
  have htimes : ∀ j, 0 ≤ j → j < 0 + settings.requestCount → (clock j).toStation?.isSome :=
    fun j _ hmost => hclock j (by omega)
  obtain ⟨telegrams, hlength, hvariants, houtcome, hposts⟩ :=
    simulateFrom_run hfair settings sender htimes hreplies source .zero
  refine ⟨hnumbers, Tally.zero.afterAll (replies.first settings.requestCount), ?_, ?_⟩
  · simp only [simulate, Traced.outcome_bind, houtcome]
    rfl
  · rw [simulate, Traced.posts_bind_ok rfl, Traced.posts_bind_ok houtcome, Traced.posts_bind_ok rfl,
      hposts]
    simpa using isSimulationOf_of_telegrams hnumbers hlength hvariants sender replies

end

/-- Five telegrams from two stations. -/
def sampleSources : SettingSources where
  overrides := [(Setting.requestCount.name, .whole 5)]
  environment := [(Text.ofString "STATION_NUMBERS", Text.ofString "639171234567, ,09181234567")]
  file := []

theorem exists_load_sampleSources : ∃ settings, Settings.load sampleSources = .ok settings ∧
    settings.requestCount = 5 ∧ settings.numbers.length = 2 := by
  have hcounts : (Settings.load sampleSources).map (fun s => (s.requestCount, s.numbers.length)) =
      .ok (5, 2) := by decide +kernel
  obtain ⟨settings, hsettings, hpair⟩ := map_ok_iff.mp hcounts
  exact ⟨settings, hsettings, Prod.mk.inj hpair⟩

/-- The twister's telegrams go out at seven in the morning of universal time, and one of them is taken. -/
theorem simulate_balanced_sample : RandomSource.Fair Twister ∧ sampleReplies.IsOrdinary ∧
    ∃ settings tally, Settings.load sampleSources = .ok settings ∧ settings.numbers.length = 2 ∧
      (simulate settings settings.sender (fun _ => sampleReceipt) (Twister.ofSeed 1) sampleReplies).outcome =
        .ok tally ∧ tally = ⟨1, 4⟩ ∧
      IsSimulationOf settings settings.sender sampleReplies
        (simulate settings settings.sender (fun _ => sampleReceipt) (Twister.ofSeed 1)
          sampleReplies).posts tally := by
  obtain ⟨settings, hsettings, hcount, hnumbers⟩ := exists_load_sampleSources
  have hclock : ∀ i < settings.requestCount, sampleReceipt.toStation?.isSome := fun _ _ => rfl
  obtain ⟨_, ⟨sent, failed⟩, houtcome, hsimulation⟩ :=
    simulate_balanced Twister.fair hsettings settings.sender hclock isOrdinary_sampleReplies
      (Twister.ofSeed 1)
  obtain ⟨_, _, _, _, _, hdeliveries, hsent⟩ := id hsimulation
  rw [hcount] at hdeliveries hsent
  obtain rfl : sent = 1 := hsent
  obtain rfl : failed = 4 := Nat.add_left_cancel hdeliveries
  exact ⟨Twister.fair, isOrdinary_sampleReplies, settings, _, hsettings, hnumbers, houtcome, rfl,
    hsimulation⟩

end WeatherTelegram
