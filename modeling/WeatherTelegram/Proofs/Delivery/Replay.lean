import WeatherTelegram.Command.Run
import WeatherTelegram.Proofs.Delivery.Sender
import WeatherTelegram.Proofs.Telegram.Decode

/-!
# `Proofs.Delivery.Replay` — every record is accounted for

A record is kept, skipped or blank. What is kept is posted once, as it was recorded and in the order of the
file, and each post is counted as taken or as not taken. A file that cannot be read to its end is not
replayed at all.

## Contents
- **Records.** `recorded?`, `ReplayRow.ofRecord_cases`, `rows_replayRows`, `length_records`.
- **Replays.** `IsReplayOf`, `replayAll_run`, `replay_of_records`, `replay_of_fault`.
- **Commands.** `Surroundings.Offers`, `runReplay_eq`, `replay_conserves`.
-/

namespace WeatherTelegram

/-! ## Records -/

/-- The number and the telegram of a record of three columns, the first of which is a whole number. -/
def recorded? : List Text → Option (Text × Text)
  | [status, number, message] =>
    if (Text.wholeNumber? status).isSome then some (number, message) else none
  | _ => none

/-- A record is blank, kept or skipped. -/
theorem ReplayRow.ofRecord_cases (record : List Text) :
    (record = [] ∧ ofRecord record = .blank) ∨
    (record ≠ [] ∧ ∃ number message, recorded? record = some (number, message) ∧
      ofRecord record = .kept number message) ∨
    (record ≠ [] ∧ recorded? record = none ∧ (ofRecord record).kept? = none ∧
      (ofRecord record).isSkipped = true) := by
  match record with
  | [] => exact .inl ⟨rfl, rfl⟩
  | [status, number, message] =>
    cases h : (Text.wholeNumber? status).isSome with
    | true =>
      refine .inr (.inl ⟨nofun, number, message, ?_, ?_⟩)
      · rw [recorded?, if_pos h]
      · rw [ofRecord, if_pos h]
    | false =>
      have hrow : ofRecord [status, number, message] = .ofStatus status := by
        simp only [ofRecord, h]
        rfl
      refine .inr (.inr ⟨nofun, ?_, ?_, ?_⟩)
      · simp only [recorded?, h]
        rfl
      · rw [hrow]
        rfl
      · rw [hrow]
        rfl
  | [_] | [_, _] | _ :: _ :: _ :: _ :: _ => exact .inr (.inr ⟨nofun, rfl, rfl, rfl⟩)

theorem ReplayRow.kept?_ofRecord (record : List Text) : (ofRecord record).kept? = recorded? record := by
  rcases ofRecord_cases record with
    ⟨rfl, _⟩ | ⟨_, number, message, hrecorded, hrow⟩ | ⟨_, hnone, hkept, _⟩
  · rfl
  · rw [hrecorded, hrow]
    rfl
  · rw [hnone, hkept]

/-- The telegrams of a file are those of the records that are kept, in order. -/
theorem rows_replayRows (records : List (List Text)) :
    (replayRows records).rows = records.filterMap recorded? := by
  simp only [replayRows, List.filterMap_map]
  congr 1
  funext record
  exact ReplayRow.kept?_ofRecord record

/-- **Every record is counted once**: as kept, as skipped or as blank. -/
theorem length_records (records : List (List Text)) :
    (records.filterMap recorded?).length + (replayRows records).skipped + records.count [] =
      records.length := by
  induction records with
  | nil => rfl
  | cons record records ih =>
    simp only [replayRows, List.countP_map, List.countP_cons, List.count_cons, List.filterMap_cons,
      List.length_cons, Function.comp_apply] at ih ⊢
    rcases ReplayRow.ofRecord_cases record with
      ⟨rfl, hrow⟩ | ⟨hne, number, message, hrecorded, hrow⟩ | ⟨hne, hnone, _, hskipped⟩
    · simp only [hrow, recorded?, ReplayRow.isSkipped, BEq.rfl, Bool.false_eq_true, ↓reduceIte]
      omega
    · simp only [hrow, hrecorded, hne, ReplayRow.isSkipped, List.beq_nil_eq, List.isEmpty_iff,
        List.length_cons, Bool.false_eq_true, ↓reduceIte]
      omega
    · simp only [hnone, hskipped, hne, List.beq_nil_eq, List.isEmpty_iff, ↓reduceIte]
      omega

/-! ## Replays -/

section

variable {sender : Sender} {replies : Replies} {records : List (List Text)} {octets : List UInt8}

/-- What a replay of records comes to: its posts, and how records and deliveries are counted. -/
structure IsReplayOf (sender : Sender) (replies : Replies) (records : List (List Text))
    (posts : List Post) (result : ReplayResult) : Prop where
  posts : posts = (records.filterMap recorded?).map sender.postOf
  counted : (records.filterMap recorded?).length + result.skipped + records.count [] = records.length
  deliveries : result.sent + result.failed = (records.filterMap recorded?).length
  sent : result.sent = (replies.first (records.filterMap recorded?).length).countP Reply.isTaken

/-- The posts and counts of the telegrams of a file. -/
theorem replayAll_run (h : replies.IsOrdinary) (sender : Sender) (path : Text) (rows : ReplayRows)
    {tally : Tally} (htally : tally = Tally.zero.afterAll (replies.first rows.rows.length)) :
    (replayAll sender replies path rows).outcome = .ok ⟨tally.sent, tally.failed, rows.skipped⟩ ∧
      (replayAll sender replies path rows).posts = rows.rows.map sender.postOf := by
  obtain ⟨houtcome, hposts⟩ := sender.deliverAll_run h .zero rows.rows
  have hdelivered := Traced.outcome_mapError_ok houtcome RunFault.delivery
  rw [← htally] at hdelivered
  constructor
  · simp only [replayAll, Traced.outcome_bind, hdelivered]
    rfl
  · rw [replayAll, Traced.posts_bind_ok rfl, Traced.posts_bind_ok hdelivered, Traced.posts_bind_ok rfl,
      Traced.posts_mapError, hposts]
    simp

/-- **A file that is read to its end is replayed**, record by record. -/
theorem replay_of_records (h : replies.IsOrdinary) (hread : replayRecords octets = (records, none))
    (sender : Sender) (path : Text) : ∃ result, (replay sender replies path octets).outcome = .ok result ∧
      IsReplayOf sender replies records (replay sender replies path octets).posts result := by
  have hrows : ((readReplay octets).withEvents).outcome = .ok (replayRows records) := by
    simp only [readReplay, hread]
    rfl
  obtain ⟨houtcome, hposts⟩ := replayAll_run h sender path (replayRows records) rfl
  rw [rows_replayRows] at houtcome hposts
  have hreplay : (replay sender replies path octets).outcome =
      (replayAll sender replies path (replayRows records)).outcome := by
    rw [replay, Traced.outcome_bind, hrows]
    rfl
  refine ⟨_, hreplay.trans houtcome, ?_, length_records records, ?_, Nat.zero_add _⟩
  · rw [replay, Traced.posts_bind_ok hrows, Traced.posts_withEvents, hposts]
    rfl
  · rw [Tally.afterAll_total, Replies.length_first]
    exact Nat.zero_add _

/-- A file that cannot be read to its end is not replayed. -/
theorem replay_of_fault {fault : RunFault} (hread : replayRecords octets = (records, some fault))
    (sender : Sender) (replies : Replies) (path : Text) :
    (replay sender replies path octets).outcome = .error fault ∧
      (replay sender replies path octets).posts = [] := by
  have hrows : ((readReplay octets).withEvents).outcome = .error fault := by
    simp only [readReplay, hread]
    rfl
  constructor
  · rw [replay, Traced.outcome_bind, hrows]
    rfl
  · rw [replay, Traced.posts_bind_error hrows, Traced.posts_withEvents]

/-! ## Commands -/

/-- The surroundings give settings for a sender, and octets for the file at a path. -/
structure Surroundings.Offers (w : Surroundings) (path : Text) (url : Option Text) (sender : Sender)
    (octets : List UInt8) : Prop where
  settings : ∃ settings, w.settings (simulationOverrides none none url) = .ok settings ∧
    settings.sender = sender
  plain : '\x00' ∉ pathText path
  file : w.file (pathText path) = .ok octets

/-- The command is a replay, which fails if a telegram was not taken. -/
theorem runReplay_eq {w : Surroundings} {path : Text} {url : Option Text}
    (h : w.Offers path url sender octets) :
    runReplay w path url = (replay sender w.replies (pathText path) octets >>= fun result =>
      pure (if result.failed = 0 then .success else .failure)) := by
  obtain ⟨settings, hsettings, rfl⟩ := h.settings
  have hplain : (pathText path).elem '\x00' = false := by simpa using h.plain
  rw [runReplay, hsettings]
  simp only [Traced.ofExcept_bind_ok, hplain, h.file]
  exact if_neg (by decide)

/-- **A replay conserves its records.** The records of three columns whose first is a whole number are
    posted, each once, as they were recorded and in the order of the file. Every record is kept, skipped
    or blank, every kept one is taken or not, and the command fails if and only if one was not taken. A
    file that cannot be read to its end ends the replay before its first post. -/
theorem replay_conserves (h : replies.IsOrdinary) (octets : List UInt8) (sender : Sender) (path : Text) :
    match replayRecords octets with
    | (records, none) =>
      (∃ result, (replay sender replies path octets).outcome = .ok result ∧
        IsReplayOf sender replies records (replay sender replies path octets).posts result) ∧
      ∀ (w : Surroundings) (url : Option Text), w.Offers path url sender octets → w.replies = replies →
        ∃ result status, IsReplayOf sender replies records (runReplay w path url).posts result ∧
          (runReplay w path url).outcome = .ok status ∧ (status.code = 1 ↔ 0 < result.failed)
    | (_, some fault) =>
      (replay sender replies path octets).outcome = .error fault ∧
        (replay sender replies path octets).posts = [] := by
  split
  · rename_i records hread
    refine ⟨replay_of_records h hread sender path, ?_⟩
    rintro w url hoffers rfl
    obtain ⟨result, hresult, hreplay⟩ := replay_of_records h hread sender (pathText path)
    have hposts : (runReplay w path url).posts =
        (replay sender w.replies (pathText path) octets).posts := by
      rw [runReplay_eq hoffers, Traced.posts_bind_ok hresult, Traced.posts_pure, List.append_nil]
    refine ⟨result, if result.failed = 0 then .success else .failure, hposts ▸ hreplay, ?_, ?_⟩
    · rw [runReplay_eq hoffers, Traced.outcome_bind, hresult]
      rfl
    · by_cases hfailed : result.failed = 0
      · simp [hfailed, ExitStatus.code]
      · simp [hfailed, ExitStatus.code]
        omega
  · rename_i records fault hread
    exact replay_of_fault hread sender replies path

end

/-- A file of a header, a telegram, a blank line, a short record and a quoted telegram. -/
def sampleFile : List UInt8 :=
  (Text.ofString "status,number,msg\r\n1,639171234567,0+1\r\n\r\n2,639171234567\r\n 3 ,x,\"a,b\"").map
    fun c => c.toNat.toUInt8

/-- Surroundings with that file under every path. -/
def sampleSurroundings : Surroundings :=
  ⟨[], fun path => if path = envPath then .error .absent else .ok sampleFile, fun _ => sampleReceipt,
    sampleReplies, 1⟩

/-- The records of that file. -/
def sampleRecords : List (List Text) :=
  [["status", "number", "msg"], ["1", "639171234567", "0+1"], [], ["2", "639171234567"],
    [" 3 ", "x", "a,b"]].map fun record => record.map Text.ofString

theorem replayRecords_sampleFile : replayRecords sampleFile = (sampleRecords, none) :=
  Prod.ext (by decide +kernel) (Option.isNone_iff_eq_none.mp (by decide +kernel))

/-- Two telegrams are posted, of which one is taken; two records are skipped. -/
theorem replay_conserves_sample : sampleReplies.IsOrdinary ∧ ∃ sender status,
    sampleSurroundings.Offers ['r'] none sender sampleFile ∧
    (runReplay sampleSurroundings ['r'] none).posts =
      [sender.postOf (Text.ofString "639171234567", Text.ofString "0+1"),
        sender.postOf (['x'], Text.ofString "a,b")] ∧
    IsReplayOf sender sampleReplies sampleRecords (runReplay sampleSurroundings ['r'] none).posts
      ⟨1, 1, 2⟩ ∧
    (runReplay sampleSurroundings ['r'] none).outcome = .ok status ∧ status.code = 1 := by
  obtain ⟨settings, hsettings⟩ : ∃ settings,
      sampleSurroundings.settings (simulationOverrides none none none) = .ok settings :=
    exists_of_isOk (by decide +kernel)
  have hoffers : sampleSurroundings.Offers ['r'] none settings.sender sampleFile :=
    ⟨⟨settings, hsettings, rfl⟩, by decide, rfl⟩
  have hkept : sampleRecords.filterMap recorded? =
      [(Text.ofString "639171234567", Text.ofString "0+1"), (['x'], Text.ofString "a,b")] := by
    decide +kernel
  have hconserved := replay_conserves isOrdinary_sampleReplies sampleFile settings.sender ['r']
  rw [replayRecords_sampleFile] at hconserved
  obtain ⟨⟨sent, failed, skipped⟩, status, hreplay, houtcome, hstatus⟩ :=
    hconserved.2 sampleSurroundings none hoffers rfl
  obtain ⟨hposts, hcounted, hdeliveries, hsent⟩ := id hreplay
  rw [hkept] at hposts hcounted hdeliveries hsent
  obtain rfl : sent = 1 := hsent
  obtain rfl : failed = 1 := Nat.add_left_cancel hdeliveries
  obtain rfl : skipped = 2 := by
    have hblank : sampleRecords.count [] = 1 := by decide
    have hall : sampleRecords.length = 5 := rfl
    simp only [List.length_cons, List.length_nil] at hcounted
    omega
  exact ⟨isOrdinary_sampleReplies, _, status, hoffers, hposts, hreplay, houtcome,
    hstatus.mpr Nat.one_pos⟩

end WeatherTelegram
