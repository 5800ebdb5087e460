import WeatherTelegram.Proofs.Binary64.Value
import WeatherTelegram.Proofs.Time.Stamp
import WeatherTelegram.Time.Plausibility

/-!
# `Proofs.Time.Plausibility` — the window of the clock check

Minutes are counted in doubles, with a rounding to seconds and one to minutes. Both are monotone and
the ends of the window are doubles, so that no difference inside the window is counted out of it. The
differences that two clocks can show are far from overflow, so the check always has an answer.

## Contents
- `minutesBetween_rounds`, and from it `minutesBetween_le` and `le_minutesBetween`: whole minutes bound
  what is counted as they bound the difference.
- `IsPlausible`: the window in microseconds, with `clockFault?_eq_none` and `clockFault?_minutesBetween`.
- `checkStamp_of_isPlausible`, `checkStamp_total`, `timestamp_of_checkStamp`: the outcome in the window,
  and anywhere.
-/

namespace WeatherTelegram

open Binary64

/-! ## Minutes -/

/-- Minutes are counted with two roundings, to seconds and then to minutes. -/
theorem minutesBetween_rounds {d : ℤ} (hd : d.natAbs ≤ 10 ^ 50) : ∃ seconds minutes : Magnitude,
    minutesBetween d = .finite (decide (d < 0)) minutes ∧ Rounds seconds (d.natAbs / 1000000) ∧
      Rounds minutes (seconds.value / 60) := by
  have hd' : (d.natAbs : ℚ) ≤ 10 ^ 50 := by exact_mod_cast hd
  -- the seconds
  obtain ⟨m, hm, hseconds⟩ := ofRatio_rounds (decide (d < 0)) d.natAbs (show 0 < 1000000 by decide)
    (inRange_of_le (by push_cast; linarith))
  push_cast at hseconds
  have hle := hseconds.approximates.le
  -- the minutes
  obtain ⟨w, hw, hsixty⟩ := ofRatio_natural false (n := 60) (by decide)
  push_cast at hsixty
  have hpos : 0 < w.value := by
    rw [hsixty]
    norm_num
  obtain ⟨p, hp, hminutes⟩ := div_rounds (decide (d < 0)) false m hpos
    (inRange_of_le (by rw [hsixty]; linarith))
  rw [hsixty] at hminutes
  refine ⟨m, p, ?_, hseconds, hminutes⟩
  show ofRatio (decide (d < 0)) d.natAbs 1000000 / ofRatio false 60 1 = _
  rw [hm, hw, hp, Bool.bne_false]

/-- At most some whole minutes are counted as at most these. -/
theorem minutesBetween_le {d : ℤ} {n : ℕ} (hn : n * 60 < 2 ^ precision)
    (h : d.natAbs ≤ n * 60 * 1000000) :
    ∃ m, minutesBetween d = .finite (decide (d < 0)) m ∧ m.value ≤ n := by
  have h' : (d.natAbs : ℚ) ≤ n * 60 * 1000000 := by exact_mod_cast h
  obtain ⟨s, m, hm, hseconds, hminutes⟩ := minutesBetween_rounds (d := d)
    (by unfold precision at hn; omega)
  have hs := hseconds.le_natural (n * 60) hn (by push_cast; linarith)
  push_cast at hs
  exact ⟨m, hm, hminutes.le_natural n (by omega) (by linarith)⟩

/-- A telegram that was received at most a day after it was taken and at most ninety days before. -/
def IsPlausible (received taken : ℤ) : Prop :=
  -(90 * microsecondsPerDay) ≤ received - taken ∧ received - taken ≤ microsecondsPerDay

/-- Minutes up to a day behind and up to ninety days ahead are no fault. -/
theorem clockFault?_eq_none {s : Bool} {m : Magnitude} (hbehind : s = false → m.value ≤ 1440)
    (hahead : s = true → m.value ≤ 129600) : clockFault? (.finite s m) = none := by
  obtain ⟨l, hl, hleast⟩ := ofRatio_natural true (n := 129600) (by decide)
  obtain ⟨u, hu, hmost⟩ := ofRatio_natural false (n := 1440) (by decide)
  push_cast at hleast hmost
  have hnonneg := m.value_nonneg
  have hleastEq : ofInt leastMinutes = .finite true l := hl
  have hmostEq : ofInt mostMinutes = .finite false u := hu
  unfold clockFault?
  rw [hleastEq, hmostEq, if_neg, if_neg]
  · intro hlt
    have hvalue := (lt_finite_iff false s u m).mp hlt
    cases s with
    | false =>
      rw [value_finite_false, value_finite_false, hmost] at hvalue
      exact absurd (hbehind rfl) (not_le.mpr hvalue)
    | true =>
      rw [value_finite_false, value_finite_true, hmost] at hvalue
      linarith
  · intro hlt
    have hvalue := (lt_finite_iff s true m l).mp hlt
    cases s with
    | false =>
      rw [value_finite_false, value_finite_true, hleast] at hvalue
      linarith
    | true =>
      rw [value_finite_true, value_finite_true, hleast] at hvalue
      linarith [hahead rfl]

/-- **The window is kept** by the count in doubles. -/
theorem clockFault?_minutesBetween {received taken : ℤ} (h : IsPlausible received taken) :
    ∃ s m, minutesBetween (received - taken) = .finite s m ∧ clockFault? (.finite s m) = none := by
  obtain ⟨hleast, hmost⟩ := h
  unfold microsecondsPerDay at hleast hmost
  by_cases hneg : received - taken < 0
  · obtain ⟨m, hm, hle⟩ := minutesBetween_le (d := received - taken) (n := 129600) (by decide)
      (by omega)
    refine ⟨true, m, by rw [hm, decide_eq_true hneg], clockFault?_eq_none (fun h => by cases h) ?_⟩
    exact fun _ => by exact_mod_cast hle
  · obtain ⟨m, hm, hle⟩ := minutesBetween_le (d := received - taken) (n := 1440) (by decide)
      (by omega)
    refine ⟨false, m, by rw [hm, decide_eq_false hneg], clockFault?_eq_none ?_ fun h => by cases h⟩
    exact fun _ => by exact_mod_cast hle

/-! ## The check -/

theorem checkMinutes_of_fault_none (st now : Instant) {s : Bool} {m : Magnitude}
    (h : clockFault? (.finite s m) = none) :
    checkMinutes st now (.finite s m) = .ok ⟨st, Int.tdiv (signedSteps s m) stepsPerUnit, none⟩ := by
  unfold checkMinutes
  rw [h]
  rfl

/-- The answer to a number of minutes: the fault decides which of the two times is kept. -/
theorem outcome_checkMinutes (st now : Instant) (s : Bool) (m : Magnitude) :
    (checkMinutes st now (.finite s m)).outcome =
      .ok ⟨if clockFault? (.finite s m) = none then st else now,
        Int.tdiv (signedSteps s m) stepsPerUnit, clockFault? (.finite s m)⟩ := by
  unfold checkMinutes
  cases clockFault? (.finite s m) with
  | none => rfl
  | some fault => rfl

theorem checkStamp_some {now st : Instant} {d : ℤ} (hd : now.since? st = some d) :
    checkStamp (some st) now = checkMinutes st now (minutesBetween d) := by
  obtain ⟨received, _, hreceived, _⟩ := Instant.exists_moment?_of_since? hd
  simp [checkStamp, hreceived, hd]

/-- **In the window** a timestamp is kept without a fault. -/
theorem checkStamp_of_isPlausible {now st : Instant} {received taken : ℤ}
    (hd : now.since? st = some (received - taken)) (h : IsPlausible received taken) :
    ∃ whole, checkStamp (some st) now = .ok ⟨st, whole, none⟩ := by
  obtain ⟨s, m, hminutes, hfault⟩ := clockFault?_minutesBetween h
  exact ⟨_, by rw [checkStamp_some hd, hminutes, checkMinutes_of_fault_none st now hfault]⟩

/-- **The check has an answer** whenever both clocks are known. -/
theorem checkStamp_total (stamp : Option Instant) {now : Instant} (hnow : now.IsAware)
    (hstamp : ∀ st, stamp = some st → st.IsAware) :
    ∃ check, (checkStamp stamp now).outcome = .ok check := by
  obtain ⟨received, hreceived, _⟩ := hnow.exists_moment?
  cases stamp with
  | none =>
    refine ⟨⟨now, 0, none⟩, ?_⟩
    unfold checkStamp
    rw [hreceived]
    rfl
  | some st =>
    obtain ⟨d, hd, hbound⟩ := hnow.exists_since? (hstamp st rfl)
    unfold microsecondsPerDay at hbound
    obtain ⟨m, hm, _⟩ := minutesBetween_le (d := d) (n := 10 ^ 12) (by decide) (by omega)
    rw [checkStamp_some hd, hm]
    exact ⟨_, outcome_checkMinutes st now _ m⟩

/-- The timestamp to keep is the one that was checked, or the time of receipt. -/
theorem timestamp_of_checkMinutes {st now : Instant} {minutes : Binary64} {check : StampCheck}
    (h : (checkMinutes st now minutes).outcome = .ok check) :
    check.timestamp = st ∨ check.timestamp = now := by
  unfold checkMinutes at h
  cases hwhole : minutes.truncate? with
  | error cause =>
    rw [hwhole] at h
    cases h
  | ok whole =>
    rw [hwhole] at h
    cases hfault : clockFault? minutes with
    | none =>
      rw [hfault] at h
      cases h
      exact .inl rfl
    | some fault =>
      rw [hfault] at h
      cases h
      exact .inr rfl

theorem timestamp_of_checkStamp {stamp : Option Instant} {now : Instant} {check : StampCheck}
    (h : (checkStamp stamp now).outcome = .ok check) :
    stamp = some check.timestamp ∨ check.timestamp = now := by
  cases hnow : now.moment? with
  | none =>
    simp only [checkStamp, hnow] at h
    cases h
  | some received =>
    cases stamp with
    | none =>
      simp only [checkStamp, hnow] at h
      cases h
      exact .inr rfl
    | some st =>
      cases hd : now.since? st with
      | none =>
        simp only [checkStamp, hnow, hd] at h
        cases h
      | some d =>
        rw [checkStamp_some hd] at h
        exact (timestamp_of_checkMinutes h).imp_left fun heq => by rw [heq]

/-- The stations' clock is a known one. -/
theorem isAware_of_station {st : Instant} (h : st.zone = .station) : st.IsAware :=
  ⟨stationOffset, by rw [h]; rfl, by decide⟩

theorem isAware_of_ofStamp? {token : Text} {st : Instant} (h : Instant.ofStamp? token = some st) :
    st.IsAware :=
  isAware_of_station (Instant.station_of_ofStamp? h).1

/-- Between a reading of any clock and one of the stations' clock lies the time between their moments. -/
theorem since?_of_station {now st : Instant} (hst : st.zone = .station) {received taken : ℤ}
    (hreceived : now.moment? = some received) (htaken : st.moment? = some taken) :
    now.since? st = some (received - taken) :=
  Instant.since?_of_moments hreceived htaken
    (Instant.sharesClock_of_isSteady (Instant.isSteady_of_station hst) now)

end WeatherTelegram
