import WeatherTelegram.Proofs.Time.Plausibility

/-!
# `Proofs.Time.Window` — the window of the clock check is exact

A difference of one microsecond more than the window is more than the errors of both roundings, so the
count in doubles leaves the window exactly where the difference does. With what the window keeps this
decides the check of every timestamp.

## Contents
- **Minutes.** `minutesBetween_near`, and from it `lt_minutesBetween` and `minutesBetween_lt_one`.
- **Faults.** `clockFault?_ahead`, `clockFault?_behind`, `clockFault?_iff`, `ClockFault.message_ne_nil`.
- **The check.** `checkStamp_of_not_isPlausible`, `checkStamp_of_lt_second`; `StampCheck.IsExact`,
  `isExact_of_checkStamp`.
-/

namespace WeatherTelegram

open Binary64

/-! ## Minutes -/

/-- The minutes of a difference are off by the errors of two roundings, half a unit in the last place
    each. -/
theorem minutesBetween_near {d : ℤ} (hd : d.natAbs ≤ 10 ^ 20) :
    ∃ m, minutesBetween d = .finite (decide (d < 0)) m ∧ |m.value - d.natAbs / 60000000| ≤
      d.natAbs / 60000000 / 2 ^ 52 + d.natAbs / 60000000 / 2 ^ 106 + 1 / 2 ^ 59 := by
  have hd' : (d.natAbs : ℚ) ≤ 10 ^ 20 := by exact_mod_cast hd
  obtain ⟨s, m, hm, hseconds, hminutes⟩ := minutesBetween_rounds (d := d) (by omega)
  have hsge := hseconds.approximates.ge
  have hsle := hseconds.approximates.le
  have hge := hminutes.approximates.ge
  have hle := hminutes.approximates.le
  exact ⟨m, hm, abs_le.mpr ⟨by linarith, by linarith⟩⟩

/-- More than some whole minutes are counted as more, up to the ninety days of the window. -/
theorem lt_minutesBetween {d : ℤ} {n : ℕ} (hn : n ≤ 129600) (h : n * 60 * 1000000 < d.natAbs)
    (hd : d.natAbs ≤ 10 ^ 20) :
    ∃ m, minutesBetween d = .finite (decide (d < 0)) m ∧ n < m.value := by
  have hn' : (n : ℚ) ≤ 129600 := by exact_mod_cast hn
  have h' : (n : ℚ) * 60 * 1000000 + 1 ≤ d.natAbs := by exact_mod_cast h
  obtain ⟨m, hm, herr⟩ := minutesBetween_near hd
  have hlower := (abs_le.mp herr).1
  exact ⟨m, hm, by linarith⟩

/-- Less than a second is no whole minute. -/
theorem minutesBetween_lt_one {d : ℤ} (h : d.natAbs < 1000000) :
    ∃ m, minutesBetween d = .finite (decide (d < 0)) m ∧ m.value < 1 := by
  have h' : (d.natAbs : ℚ) < 1000000 := by exact_mod_cast h
  obtain ⟨m, hm, herr⟩ := minutesBetween_near (d := d) (by omega)
  have hupper := (abs_le.mp herr).2
  exact ⟨m, hm, by linarith⟩

/-! ## Faults -/

theorem clockFault?_ahead {m : Magnitude} (h : 129600 < m.value) :
    clockFault? (.finite true m) = some (.ahead (.finite true m)) := by
  obtain ⟨l, hl, hleast⟩ := ofRatio_natural true (n := 129600) (by decide)
  push_cast at hleast
  have hleastEq : ofInt leastMinutes = .finite true l := hl
  have hlt : Binary64.finite true m < .finite true l := by
    apply (lt_finite_iff true true m l).mpr
    rw [value_finite_true, value_finite_true, hleast]
    linarith
  unfold clockFault?
  rw [hleastEq, if_pos hlt]

theorem clockFault?_behind {m : Magnitude} (h : 1440 < m.value) :
    clockFault? (.finite false m) = some (.behind (.finite false m)) := by
  obtain ⟨l, hl, hleast⟩ := ofRatio_natural true (n := 129600) (by decide)
  obtain ⟨u, hu, hmost⟩ := ofRatio_natural false (n := 1440) (by decide)
  push_cast at hleast hmost
  have hleastEq : ofInt leastMinutes = .finite true l := hl
  have hmostEq : ofInt mostMinutes = .finite false u := hu
  have hnot : ¬ Binary64.finite false m < .finite true l := by
    intro hlt
    have hvalue := (lt_finite_iff false true m l).mp hlt
    rw [value_finite_false, value_finite_true, hleast] at hvalue
    linarith
  have hlt : Binary64.finite false u < .finite false m := by
    apply (lt_finite_iff false false u m).mpr
    rw [value_finite_false, value_finite_false, hmost]
    exact h
  unfold clockFault?
  rw [hleastEq, hmostEq, if_neg hnot, if_pos hlt]

/-- **The difference decides the fault**, to the microsecond. -/
theorem clockFault?_iff {d : ℤ} (hbound : d.natAbs ≤ 10 ^ 20) :
    ∃ s m, minutesBetween d = .finite s m ∧
      ((∃ minutes, clockFault? (.finite s m) = some (.ahead minutes)) ↔ d < -(90 * microsecondsPerDay)) ∧
      ((∃ minutes, clockFault? (.finite s m) = some (.behind minutes)) ↔ microsecondsPerDay < d) := by
  by_cases hahead : d < -(90 * microsecondsPerDay)
  · obtain ⟨m, hm, hlt⟩ := lt_minutesBetween (d := d) (n := 129600) (by decide)
      (by unfold microsecondsPerDay at hahead; omega) hbound
    rw [decide_eq_true (by unfold microsecondsPerDay at hahead; omega)] at hm
    have hfault := clockFault?_ahead (m := m) (by exact_mod_cast hlt)
    refine ⟨true, m, hm, iff_of_true ⟨_, hfault⟩ hahead, iff_of_false ?_ ?_⟩
    · rintro ⟨minutes, hbehind⟩
      rw [hfault] at hbehind
      cases hbehind
    · unfold microsecondsPerDay at *
      omega
  · by_cases hbehind : microsecondsPerDay < d
    · obtain ⟨m, hm, hlt⟩ := lt_minutesBetween (d := d) (n := 1440) (by decide)
        (by unfold microsecondsPerDay at hbehind; omega) hbound
      rw [decide_eq_false (by unfold microsecondsPerDay at hbehind; omega)] at hm
      have hfault := clockFault?_behind (m := m) (by exact_mod_cast hlt)
      refine ⟨false, m, hm, iff_of_false ?_ hahead, iff_of_true ⟨_, hfault⟩ hbehind⟩
      rintro ⟨minutes, hahead'⟩
      rw [hfault] at hahead'
      cases hahead'
    · have hinside : IsPlausible d 0 := ⟨by omega, by omega⟩
      obtain ⟨s, m, hm, hfault⟩ := clockFault?_minutesBetween hinside
      rw [sub_zero] at hm
      refine ⟨s, m, hm, iff_of_false ?_ hahead, iff_of_false ?_ hbehind⟩
      · rintro ⟨minutes, hsome⟩
        rw [hfault] at hsome
        cases hsome
      · rintro ⟨minutes, hsome⟩
        rw [hfault] at hsome
        cases hsome

/-- Every fault has something to say. -/
theorem ClockFault.message_ne_nil (fault : ClockFault) : fault.message ≠ [] := by
  cases fault with
  | ahead minutes => exact List.cons_ne_nil _ _
  | behind minutes => exact List.cons_ne_nil _ _

/-! ## The check -/

theorem checkStamp_none {now : Instant} {received : ℤ} (hnow : now.moment? = some received) :
    checkStamp none now = .ok ⟨now, 0, none⟩ := by
  unfold checkStamp
  simp only [hnow]

/-- **Outside the window** the time of receipt stands in, and the fault is kept. -/
theorem checkStamp_of_not_isPlausible {now st : Instant} {received taken : ℤ}
    (hd : now.since? st = some (received - taken)) (hbound : (received - taken).natAbs ≤ 10 ^ 20)
    (h : ¬ IsPlausible received taken) :
    ∃ whole fault, (checkStamp (some st) now).outcome = .ok ⟨now, whole, some fault⟩ := by
  obtain ⟨s, m, hm, hahead, hbehind⟩ := clockFault?_iff hbound
  have hfault : ∃ fault, clockFault? (.finite s m) = some fault := by
    by_cases hearly : received - taken < -(90 * microsecondsPerDay)
    · obtain ⟨minutes, hminutes⟩ := hahead.mpr hearly
      exact ⟨_, hminutes⟩
    · obtain ⟨minutes, hminutes⟩ := hbehind.mpr (not_le.mp fun hle => h ⟨not_lt.mp hearly, hle⟩)
      exact ⟨_, hminutes⟩
  obtain ⟨fault, hfault⟩ := hfault
  refine ⟨Int.tdiv (signedSteps s m) stepsPerUnit, fault, ?_⟩
  rw [checkStamp_some hd, hm, outcome_checkMinutes, hfault]
  rfl

/-- **Within the second** of the receipt a timestamp is kept, without a difference. -/
theorem checkStamp_of_lt_second {now st : Instant} {received taken : ℤ}
    (hd : now.since? st = some (received - taken))
    (hbefore : taken ≤ received) (hsecond : received < taken + 1000000) :
    checkStamp (some st) now = .ok ⟨st, 0, none⟩ := by
  obtain ⟨m, hm, hlt⟩ := minutesBetween_lt_one (d := received - taken) (by omega)
  rw [decide_eq_false (by omega)] at hm
  have hnone : clockFault? (.finite false m) = none :=
    clockFault?_eq_none (fun _ => by linarith) (fun h => by cases h)
  have hwhole : Int.tdiv (signedSteps false m) stepsPerUnit = 0 := by
    apply Int.tdiv_eq_zero_of_lt (Int.natCast_nonneg _)
    have hsteps : (m.steps : ℚ) < stepsPerUnit := by
      have hscaled := mul_lt_mul_of_pos_right hlt cast_stepsPerUnit_pos
      rwa [m.value_mul_stepsPerUnit, one_mul] at hscaled
    show (m.steps : ℤ) < stepsPerUnit
    exact_mod_cast hsteps
  rw [checkStamp_some hd, hm, checkMinutes_of_fault_none st now hnone, hwhole]

/-- Whether a timestamp was taken outside the window of a receipt. -/
def IsOutside (now : Instant) (st : Instant) : Prop :=
  ∃ received taken, now.moment? = some received ∧ st.moment? = some taken ∧
    ¬ IsPlausible received taken

/-- What the check makes of a timestamp, or of none. -/
structure StampCheck.IsExact (stamp : Option Instant) (now : Instant) (c : StampCheck) : Prop where
  window : ∃ received taken, now.moment? = some received ∧ c.timestamp.moment? = some taken ∧
    IsPlausible received taken
  fault : c.message ≠ [] ↔ ∃ st, stamp = some st ∧ IsOutside now st
  replaced : c.message ≠ [] → c.timestamp = now
  absent : stamp = none → c.timestamp = now ∧ c.minutesDifference = 0 ∧ c.message = []
  kept : ∀ st, stamp = some st → c.message = [] → c.timestamp = st

/-- A receipt is inside its own window. -/
theorem isPlausible_self (received : ℤ) : IsPlausible received received := by
  unfold IsPlausible
  omega

/-- **The check is exact** for readings of the stations' clock, to the microsecond. -/
theorem isExact_of_checkStamp {stamp : Option Instant} {now : Instant} {c : StampCheck}
    (hnow : now.IsAware) (hstamp : ∀ st, stamp = some st → st.zone = .station)
    (h : (checkStamp stamp now).outcome = .ok c) : c.IsExact stamp now := by
  obtain ⟨received, hreceived, hr⟩ := hnow.exists_moment?
  cases stamp with
  | none =>
    rw [checkStamp_none hreceived] at h
    cases h
    refine ⟨⟨_, _, hreceived, hreceived, isPlausible_self _⟩, ?_, fun _ => rfl, fun _ => ⟨rfl, rfl, rfl⟩, ?_⟩
    · refine ⟨fun hne => absurd rfl hne, ?_⟩
      rintro ⟨st, hst, _⟩
      cases hst
    · intro st hst
      cases hst
  | some st =>
    obtain ⟨taken, htaken, ht⟩ := (isAware_of_station (hstamp st rfl)).exists_moment?
    have hd := since?_of_station (hstamp st rfl) hreceived htaken
    unfold microsecondsPerDay at hr ht
    by_cases hwindow : IsPlausible received taken
    · obtain ⟨whole, hcheck⟩ := checkStamp_of_isPlausible hd hwindow
      rw [hcheck] at h
      cases h
      refine ⟨⟨_, _, hreceived, htaken, hwindow⟩, ?_, fun hne => absurd rfl hne, ?_, ?_⟩
      · refine ⟨fun hne => absurd rfl hne, ?_⟩
        rintro ⟨st', hst', received', taken', hreceived', htaken', hout⟩
        cases hst'
        obtain rfl := Option.some.inj (hreceived.symm.trans hreceived')
        obtain rfl := Option.some.inj (htaken.symm.trans htaken')
        exact absurd hwindow hout
      · intro hnone
        cases hnone
      · intro st' hst' _
        cases hst'
        rfl
    · obtain ⟨whole, fault, hcheck⟩ := checkStamp_of_not_isPlausible hd (by omega) hwindow
      rw [hcheck] at h
      cases h
      have hmessage := fault.message_ne_nil
      refine ⟨⟨_, _, hreceived, hreceived, isPlausible_self _⟩, ?_, fun _ => rfl, ?_, ?_⟩
      · exact ⟨fun _ => ⟨st, rfl, _, _, hreceived, htaken, hwindow⟩, fun _ => hmessage⟩
      · intro hnone
        cases hnone
      · intro st' _ hnil
        exact absurd hnil hmessage

end WeatherTelegram
