import WeatherTelegram.Proofs.Telegram.Fields
import WeatherTelegram.Settings.Load

/-!
# `Proofs.Settings.Load` — what it takes for settings to be accepted

Settings are accepted when each value is within its own bounds and no name is unknown, and then they are
those values.

## Contents
- `bind_refuse_eq_ok_iff`: a value that is read and then refused or kept.
- `checkStationNumbers_eq_ok_iff`, `checkSettings_eq_ok_iff`, `load_eq_ok_iff`.
- `numbers_ne_nil_of_load`: there is a station.
-/

namespace WeatherTelegram

section

variable {ε α β : Type} {x : Except ε α} {refused : α → Prop} [DecidablePred refused] {fault : ε}
  {keep : α → β} {b : β}

/-- A value that is read and then refused or kept. -/
theorem bind_refuse_eq_ok_iff :
    (x.bind fun a => if refused a then .error fault else .ok (keep a)) = .ok b ↔
      ∃ a, x = .ok a ∧ ¬ refused a ∧ keep a = b := by
  rw [bind_ok_iff]
  constructor
  · rintro ⟨a, hx, h⟩
    split at h
    · cases h
    · exact ⟨a, hx, ‹_›, Except.ok.inj h⟩
  · rintro ⟨a, hx, hkept, rfl⟩
    exact ⟨a, hx, if_neg hkept⟩

end

variable {sources : SettingSources} {s : Settings}

/-- A list of numbers is taken as it was given if it has an entry. -/
theorem checkStationNumbers_eq_ok_iff {g : Given} {t : Text} :
    checkStationNumbers g = .ok t ↔ g.asText = .ok t ∧ listEntries t ≠ [] := by
  refine (bind_refuse_eq_ok_iff (x := g.asText)).trans ?_
  simp

/-- Settings are accepted if each of their values is. -/
theorem checkSettings_eq_ok_iff {given : Setting → Given} :
    checkSettings given = .ok s ↔
      checkBaseUrl (given .baseUrl) = .ok s.baseUrl ∧
      checkStationNumbers (given .stationNumbers) = .ok s.stationNumbers ∧
      checkVariant (given .variant) = .ok s.variant ∧
      checkRequestCount (given .requestCount) = .ok s.requestCount ∧
      checkTimeout (given .timeout) = .ok s.timeout := by
  simp only [checkSettings]
  constructor
  · intro h
    split at h
    · cases h
      exact ⟨‹_›, ‹_›, ‹_›, ‹_›, ‹_›⟩
    · cases h
  · rintro ⟨hurl, hnumbers, hvariant, hcount, htimeout⟩
    simp only [hurl, hnumbers, hvariant, hcount, htimeout]

/-- **Sources give settings** if the values that they give are accepted and every name is known. -/
theorem load_eq_ok_iff :
    Settings.load sources = .ok s ↔ checkSettings sources.given = .ok s ∧ sources.unknownNames = [] := by
  unfold Settings.load
  cases checkSettings sources.given with
  | error problems => exact ⟨nofun, fun h => nomatch h.1⟩
  | ok given =>
    cases hunknown : sources.unknownNames with
    | nil => simp
    | cons name names => simp

/-- There is a station. -/
theorem numbers_ne_nil_of_load (h : Settings.load sources = .ok s) : s.numbers ≠ [] := by
  obtain ⟨_, hnumbers, _⟩ := checkSettings_eq_ok_iff.mp (load_eq_ok_iff.mp h).1
  exact (checkStationNumbers_eq_ok_iff.mp hnumbers).2

end WeatherTelegram
