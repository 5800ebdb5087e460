import Mathlib.Data.List.DropRight
import WeatherTelegram.Proofs.Binary64.Value
import WeatherTelegram.Proofs.Settings.Load

/-!
# `Proofs.Settings.Bounds` — what accepted settings satisfy

Every value is checked as it was given. Three settings are kept as they were given, so their check is a bound
on what is kept. The other two checks have a gap each. An address loses the slashes at its end after its
scheme was looked for, so one that is a scheme and nothing else is kept without its scheme. A number of seconds
is refused if it is zero or less, and not-a-number is neither. There is no other way past the bounds, and
settings that are given again as they were kept are taken again unless the scheme was lost.

## Contents
- **Addresses.** `HasScheme`, `IsBareScheme`, `hasScheme_trimEnd_iff`: what is left of a scheme.
- **Checks.** `checkBaseUrl_eq_ok_iff`, `checkVariant_eq_ok_iff`, `checkRequestCount_eq_ok_iff`,
  `checkTimeout_eq_ok_iff`: what each check takes, and what it keeps.
- **Kept settings.** `Settings.outright`: settings given as they are kept; `Settings.IsBounded`.
- `load_bounds`: the bounds, the two gaps, and settings given again.
-/

namespace WeatherTelegram

/-! ## Addresses -/

/-- Whether an address begins with a scheme, in any case. -/
def HasScheme (address : Text) : Prop := ∃ scheme ∈ urlSchemes, scheme <+: Text.asciiLower address

/-- An address that is a scheme with nothing but slashes after it. -/
def IsBareScheme (address : Text) : Prop :=
  ∃ scheme ∈ urlSchemes, ∃ n, Text.asciiLower address = scheme ++ List.replicate n '/'

theorem hasScheme_iff (t : Text) :
    (urlSchemes.any fun scheme => Text.startsWith scheme (Text.asciiLower t)) = true ↔ HasScheme t := by
  simp [HasScheme, Text.startsWith]

instance (t : Text) : Decidable (HasScheme t) := decidable_of_iff _ (hasScheme_iff t)

/-- No letter becomes a slash. -/
theorem toLower_eq_slash_iff (c : Char) : c.toLower = '/' ↔ c = '/' := by
  unfold Char.toLower
  split
  · rename_i h
    constructor
    · intro hc
      have hval : c.val + 32 = 47 := congrArg Char.val hc
      have hle : (65 : UInt32) ≤ c.val := h.1
      grind
    · rintro rfl
      exact absurd h (by decide)
  · rfl

theorem asciiLower_trimEnd (t : Text) :
    Text.asciiLower (Text.trimEnd (· == '/') t) = Text.trimEnd (· == '/') (Text.asciiLower t) := by
  have hslash : (fun c : Char => c == '/') ∘ Char.toLower = fun c => c == '/' :=
    funext fun c => decide_eq_decide.mpr (toLower_eq_slash_iff c)
  show (t.reverse.dropWhile (· == '/')).reverse.map Char.toLower =
    ((t.map Char.toLower).reverse.dropWhile (· == '/')).reverse
  rw [← List.map_reverse (l := t), List.dropWhile_map, hslash, List.map_reverse]

/-- A beginning is kept if there is something behind it that is no slash. -/
theorem prefix_trimEnd_append {s t : Text} (h : ∃ c ∈ t, c ≠ '/') :
    s <+: Text.trimEnd (· == '/') (s ++ t) := by
  have hkept : (t.reverse.dropWhile (· == '/')).isEmpty = false := by simpa using h
  rw [Text.trimEnd, List.reverse_append, List.dropWhile_append, hkept, if_neg (by decide),
    List.reverse_append, List.reverse_reverse]
  exact List.prefix_append s _

/-- What is left of a scheme without its slashes is no scheme. -/
theorem not_prefix_trimEnd_scheme :
    ∀ scheme ∈ urlSchemes, ∀ bare ∈ urlSchemes, ¬ scheme <+: Text.trimEnd (· == '/') bare := by
  decide

theorem trimEnd_append_slashes (t : Text) (n : ℕ) :
    Text.trimEnd (· == '/') (t ++ List.replicate n '/') = Text.trimEnd (· == '/') t := by
  rw [Text.trimEnd, Text.trimEnd, List.reverse_append, List.dropWhile_append_of_pos]
  simp

/-- **A scheme is lost with the slashes** if nothing else follows it. -/
theorem hasScheme_trimEnd_iff {t : Text} (h : HasScheme t) :
    HasScheme (Text.trimEnd (· == '/') t) ↔ ¬ IsBareScheme t := by
  constructor
  · rintro ⟨scheme, hscheme, hfront⟩ ⟨bare, hbare, n, hlower⟩
    rw [asciiLower_trimEnd, hlower, trimEnd_append_slashes] at hfront
    exact not_prefix_trimEnd_scheme scheme hscheme bare hbare hfront
  · intro hbare
    obtain ⟨scheme, hscheme, rest, hlower⟩ := h
    refine ⟨scheme, hscheme, ?_⟩
    rw [asciiLower_trimEnd, ← hlower]
    apply prefix_trimEnd_append
    by_contra hslashes
    push Not at hslashes
    exact hbare ⟨scheme, hscheme, rest.length, by rw [← List.eq_replicate_of_mem hslashes, hlower]⟩

/-! ## Checks -/

/-- An address is taken if it has a scheme, and kept without the slashes at its end. -/
theorem checkBaseUrl_eq_ok_iff {g : Given} {t : Text} :
    checkBaseUrl g = .ok t ↔
      ∃ address, g.asText = .ok address ∧ HasScheme address ∧ Text.trimEnd (· == '/') address = t := by
  show (g.asText.bind fun address =>
    if (urlSchemes.any fun scheme => Text.startsWith scheme (Text.asciiLower address)) = true then
      .ok (Text.trimEnd (· == '/') address)
    else .error (.scheme address)) = .ok t ↔ _
  rw [bind_ok_iff]
  refine exists_congr fun address => and_congr_right fun _ => ?_
  simp only [hasScheme_iff]
  by_cases h : HasScheme address
  · simp [h]
  · simp [h]

/-- The number of a layout is taken. -/
theorem checkVariant_eq_ok_iff {g : Given} {v : Variant} :
    checkVariant g = .ok v ↔ ∃ k, g.asWhole = .ok k ∧ Variant.ofNumber? k = some v := by
  refine (bind_ok_iff (x := g.asWhole)).trans (exists_congr fun k => and_congr_right fun _ => ?_)
  cases Variant.ofNumber? k with
  | none => exact iff_of_false (fun h => by cases h) (fun h => by cases h)
  | some w => exact ⟨fun h => congrArg some (Except.ok.inj h), fun h => congrArg Except.ok (Option.some.inj h)⟩

/-- A number from one to ten thousand is taken. -/
theorem checkRequestCount_eq_ok_iff {g : Given} {n : ℕ} :
    checkRequestCount g = .ok n ↔ g.asWhole = .ok (n : ℤ) ∧ 1 ≤ n ∧ n ≤ 10000 := by
  refine (bind_refuse_eq_ok_iff (x := g.asWhole)).trans ⟨?_, ?_⟩
  · rintro ⟨k, hk, hbounds, rfl⟩
    have hnat : (k.toNat : ℤ) = k := Int.toNat_of_nonneg (by omega)
    exact ⟨by rw [hk, hnat], by omega, by omega⟩
  · rintro ⟨hn, hlow, hhigh⟩
    exact ⟨n, hn, by omega, Int.toNat_natCast n⟩

/-- A number is taken unless it is zero or less. -/
theorem checkTimeout_eq_ok_iff {g : Given} {x : Binary64} :
    checkTimeout g = .ok x ↔ g.asReal = .ok x ∧ ¬ x ≤ 0 := by
  refine (bind_refuse_eq_ok_iff (x := g.asReal)).trans ?_
  simp

/-! ## Seconds -/

theorem Binary64.zero_eq : (0 : Binary64) = .finite false .zero := by decide +kernel

/-- A number that is not zero or less is above zero, unless it is no number. -/
theorem Binary64.not_le_zero_iff {x : Binary64} : ¬ x ≤ 0 ↔ x = .nan ∨ 0 < x := by
  rw [Binary64.zero_eq]
  cases x with
  | nan => exact ⟨fun _ => .inl rfl, fun _ => by decide⟩
  | infinite negative => cases negative <;> decide
  | finite negative m =>
    rw [Binary64.le_finite_iff, not_le, ← Binary64.lt_finite_iff]
    exact (or_iff_right nofun).symm

/-- Not-a-number is not above zero. -/
theorem Binary64.not_zero_lt_nan : ¬ (0 : Binary64) < .nan := by
  rw [Binary64.zero_eq]
  decide

/-! ## Kept settings -/

/-- The value that is kept for a setting. -/
def Settings.kept (s : Settings) : Setting → Given
  | .baseUrl => .text s.baseUrl
  | .stationNumbers => .text s.stationNumbers
  | .variant => .whole s.variant.size
  | .requestCount => .whole s.requestCount
  | .timeout => .real s.timeout

/-- All settings given outright as they are kept. -/
def Settings.outright (s : Settings) : List (Text × Given) :=
  Setting.all.map fun setting => (setting.name, s.kept setting)

/-- What is given outright is given, whatever the other sources give. -/
theorem given_outright (s : Settings) (environment : List (Text × Text)) (file : List (Text × Option Text)) :
    SettingSources.given ⟨s.outright, environment, file⟩ = s.kept := by
  funext setting
  cases setting <;> rfl

/-- Every name that is given outright is one of a setting. -/
theorem filter_names_outright (s : Settings) :
    (s.outright.map Prod.fst).filter (fun name => !Setting.isName name) = [] := by
  rfl

/-- No name is unknown if none was in the file. -/
theorem unknownNames_outright (s : Settings) {sources : SettingSources} (h : sources.unknownNames = [])
    (environment : List (Text × Text)) :
    SettingSources.unknownNames ⟨s.outright, environment, sources.file⟩ = [] := by
  unfold SettingSources.unknownNames at h ⊢
  obtain ⟨hfile, -⟩ := List.append_eq_nil_iff.mp h
  refine List.append_eq_nil_iff.mpr ⟨hfile, ?_⟩
  rw [filter_names_outright, List.filter_nil]

/-- What holds of all accepted settings. -/
structure Settings.IsBounded (s : Settings) : Prop where
  no_slash : s.baseUrl.getLast? ≠ some '/'
  station : s.numbers ≠ []
  visible : ∀ number ∈ s.numbers, number ≠ [] ∧ Text.trim number = number
  layout : s.variant.size ∈ [19, 20, 23, 24]
  requests : 1 ≤ s.requestCount ∧ s.requestCount ≤ 10000

/-- The entries of a list are visible and trimmed. -/
theorem visible_of_mem_listEntries {t entry : Text} (h : entry ∈ listEntries t) :
    entry ≠ [] ∧ Text.trim entry = entry := by
  obtain ⟨hmem, hentry⟩ := List.mem_filter.mp h
  obtain ⟨part, _, rfl⟩ := List.mem_map.mp hmem
  exact ⟨by simpa using hentry, Text.trim_trim part⟩

/-- The bounds that leave no gap. -/
theorem isBounded_of_checkSettings {given : Setting → Given} {s : Settings}
    (h : checkSettings given = .ok s) : s.IsBounded := by
  obtain ⟨hurl, hnumbers, _, hcount, _⟩ := checkSettings_eq_ok_iff.mp h
  obtain ⟨address, _, _, hkept⟩ := checkBaseUrl_eq_ok_iff.mp hurl
  exact
    { no_slash := fun hslash => absurd (Text.getLast?_trimEnd_eq_some (hkept ▸ hslash)) (by decide)
      station := (checkStationNumbers_eq_ok_iff.mp hnumbers).2
      visible := fun _ => visible_of_mem_listEntries
      layout := by cases s.variant <;> decide
      requests := (checkRequestCount_eq_ok_iff.mp hcount).2 }

/-! ## Settings given again -/

theorem ofNumber?_size (v : Variant) : Variant.ofNumber? v.size = some v := by cases v <;> rfl

/-- An address that was kept is kept as it is if it has a scheme, and refused otherwise. -/
theorem checkBaseUrl_kept {g : Given} {t : Text} (h : checkBaseUrl g = .ok t) :
    checkBaseUrl (.text t) = if HasScheme t then .ok t else .error (.scheme t) := by
  obtain ⟨address, _, _, rfl⟩ := checkBaseUrl_eq_ok_iff.mp h
  split
  · rename_i hscheme
    exact checkBaseUrl_eq_ok_iff.mpr ⟨_, rfl, hscheme, List.rdropWhile_idempotent _ _⟩
  · rename_i hscheme
    show (if _ then _ else _) = _
    rw [if_neg (mt (hasScheme_iff _).mp hscheme)]
    rfl

/-- Settings that were kept are kept as they are, but for an address without a scheme. -/
theorem checkSettings_kept {given : Setting → Given} {s : Settings} (h : checkSettings given = .ok s) :
    checkSettings s.kept =
      if HasScheme s.baseUrl then .ok s else .error [⟨Setting.baseUrl.name, .scheme s.baseUrl⟩] := by
  obtain ⟨hurl, hnumbers, _, hcount, htimeout⟩ := checkSettings_eq_ok_iff.mp h
  have hurl' : checkBaseUrl (s.kept .baseUrl) = _ := checkBaseUrl_kept hurl
  have hnumbers' : checkStationNumbers (s.kept .stationNumbers) = .ok s.stationNumbers :=
    checkStationNumbers_eq_ok_iff.mpr ⟨rfl, (checkStationNumbers_eq_ok_iff.mp hnumbers).2⟩
  have hvariant' : checkVariant (s.kept .variant) = .ok s.variant :=
    checkVariant_eq_ok_iff.mpr ⟨_, rfl, ofNumber?_size s.variant⟩
  have hcount' : checkRequestCount (s.kept .requestCount) = .ok s.requestCount :=
    checkRequestCount_eq_ok_iff.mpr ⟨rfl, (checkRequestCount_eq_ok_iff.mp hcount).2⟩
  have htimeout' : checkTimeout (s.kept .timeout) = .ok s.timeout :=
    checkTimeout_eq_ok_iff.mpr ⟨rfl, (checkTimeout_eq_ok_iff.mp htimeout).2⟩
  split
  · rename_i hscheme
    rw [if_pos hscheme] at hurl'
    exact checkSettings_eq_ok_iff.mpr ⟨hurl', hnumbers', hvariant', hcount', htimeout'⟩
  · rename_i hscheme
    rw [if_neg hscheme] at hurl'
    simp only [checkSettings, hurl', hnumbers', hvariant', hcount', htimeout']
    rfl

/-- Without unknown names it is the values that decide. -/
theorem load_eq_checkSettings {sources : SettingSources} (h : sources.unknownNames = []) :
    Settings.load sources = checkSettings sources.given := by
  unfold Settings.load
  rw [h]
  cases checkSettings sources.given with
  | ok s => rfl
  | error problems => exact congrArg Except.error (List.append_nil problems)

/-- Settings given again in any environment, beside the file that they were loaded with. -/
theorem load_outright {sources : SettingSources} {s : Settings} (h : Settings.load sources = .ok s)
    (environment : List (Text × Text)) :
    Settings.load ⟨s.outright, environment, sources.file⟩ =
      if HasScheme s.baseUrl then .ok s else .error [⟨Setting.baseUrl.name, .scheme s.baseUrl⟩] := by
  obtain ⟨hchecked, hnames⟩ := load_eq_ok_iff.mp h
  rw [load_eq_checkSettings (unknownNames_outright s hnames environment), given_outright,
    checkSettings_kept hchecked]

/-- **What accepted settings satisfy.** They are bounded; an address has lost its scheme just if it was a scheme
    and nothing else; the time to wait is above zero unless not-a-number was given; and given again they are
    taken as they are, unless the scheme was lost. -/
theorem load_bounds {sources : SettingSources} {s : Settings} (h : Settings.load sources = .ok s) :
    s.IsBounded ∧
    (∃ address, (sources.given .baseUrl).asText = .ok address ∧ HasScheme address ∧
      Text.trimEnd (· == '/') address = s.baseUrl ∧ (HasScheme s.baseUrl ↔ ¬ IsBareScheme address)) ∧
    (0 < s.timeout ↔ (sources.given .timeout).asReal ≠ .ok .nan) ∧
    ∀ environment, Settings.load ⟨s.outright, environment, sources.file⟩ =
      if HasScheme s.baseUrl then .ok s else .error [⟨Setting.baseUrl.name, .scheme s.baseUrl⟩] := by
  have hchecked := (load_eq_ok_iff.mp h).1
  obtain ⟨hurl, _, _, _, htimeout⟩ := checkSettings_eq_ok_iff.mp hchecked
  obtain ⟨address, hread, hscheme, hkept⟩ := checkBaseUrl_eq_ok_iff.mp hurl
  obtain ⟨hseconds, hsigned⟩ := checkTimeout_eq_ok_iff.mp htimeout
  refine ⟨isBounded_of_checkSettings hchecked,
    ⟨address, hread, hscheme, hkept, hkept ▸ hasScheme_trimEnd_iff hscheme⟩, ?_, load_outright h⟩
  rw [hseconds]
  constructor
  · intro hpositive hnan
    rw [Except.ok.inj hnan] at hpositive
    exact Binary64.not_zero_lt_nan hpositive
  · intro hnumber
    exact (Binary64.not_le_zero_iff.mp hsigned).resolve_left fun hnan => hnumber (congrArg _ hnan)

/-- An address in capitals with slashes at its end, and half a second to wait. -/
def capitalSources : SettingSources where
  overrides := [(Setting.timeout.name, .text (Text.ofString "0.5"))]
  environment := [(Text.ofString "Gateway_Base_Url", Text.ofString "HTTPS://GATEWAY.EXAMPLE.COM//")]
  file := [(Text.ofString "station_numbers", some (Text.ofString " 09171234567 ,, 639181234567,"))]

/-- Only the slashes are lost, and settings given again are the same. -/
theorem load_bounds_capital :
    ∃ s, Settings.load capitalSources = .ok s ∧ s.IsBounded ∧
      s.baseUrl = Text.ofString "HTTPS://GATEWAY.EXAMPLE.COM" ∧ HasScheme s.baseUrl ∧ 0 < s.timeout ∧
      ∀ environment, Settings.load ⟨s.outright, environment, capitalSources.file⟩ = .ok s := by
  have hkept : (Settings.load capitalSources).map Settings.baseUrl =
      .ok (Text.ofString "HTTPS://GATEWAY.EXAMPLE.COM") := by decide +kernel
  obtain ⟨s, hs, haddress⟩ := map_ok_iff.mp hkept
  have hscheme : HasScheme s.baseUrl := haddress ▸ (by decide +kernel)
  obtain ⟨hbounded, _, htimeout, hagain⟩ := load_bounds hs
  refine ⟨s, hs, hbounded, haddress, hscheme, htimeout.mpr (by decide +kernel), fun environment => ?_⟩
  rw [hagain environment, if_pos hscheme]

/-- Sources that give one variable and nothing else. -/
def variableSources (name value : String) : SettingSources :=
  ⟨[], [(Text.ofString name, Text.ofString value)], []⟩

/-- A scheme alone is taken as an address, kept without its slashes and not taken again; and not-a-number is
    taken as a time to wait. -/
theorem load_outOfBounds :
    (∃ s, Settings.load (variableSources "GATEWAY_BASE_URL" "http://") = .ok s ∧
      s.baseUrl = Text.ofString "http:" ∧ ¬ HasScheme s.baseUrl ∧
      ∀ environment, Settings.load ⟨s.outright, environment, []⟩ =
        .error [⟨Setting.baseUrl.name, .scheme (Text.ofString "http:")⟩]) ∧
    ∃ s, Settings.load (variableSources "REQUEST_TIMEOUT_S" "nan") = .ok s ∧ s.timeout = .nan ∧
      ¬ 0 < s.timeout := by
  constructor
  · have hkept : (Settings.load (variableSources "GATEWAY_BASE_URL" "http://")).map Settings.baseUrl =
        .ok (Text.ofString "http:") := by decide +kernel
    obtain ⟨s, hs, haddress⟩ := map_ok_iff.mp hkept
    have hscheme : ¬ HasScheme s.baseUrl := haddress ▸ (by decide)
    refine ⟨s, hs, haddress, hscheme, fun environment => ?_⟩
    rw [← haddress]
    exact (load_outright hs environment).trans (if_neg hscheme)
  · have hkept : (Settings.load (variableSources "REQUEST_TIMEOUT_S" "nan")).map Settings.timeout =
        .ok .nan := by decide +kernel
    obtain ⟨s, hs, hseconds⟩ := map_ok_iff.mp hkept
    exact ⟨s, hs, hseconds, hseconds ▸ Binary64.not_zero_lt_nan⟩

end WeatherTelegram
