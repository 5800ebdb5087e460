import WeatherTelegram.Proofs.Telegram.Slot
import WeatherTelegram.Proofs.Time.Calendar
import WeatherTelegram.Proofs.Wire.Written

/-!
# `Proofs.Telegram.Refusal` — which readings cannot be written

Each kind of slot has one cause of its own: a number whose hundredfold is no finite double, a text with a
reserved part, a whole number of too many digits, a time that the stations' clock cannot show. The half
that is added before a hundredfold is cut off adds no cause: it is too little to carry the largest double
over the edge. A telegram is refused for the first of its slots that is, and nothing else of a reading
matters.

## Contents
- **Numbers.** `Binary64.nonFinite?`, `exists_nearest?_add_half`, `roundToHundredths_eq_error_iff`,
  `WireUnit.write_eq_error_iff`.
- **Whole numbers, texts and times.** `writeWhole_eq_error_iff`, `isReserved_iff`,
  `Instant.stampText?_eq_none_iff`.
- **Slots.** `Slot.Refuses`, `Slot.write_eq_error_iff`, `Slot.write_eq_of_agree`.
- **Telegrams.** `Reading.CanBeWritten`, `Reading.canBeWritten_iff`; `IsFirstRefusal`, `encode_outcome`.
-/

namespace WeatherTelegram

open Binary64

-- one is far too many steps to be counted out, so that no proof below may look at their number
attribute [local irreducible] stepsPerUnit

/-! ## Numbers -/

/-- Why a double is not finite, if it is not. -/
def Binary64.nonFinite? : Binary64 → Option NonFinite
  | .nan => some .nan
  | .infinite _ => some .infinite
  | .finite .. => none

theorem isFinite_iff_nonFinite? (x : Binary64) : x.isFinite = true ↔ x.nonFinite? = none := by
  cases x <;> simp [isFinite, nonFinite?]

theorem floor?_eq_error_iff {x : Binary64} {cause : NonFinite} :
    x.floor? = .error cause ↔ x.nonFinite? = some cause := by
  cases x <;> simp [floor?, nonFinite?]

theorem steps_of_value_half {o : Magnitude} (ho : o.value = 1 / 2) : o.steps * 2 = 2 ^ stepExponent := by
  have hsteps := o.value_mul_stepsPerUnit
  rw [ho, stepsPerUnit_eq] at hsteps
  have hdouble : ((o.steps * 2 : ℕ) : ℚ) = ((2 ^ stepExponent : ℕ) : ℚ) := by
    push_cast at hsteps ⊢
    linarith
  exact_mod_cast hdouble

/-- **One half carries no double over the largest one**, because doubles of that size are farther apart. -/
theorem exists_nearest?_add_half (p : Magnitude) {o : Magnitude} (ho : o.value = 1 / 2) :
    ∃ r, Magnitude.nearest? (p.steps + o.steps) 1 = some r := by
  have hhalf := steps_of_value_half ho
  rcases Nat.lt_or_ge p.scale 2044 with hsmall | hlarge
  · -- below the last two binades the sum fits into the next one
    have hp := p.steps_lt.trans_le
      (Nat.pow_le_pow_right (by decide) (by omega : precision + p.scale ≤ precision + 2043))
    have ho : 2 ^ stepExponent ≤ 2 ^ (precision + 2043) := Nat.pow_le_pow_right (by decide) (by decide)
    -- for any powers, because these two are too large to be computed
    have hroom : ∀ k l, k < l → p.steps < 2 ^ k → o.steps * 2 ≤ 2 ^ k → p.steps + o.steps < 2 ^ l := by
      intro k l hkl hp ho
      have hdouble : 2 ^ k * 2 ≤ 2 ^ l := (pow_succ 2 k).symm.trans_le (Nat.pow_le_pow_right (by decide) hkl)
      omega
    apply Magnitude.exists_nearest?
    rw [Nat.div_one]
    exact hroom (precision + 2043) _ (by decide) hp (hhalf.trans_le ho)
  · -- in the last two the half is less than half a unit, and rounded away
    have hunit : 2 ^ stepExponent * 2 ≤ 2 ^ p.scale := by
      rw [← pow_succ]
      exact Nat.pow_le_pow_right (by decide) (by unfold stepExponent; omega)
    have hpos := Nat.two_pow_pos stepExponent
    have hless : o.steps * 2 < 2 ^ p.scale := by omega
    refine ⟨p, Magnitude.nearest?_eq (by decide) ?_ ?_⟩
    · have hnext := p.steps_add_unit_le
      rw [Nat.div_one]
      exact Magnitude.scaleFor_eq (p.le_steps.imp_right (Nat.le_add_right_of_le ·)) (by omega)
    · have hless' : (o.steps : ℚ) * 2 < 2 ^ p.scale := by exact_mod_cast hless
      push_cast
      rw [div_one, abs_sub_comm, add_sub_cancel_left, abs_of_nonneg (Nat.cast_nonneg _)]
      linarith

/-- **A number is rounded unless its hundredfold is not finite.** -/
theorem roundToHundredths_eq_error_iff {x : Binary64} {cause : NonFinite} :
    x.roundToHundredths = .error cause ↔ (x.abs * 100).nonFinite? = some cause := by
  have hround : x.roundToHundredths = .error cause ↔ (x.abs * 100 + half).floor? = .error cause := by
    unfold Binary64.roundToHundredths
    cases (x.abs * 100 + half).floor? <;> simp [Except.map]
  rw [hround, floor?_eq_error_iff]
  obtain ⟨o, ho, hvalue⟩ := half_eq
  rw [ho]
  rcases hundredfold_cases x with hp | hp | ⟨s, m, p, _, hp⟩
  · rw [hp]
    exact Iff.rfl
  · rw [hp]
    exact Iff.rfl
  · obtain ⟨r, hr⟩ := exists_nearest?_add_half p hvalue
    rw [hp, add_eq_ofSteps, ofSteps_eq false hr]
    exact Iff.rfl

theorem isFinite_of_hundredfold {x : Binary64} (h : (x.abs * 100).isFinite = true) :
    x.isFinite = true := by
  rcases hundredfold_cases x with hp | hp | ⟨s, m, p, rfl, _⟩
  · rw [hp] at h
    cases h
  · rw [hp] at h
    cases h
  · rfl

theorem isFinite_of_div {x y : Binary64} (h : (x / y).isFinite = true) : x.isFinite = true := by
  cases x with
  | nan => exact h
  | infinite s => cases y <;> exact h
  | finite s m => rfl

theorem writeNumber_some_eq_error_iff {x : Binary64} {cause : NonFinite} :
    writeNumber (some x) = .error cause ↔ (x.abs * 100).nonFinite? = some cause := by
  rw [← roundToHundredths_eq_error_iff]
  show x.roundToHundredths.map (·.fixedText 2) = .error cause ↔ _
  cases x.roundToHundredths <;> simp [Except.map]

/-- The same in any unit. -/
theorem WireUnit.write_eq_error_iff (u : WireUnit) {value : Option Binary64} {cause : NonFinite} :
    u.write value = .error cause ↔
      ∃ x, value = some x ∧ ((x / u.factor).abs * 100).nonFinite? = some cause := by
  cases value with
  | none =>
    rw [u.write_none]
    constructor
    · intro h
      cases h
    · rintro ⟨x, hx, _⟩
      cases hx
  | some x =>
    rw [u.write_some, writeNumber_some_eq_error_iff]
    constructor
    · exact fun h => ⟨x, rfl, h⟩
    · rintro ⟨x', hx, h⟩
      cases hx
      exact h

theorem writeNumber_eq_error_iff {value : Option Binary64} {cause : NonFinite} :
    writeNumber value = .error cause ↔
      ∃ x, value = some x ∧ ((x / 1).abs * 100).nonFinite? = some cause :=
  WireUnit.write_eq_error_iff .asKept

theorem writeVoltage_eq_error_iff {value : Option Binary64} {cause : NonFinite} :
    writeVoltage value = .error cause ↔ writeNumber value = .error cause := by
  cases value with
  | none => exact Iff.rfl
  | some x =>
    show (writeNumber (some x)).map (· ++ voltageMark) = _ ↔ writeNumber (some x) = _
    cases writeNumber (some x) <;> simp [Except.map]

/-! ## Whole numbers, texts and times -/

theorem writeWhole_eq_error_iff {value : Option ℤ} {fault : Fault} : writeWhole value = .error fault ↔
    ∃ k, value = some k ∧ 10 ^ digitLimit ≤ k.natAbs ∧ fault = .digitsToWrite := by
  cases value with
  | none =>
    constructor
    · intro h
      cases h
    · rintro ⟨k, hk, _⟩
      cases hk
  | some k =>
    have hlimit : digitLimit < (Text.ofNat k.natAbs).length ↔ 10 ^ digitLimit ≤ k.natAbs := by
      rw [← not_le, length_ofNat_le_iff (by decide), not_lt]
    unfold writeWhole
    simp only [hlimit]
    constructor
    · intro h
      split at h
      · cases h
        exact ⟨k, rfl, ‹_›, rfl⟩
      · cases h
    · rintro ⟨k', hk, hlong, rfl⟩
      cases hk
      rw [if_pos hlong]

/-- The texts that are refused are those with a reserved part. -/
theorem isReserved_iff (t : Text) :
    isReserved t = true ↔ '+' ∈ t ∨ '>' ∈ t ∨ ['%', '2', '0'] <:+: t := by
  have h := isReserved_eq_false_iff t
  rw [← Bool.not_eq_false, h]
  show ¬ ('+' ∉ t ∧ '>' ∉ t ∧ ¬ ['%', '2', '0'] <:+: t) ↔ _
  tauto

theorem Instant.stampText?_eq_none_iff [HostZone] (style : StampStyle) (t : Instant) :
    t.stampText? style = none ↔ ¬ t.IsConvertible := by
  rw [← t.exists_toStation?_iff, Instant.stampText?, Option.map_eq_none_iff,
    Option.eq_none_iff_forall_ne_some, not_exists]

/-! ## Slots -/

/-- Why a slot cannot be written for a reading. Whether a time without a zone can be is for the machine to
    say. -/
inductive Slot.Refuses [HostZone] (r : Reading) : Slot → Fault → Prop where
  | number {slot : Slot} {x : Binary64} {cause : NonFinite} (hx : r.number? slot = some x)
      (hcause : ((x / slot.factor).abs * 100).nonFinite? = some cause) :
      Refuses r slot (.notFinite cause)
  | code {c : Code} (h : '+' ∈ r.health.code c ∨ '>' ∈ r.health.code c ∨
      ['%', '2', '0'] <:+: r.health.code c) :
      Refuses r (.code c) (.reserved c.name (r.health.code c))
  | signal {k : ℤ} (hk : r.health.signal = some k) (h : 10 ^ digitLimit ≤ k.natAbs) :
      Refuses r .signal .digitsToWrite
  | stamp (h : ¬ r.observation.timestamp.IsConvertible) : Refuses r .stamp .calendarRange

theorem asFault_eq_error_iff {α : Type} {w : Except NonFinite α} {fault : Fault} :
    asFault w = .error fault ↔ ∃ cause, w = .error cause ∧ fault = .notFinite cause := by
  cases w with
  | ok a => simp [asFault, Except.mapError]
  | error cause =>
    simp only [asFault, Except.mapError, Except.error.injEq, exists_eq_left']
    exact eq_comm

/-- **A slot is refused for its own cause**, in either style. -/
theorem Slot.write_eq_error_iff [HostZone] {r : Reading} {style : StampStyle} {slot : Slot} {fault : Fault} :
    slot.write r style = .error fault ↔ slot.Refuses r fault := by
  cases slot with
  | quantity q unit keepsMark | gauge g | voltage g form =>
    simp only [Slot.write, asFault_eq_error_iff, WireUnit.write_eq_error_iff, writeNumber_eq_error_iff,
      writeVoltage_eq_error_iff]
    constructor
    · rintro ⟨cause, ⟨x, hx, hcause⟩, rfl⟩
      exact .number hx hcause
    · rintro (⟨hx, hcause⟩ | _)
      exact ⟨_, ⟨_, hx, hcause⟩, rfl⟩
  | code c =>
    simp only [Slot.write]
    constructor
    · intro h
      split at h
      · cases h
        exact .code ((isReserved_iff _).mp ‹_›)
      · cases h
    · rintro (⟨hx, _⟩ | hreserved)
      · cases hx
      · rw [if_pos ((isReserved_iff _).mpr hreserved)]
  | signal =>
    simp only [Slot.write, writeWhole_eq_error_iff]
    constructor
    · rintro ⟨k, hk, hlong, rfl⟩
      exact .signal hk hlong
    · rintro (⟨hx, _⟩ | _ | ⟨hk, hlong⟩)
      · cases hx
      · exact ⟨_, hk, hlong, rfl⟩
  | stamp =>
    simp only [Slot.write]
    constructor
    · intro h
      split at h
      · cases h
      · cases h
        exact .stamp ((Instant.stampText?_eq_none_iff ..).mp ‹_›)
    · rintro (⟨hx, _⟩ | _ | _ | hnot)
      · cases hx
      · rw [(Instant.stampText?_eq_none_iff ..).mpr hnot]
  | blank filler =>
    constructor
    · intro h
      cases h
    · rintro (⟨hx, _⟩ | _)
      cases hx

/-- **A slot writes its field and the timestamp**, and nothing else of a reading. -/
theorem Slot.write_eq_of_agree [HostZone] {slot : Slot} {r r' : Reading}
    (hfield : ∀ field, slot.field? = some field → r'.fields.get field = r.fields.get field)
    (hstamp : r'.observation.timestamp = r.observation.timestamp) (style : StampStyle) :
    slot.write r' style = slot.write r style := by
  cases hslot : slot.field? with
  | some field => exact Slot.write_congr hslot (hfield field hslot) style
  | none =>
    cases slot with
    | stamp => simp only [Slot.write, hstamp]
    | blank filler => rfl
    | quantity q unit keepsMark => cases hslot
    | gauge g => cases hslot
    | voltage g form => cases hslot
    | code c => cases hslot
    | signal => cases hslot

/-! ## Telegrams -/

/-- What a layout can carry of a reading: finite numbers with finite hundredfolds, texts without reserved
    parts, a signal of few enough digits, and a time that the stations' clock can show; a time without a zone
    as the machine understands it. -/
structure Reading.CanBeWritten [HostZone] (r : Reading) (v : Variant) : Prop where
  number : ∀ slot ∈ v.slots, ∀ x, r.number? slot = some x →
    x.isFinite = true ∧ ((x / slot.factor).abs * 100).isFinite = true
  code : ∀ c, Field.code c ∈ v.fields →
    '+' ∉ r.health.code c ∧ '>' ∉ r.health.code c ∧ ¬ ['%', '2', '0'] <:+: r.health.code c
  signal : Field.signal ∈ v.fields → ∀ k, r.health.signal = some k →
    (Text.ofNat k.natAbs).length ≤ digitLimit
  timestamp : r.observation.timestamp.IsConvertible

theorem signal_mem_slots (v : Variant) : Slot.signal ∈ v.slots := by
  cases v <;> decide

theorem code_mem_slots {v : Variant} {c : Code} : Slot.code c ∈ v.slots ↔ Field.code c ∈ v.fields := by
  cases v <;> cases c <;> decide

/-- A layout carries a reading that none of its slots refuses. -/
theorem Reading.canBeWritten_iff [HostZone] (r : Reading) (v : Variant) :
    r.CanBeWritten v ↔ ∀ slot ∈ v.slots, ∀ fault, ¬ slot.Refuses r fault := by
  constructor
  · rintro h slot hslot fault (⟨hx, hcause⟩ | hc | ⟨hk, hlong⟩ | hnot)
    · rw [(isFinite_iff_nonFinite? _).mp (h.number slot hslot _ hx).2] at hcause
      cases hcause
    · obtain ⟨hdelimiter, hmark, hspace⟩ := h.code _ (code_mem_slots.mp hslot)
      rcases hc with hc | hc | hc
      · exact hdelimiter hc
      · exact hmark hc
      · exact hspace hc
    · have hlength := h.signal (mem_fields_signal v) _ hk
      rw [length_ofNat_le_iff (by decide)] at hlength
      omega
    · exact hnot h.timestamp
  · intro h
    refine ⟨fun slot hslot x hx => ?_, fun c hc => ?_, fun _ k hk => ?_, ?_⟩
    · have hfinite : ((x / slot.factor).abs * 100).isFinite = true := by
        rw [isFinite_iff_nonFinite?, Option.eq_none_iff_forall_ne_some]
        exact fun cause hcause => h slot hslot _ (.number hx hcause)
      exact ⟨isFinite_of_div (isFinite_of_hundredfold hfinite), hfinite⟩
    · have hnot : ¬ ('+' ∈ r.health.code c ∨ '>' ∈ r.health.code c ∨
          ['%', '2', '0'] <:+: r.health.code c) :=
        fun hreserved => h _ (code_mem_slots.mpr hc) _ (.code hreserved)
      exact ⟨fun hc => hnot (.inl hc), fun hc => hnot (.inr (.inl hc)), fun hc => hnot (.inr (.inr hc))⟩
    · rw [length_ofNat_le_iff (by decide)]
      by_contra hlong
      exact h _ (signal_mem_slots v) _ (.signal hk (not_lt.mp hlong))
    · by_contra hnot
      exact h _ (stamp_mem_slots v) _ (.stamp hnot)

/-- The first slot that a row of slots is refused for, and why. -/
def IsFirstRefusal [HostZone] (r : Reading) (slots : List Slot) (fault : Fault) : Prop :=
  ∃ before slot after, slots = before ++ slot :: after ∧
    (∀ earlier ∈ before, ∀ fault', ¬ earlier.Refuses r fault') ∧ slot.Refuses r fault

theorem Slot.exists_write_iff [HostZone] {r : Reading} {style : StampStyle} {slot : Slot} :
    (∃ t, slot.write r style = .ok t) ↔ ∀ fault, ¬ slot.Refuses r fault := by
  cases hwrite : slot.write r style with
  | ok t =>
    refine iff_of_true ⟨t, rfl⟩ fun fault hrefuses => ?_
    rw [Slot.write_eq_error_iff.mpr hrefuses] at hwrite
    cases hwrite
  | error fault =>
    exact iff_of_false (fun ⟨t, h⟩ => by cases h) fun h => h fault (Slot.write_eq_error_iff.mp hwrite)

/-- **A layout is refused for its first slot that is.** -/
theorem encodeAs_eq_error_iff [HostZone] {r : Reading} {v : Variant} {fault : Fault} :
    encodeAs r v = .error fault ↔ IsFirstRefusal r v.slots fault := by
  have hrow : encodeAs r v = .error fault ↔
      v.slots.mapM (Slot.write r v.stampStyle) = .error fault := by
    unfold encodeAs
    cases v.slots.mapM (Slot.write r v.stampStyle) with
    | ok written => exact iff_of_false (fun h => by cases h) fun h => by cases h
    | error fault' => exact ⟨fun h => by cases h; rfl, fun h => by cases h; rfl⟩
  rw [hrow, mapM_eq_error_iff]
  unfold IsFirstRefusal
  simp only [Slot.exists_write_iff, Slot.write_eq_error_iff]

theorem exists_encodeAs_iff [HostZone] {r : Reading} {v : Variant} :
    (∃ t, encodeAs r v = .ok t) ↔ r.CanBeWritten v := by
  rw [r.canBeWritten_iff]
  constructor
  · rintro ⟨t, h⟩ slot hslot
    obtain ⟨written, hwritten, _⟩ := encodeAs_eq_ok_iff.mp h
    have hwrites : Writes r v written := hwritten
    obtain ⟨w, hw⟩ := exists_mem_zip (v.length_slots.trans hwrites.length_eq.symm) hslot
    exact Slot.exists_write_iff.mp ⟨w, hwrites.write_of_mem_zip hw⟩
  · intro h
    cases hencode : encodeAs r v with
    | ok t => exact ⟨t, rfl⟩
    | error fault =>
      obtain ⟨before, slot, after, hslots, _, hrefuses⟩ := encodeAs_eq_error_iff.mp hencode
      have hmem : slot ∈ v.slots := by
        rw [hslots]
        simp
      exact absurd hrefuses (h slot hmem fault)

theorem encode_of_ne_size [HostZone] {number : ℤ} (h : ∀ v : Variant, number ≠ v.size) (r : Reading) :
    encode r number = .error (.variant number) := by
  have hnone : Variant.ofNumber? number = none := by
    unfold Variant.ofNumber?
    split
    · rfl
    · cases hsize : Variant.ofSize? number.toNat with
      | none => rfl
      | some v =>
        have := Variant.size_eq_of_ofSize? hsize
        exact absurd (by omega) (h v)
  unfold encode
  rw [hnone]

/-- **The machine decides on times without a zone alone.** A reading of a clock that is known is written or
    refused alike wherever the machine stands. -/
theorem encode_eq_of_isZoned (host host' : HostZone) {r : Reading}
    (h : r.observation.timestamp.isZoned = true) (number : ℤ) :
    @encode host r number = @encode host' r number := by
  have hstation := Instant.toStation?_eq_of_isZoned host host' h
  have hwrite : ∀ style slot, @Slot.write host r style slot = @Slot.write host' r style slot := by
    intro style slot
    cases slot with
    | stamp =>
      unfold Slot.write Instant.stampText?
      rw [hstation]
    | quantity q unit keepsMark | gauge g | voltage g form | code c | signal | blank filler => rfl
  unfold encode encodeAs
  simp only [funext (hwrite _)]

/-- **What is written, what is refused, and what for**, whatever the zone of the machine. A reading is
    written in the layout of a number if there is one and it can carry what it takes from the reading.
    Otherwise the number is refused if there is no layout for it, and else the first slot that cannot be
    written. Readings that agree on the fields of the layout and on the timestamp have the same outcome. -/
theorem encode_outcome [HostZone] (r : Reading) (number : ℤ) :
    ((∃ t, encode r number = .ok t) ↔ ∃ v : Variant, number = v.size ∧ r.CanBeWritten v) ∧
    (∀ fault, encode r number = .error fault ↔
      (∀ v : Variant, number ≠ v.size) ∧ fault = .variant number ∨
        ∃ v : Variant, number = v.size ∧ IsFirstRefusal r v.slots fault) ∧
    ∀ r' : Reading,
      (∀ v : Variant, number = v.size → ∀ field ∈ v.fields, r'.fields.get field = r.fields.get field) →
      r'.observation.timestamp = r.observation.timestamp → encode r' number = encode r number := by
  by_cases hnumber : ∃ v : Variant, number = v.size
  · obtain ⟨v, rfl⟩ := hnumber
    have hunique (w : Variant) : (v.size : ℤ) = w.size ↔ w = v :=
      ⟨fun h => (size_injective (Int.natCast_inj.mp h)).symm, fun h => by rw [h]⟩
    refine ⟨?_, fun fault => ?_, fun r' hfields hstamp => ?_⟩
    · simp only [encode_size, exists_encodeAs_iff, hunique, exists_eq_left]
    · simp only [encode_size, encodeAs_eq_error_iff, hunique, exists_eq_left]
      exact (or_iff_right fun h => h.1 v rfl).symm
    · have hrow : v.slots.mapM (Slot.write r' v.stampStyle) = v.slots.mapM (Slot.write r v.stampStyle) :=
        mapM_congr fun slot hslot => Slot.write_eq_of_agree (fun field hfield =>
          hfields v rfl field (List.mem_filterMap.mpr ⟨slot, hslot, hfield⟩)) hstamp _
      rw [encode_size, encode_size, encodeAs, encodeAs, hrow]
  · have hnone : ∀ v : Variant, number ≠ v.size := fun v hv => hnumber ⟨v, hv⟩
    refine ⟨?_, fun fault => ?_, fun r' _ _ => ?_⟩
    · rw [encode_of_ne_size hnone]
      exact iff_of_false (fun ⟨t, h⟩ => by cases h) fun ⟨v, hv, _⟩ => hnone v hv
    · rw [encode_of_ne_size hnone, Except.error.injEq]
      constructor
      · rintro rfl
        exact .inl ⟨hnone, rfl⟩
      · rintro (⟨_, rfl⟩ | ⟨v, hv, _⟩)
        · rfl
        · exact absurd hv (hnone v)
    · rw [encode_of_ne_size hnone, encode_of_ne_size hnone]

/-- A reading with a modem whose name would break its telegram apart. -/
def modemReading : Reading :=
  ⟨sampleReading.observation, sampleReading.health.withCode .modem ['A', '+', 'B']⟩

/-- The layout of 20 tokens does not carry the name. -/
theorem encode_outcome_modem :
    (∀ v : Variant, (20 : ℤ) = v.size → ∀ field ∈ v.fields,
      modemReading.fields.get field = sampleReading.fields.get field) ∧
    modemReading.observation.timestamp = sampleReading.observation.timestamp ∧
    encode modemReading 20 = encode sampleReading 20 ∧
    (∃ v : Variant, (20 : ℤ) = v.size ∧ modemReading.CanBeWritten v) ∧
    ∃ v : Variant, (23 : ℤ) = v.size ∧
      IsFirstRefusal modemReading v.slots (.reserved ['c', 'm'] ['A', '+', 'B']) := by
  have hfields : ∀ v : Variant, (20 : ℤ) = v.size → ∀ field ∈ v.fields,
      modemReading.fields.get field = sampleReading.fields.get field := by
    intro v hv field hfield
    obtain rfl : v = .v20 := size_injective (Int.natCast_inj.mp hv.symm)
    cases field with
    | quantity q => rfl
    | gauge g => rfl
    | code c =>
      cases c with
      | modem => exact absurd hfield (by decide)
      | firmware => rfl
    | signal => rfl
  have hsame : encode modemReading 20 = encode sampleReading 20 :=
    (encode_outcome sampleReading 20).2.2 modemReading hfields rfl
  have hwritten : encode modemReading 20 = .ok sampleTelegram := hsame.trans encode_sampleReading
  have hrefused : encode modemReading 23 = .error (.reserved ['c', 'm'] ['A', '+', 'B']) := by
    decide +kernel
  refine ⟨hfields, rfl, hsame, (encode_outcome modemReading 20).1.mp ⟨_, hwritten⟩, ?_⟩
  rcases ((encode_outcome modemReading 23).2.1 _).mp hrefused with ⟨hnone, _⟩ | hfirst
  · exact absurd rfl (hnone .v23)
  · exact hfirst

end WeatherTelegram
