import WeatherTelegram.Proofs.Random.Source
import WeatherTelegram.Proofs.Wire.Written
import WeatherTelegram.Random.Reading

/-!
# `Proofs.Random.Reading` — a random reading keeps to its spans

The value that a unit number picks is reached by a difference, a product and a sum in doubles, each of
which is rounded. The ends of a span are doubles, and rounding keeps order, so none of the three leaves
the span; and the count of hundredths is that of a number between two whole ones. So every value of a
random reading is a number of hundredths within its span, its codes are letters and its signal strength is
a percentage, whatever a fair source yields.

## Contents
- **One value.** `Span.Holds`, `Span.exists_pick`, `Span.holds_pick`.
- **Drawing.** `exists_drawValues`, `drawCode_letters`.
- **Readings.** `Reading.IsDrawn`, `isDrawn_readingAt`.
-/

namespace WeatherTelegram

open Binary64

-- one is far too many steps to be counted out, so that no proof below may look at their number
attribute [local irreducible] stepsPerUnit

/-! ## One value -/

/-- Whether a number of hundredths lies in a span. -/
def Span.Holds (s : Span) (x : Binary64) : Prop :=
  ofInt s.low ≤ x ∧ x ≤ ofInt s.high ∧
    ∃ c : ℕ, x = hundredths false c ∧ 100 * s.low ≤ c ∧ (c : ℤ) ≤ 100 * s.high

/-- Whether the ends of a span are doubles, the lower one first and not negative. -/
def Span.IsProper (s : Span) : Prop := 0 ≤ s.low ∧ s.low ≤ s.high ∧ s.high < 2 ^ precision

instance (s : Span) : Decidable s.IsProper := inferInstanceAs (Decidable (_ ∧ _ ∧ _))

theorem Quantity.isProper_span (q : Quantity) : q.span.IsProper := by
  cases q <;> decide

theorem Gauge.isProper_span (g : Gauge) : g.span.IsProper := by
  cases g <;> decide

/-- The difference of two whole numbers is exact. -/
theorem sub_natural {a b : ℕ} (hb : b ≤ a) (ha : a < 2 ^ precision) :
    ∃ w, ofRatio false a 1 - ofRatio false b 1 = .finite false w ∧ w.value = (a - b : ℕ) := by
  obtain ⟨m, hm, hmvalue⟩ := ofRatio_natural false ha
  obtain ⟨n, hn, hnvalue⟩ := ofRatio_natural false (hb.trans_lt ha)
  obtain ⟨w, hw, hwvalue⟩ := ofRatio_natural false ((Nat.sub_le a b).trans_lt ha)
  have hmsteps : m.steps = a * stepsPerUnit := by
    have := m.value_mul_stepsPerUnit
    rw [hmvalue] at this
    exact_mod_cast this.symm
  have hnsteps : n.steps = b * stepsPerUnit := by
    have := n.value_mul_stepsPerUnit
    rw [hnvalue] at this
    exact_mod_cast this.symm
  have hdifference : signedSteps false m + signedSteps true n = ((a - b) * stepsPerUnit : ℕ) := by
    simp only [signedSteps, Bool.false_eq_true, if_false, if_true, hmsteps, hnsteps]
    push_cast [Nat.cast_sub hb]
    ring
  refine ⟨w, ?_, hwvalue⟩
  rw [hm, hn, ← hw]
  exact add_of_signedSteps rfl hdifference

/-- A sum with a negative zero is not moved. -/
theorem add_negative_zero (l : Magnitude) {p : Magnitude} (hp : p.value = 0) :
    Binary64.finite false l + .finite true p = .finite false l := by
  have hpsteps : p.steps = 0 := by
    have := p.value_mul_stepsPerUnit
    rw [hp, zero_mul] at this
    exact_mod_cast this.symm
  have hsum : signedSteps false l + signedSteps true p = l.steps := by
    simp only [signedSteps, Bool.false_eq_true, if_false, if_true, hpsteps]
    omega
  have hself := l.nearest?_self Nat.one_pos
  rw [Nat.mul_one] at hself
  rw [add_of_signedSteps rfl hsum]
  exact ofSteps_eq false hself

/-- A sum stays between whole numbers that its operands are between. -/
theorem add_between {l p : Magnitude} {a b : ℕ} (hb : b < 2 ^ precision) (hlow : a ≤ l.value)
    (hhigh : l.value + p.value ≤ b) :
    ∃ r, Binary64.finite false l + .finite false p = .finite false r ∧ a ≤ r.value ∧ r.value ≤ b := by
  have hsum : ((l.steps + p.steps : ℕ) : ℚ) / (1 : ℕ) = (l.value + p.value) * stepsPerUnit := by
    rw [add_mul, l.value_mul_stepsPerUnit, p.value_mul_stepsPerUnit]
    push_cast
    ring
  have hb' : (b : ℚ) < 2 ^ 53 := by exact_mod_cast hb
  obtain ⟨r, hr, _⟩ := add_approximates l p (inRange_of_le (by linarith))
  have hround := hr
  rw [add_eq_ofSteps] at hround
  refine ⟨r, hr, ?_, ?_⟩
  · apply natural_le_value Nat.one_pos hround
    · have hab : (a : ℚ) ≤ b := by linarith [p.value_nonneg]
      exact (by exact_mod_cast hab : a ≤ b).trans_lt hb
    · rw [hsum]
      exact mul_le_mul_of_nonneg_right (by linarith [p.value_nonneg]) cast_stepsPerUnit_pos.le
  · apply value_le_natural Nat.one_pos hround hb
    rw [hsum]
    exact mul_le_mul_of_nonneg_right hhigh cast_stepsPerUnit_pos.le

/-- A product with a unit number stays below a whole number that the other factor is. -/
theorem mul_unit_le {w m : Magnitude} {n : ℕ} (hn : n < 2 ^ precision) (hw : w.value = n)
    (hm : m.value < 1) (s : Bool) :
    ∃ p, Binary64.finite false w * .finite s m = .finite s p ∧ p.value ≤ n ∧
      (m.value = 0 → p.value = 0) := by
  have hn' : (n : ℚ) < 2 ^ 53 := by exact_mod_cast hn
  have hproduct : w.value * m.value ≤ n := by
    rw [hw]
    exact mul_le_of_le_one_right (Nat.cast_nonneg n) hm.le
  obtain ⟨p, hp, _⟩ := mul_approximates false s w m (inRange_of_le (by linarith))
  rw [Bool.false_bne] at hp
  have hquotient : ((w.steps * m.steps : ℕ) : ℚ) / stepsPerUnit = w.value * m.value * stepsPerUnit := by
    rw [div_eq_iff cast_stepsPerUnit_pos.ne']
    push_cast
    rw [← w.value_mul_stepsPerUnit, ← m.value_mul_stepsPerUnit]
    ring
  have hround : ofSteps s (w.steps * m.steps) stepsPerUnit = .finite s p := by
    rw [← hp]
    show _ = ofSteps (false != s) (w.steps * m.steps) stepsPerUnit
    rw [Bool.false_bne]
  refine ⟨p, hp, ?_, ?_⟩
  · apply value_le_natural stepsPerUnit_pos hround hn
    rw [hquotient]
    exact mul_le_mul_of_nonneg_right hproduct cast_stepsPerUnit_pos.le
  · intro hzero
    have hle : p.value ≤ (0 : ℕ) := by
      apply value_le_natural stepsPerUnit_pos hround (by decide)
      rw [hquotient, hzero, Nat.cast_zero, mul_zero]
    rw [Nat.cast_zero] at hle
    exact le_antisymm hle p.value_nonneg

/-- A count of hundredths of a number between whole ones is between their counts. -/
theorem shownCount_between {r : Magnitude} {a b : ℕ} (hlow : a ≤ r.value) (hhigh : r.value ≤ b) :
    100 * a ≤ shownCount r ∧ shownCount r ≤ 100 * b := by
  have herr := abs_le.mp (abs_roundHalfEven_sub_le (r.steps * 100) stepsPerUnit_pos)
  have hvalue : ((r.steps * 100 : ℕ) : ℚ) / stepsPerUnit = 100 * r.value := by
    unfold Magnitude.value
    push_cast
    ring
  rw [hvalue] at herr
  have hlower : (100 * a : ℚ) < shownCount r + 1 := by
    unfold shownCount
    linarith
  have hupper : (shownCount r : ℚ) < 100 * b + 1 := by
    unfold shownCount
    linarith
  have hlower' : 100 * a < shownCount r + 1 := by exact_mod_cast hlower
  have hupper' : shownCount r < 100 * b + 1 := by exact_mod_cast hupper
  omega

/-- A whole number as a double. -/
theorem ofInt_natCast (n : ℕ) : ofInt n = ofRatio false n 1 := by
  unfold ofInt
  rw [Int.natAbs_natCast, decide_eq_false (by omega)]

/-- **A picked value is a number of hundredths within its span.** -/
theorem Span.exists_pick {s : Span} {a b : ℕ} (hlow : s.low = a) (hhigh : s.high = b) (hab : a ≤ b)
    (hb : b < 2 ^ precision) {u : Binary64} (hleast : 0 ≤ u) (hmost : u < 1) :
    ∃ c : ℕ, s.pick u = hundredths false c ∧ 100 * a ≤ c ∧ c ≤ 100 * b := by
  obtain ⟨t, m, rfl, hm, hzero⟩ := exists_unit hleast hmost
  obtain ⟨l, hl, hlvalue⟩ := ofRatio_natural false (hab.trans_lt hb)
  obtain ⟨w, hw, hwvalue⟩ := sub_natural hab hb
  obtain ⟨p, hp, hple, hpzero⟩ := mul_unit_le ((Nat.sub_le b a).trans_lt hb) hwvalue hm t
  -- the sum, which a negative zero does not move
  obtain ⟨r, hr, hrlow, hrhigh⟩ : ∃ r, Binary64.finite false l + .finite t p = .finite false r ∧
      a ≤ r.value ∧ r.value ≤ b := by
    have hab' : (a : ℚ) ≤ b := by exact_mod_cast hab
    cases t with
    | false =>
      apply add_between hb hlvalue.ge
      rw [hlvalue]
      push_cast [Nat.cast_sub hab] at hple
      linarith
    | true =>
      refine ⟨l, add_negative_zero l (hpzero (hzero rfl)), hlvalue.ge, ?_⟩
      rw [hlvalue]
      exact hab'
  refine ⟨shownCount r, ?_, shownCount_between hrlow hrhigh⟩
  show (ofInt s.low + (ofInt s.high - ofInt s.low) * .finite t m).toHundredths = _
  rw [hlow, hhigh, ofInt_natCast, ofInt_natCast, hw, hp, hl, hr]
  rfl

/-- **A picked value lies in its span.** -/
theorem Span.holds_pick {s : Span} (h : s.IsProper) {u : Binary64} (hleast : 0 ≤ u) (hmost : u < 1) :
    s.Holds (s.pick u) := by
  obtain ⟨hpos, hle, hlt⟩ := h
  obtain ⟨a, ha⟩ := Int.eq_ofNat_of_zero_le hpos
  obtain ⟨b, hb⟩ := Int.eq_ofNat_of_zero_le (hpos.trans hle)
  rw [ha, hb] at hle
  rw [hb] at hlt
  have hab : a ≤ b := by exact_mod_cast hle
  have hb' : b < 2 ^ precision := by exact_mod_cast hlt
  obtain ⟨c, hc, hac, hcb⟩ := Span.exists_pick ha hb hab hb' hleast hmost
  refine ⟨?_, ?_, c, hc, by rw [ha]; exact_mod_cast hac, by rw [hb]; exact_mod_cast hcb⟩
  all_goals
    rw [hc]
    obtain ⟨m, hm, _⟩ := hundredths_approximates false (c := c) (by unfold precision at hb'; omega)
    rw [hm]
  · obtain ⟨l, hl, hlvalue⟩ := ofRatio_natural false (hab.trans_lt hb')
    rw [ha, ofInt_natCast, hl]
    apply (le_finite_iff false false l m).mpr
    rw [value_finite_false, value_finite_false, hlvalue]
    apply natural_le_value (by decide) hm (hab.trans_lt hb')
    rw [le_div_iff₀ (by norm_num)]
    have hsteps : a * stepsPerUnit * 100 ≤ c * stepsPerUnit := by
      rw [Nat.mul_right_comm, Nat.mul_comm a]
      exact Nat.mul_le_mul_right _ hac
    exact_mod_cast hsteps
  · obtain ⟨n, hn, hnvalue⟩ := ofRatio_natural false hb'
    rw [hb, ofInt_natCast, hn]
    apply (le_finite_iff false false m n).mpr
    rw [value_finite_false, value_finite_false, hnvalue]
    apply value_le_natural (by decide) hm hb'
    rw [div_le_iff₀ (by norm_num)]
    have hsteps : c * stepsPerUnit ≤ b * stepsPerUnit * 100 := by
      rw [Nat.mul_right_comm, Nat.mul_comm b]
      exact Nat.mul_le_mul_right _ hcb
    exact_mod_cast hsteps

/-! ## Drawing -/

section Drawing

variable {κ σ : Type} [DecidableEq κ] [RandomSource σ]

/-- Every key of a list is given a value that some unit number picks. -/
theorem exists_drawValues (hfair : RandomSource.Fair σ) (span : κ → Span) {keys : List κ} {k : κ}
    (h : k ∈ keys) (s : σ) : ∃ u : Binary64, 0 ≤ u ∧ u < 1 ∧
      (drawValues span keys s).1 k = some ((span k).pick u) := by
  induction keys generalizing s with
  | nil => cases h
  | cons key keys ih =>
    by_cases hk : k = key
    · refine ⟨(RandomSource.unit s).1, (hfair s).1, (hfair s).2.1, ?_⟩
      rw [← hk]
      exact if_pos rfl
    · obtain ⟨u, hleast, hmost, hu⟩ := ih (List.mem_of_ne_of_mem hk h) (RandomSource.unit s).2
      refine ⟨u, hleast, hmost, ?_⟩
      rw [← hu]
      exact if_neg hk

theorem letterAt_mem (u : Binary64) : letterAt u ∈ letters := by
  unfold letterAt
  split
  · rename_i k _
    rw [List.getD_eq_getElem?_getD]
    cases hk : letters[k.toNat]? with
    | none => decide
    | some c => exact List.mem_of_getElem? hk
  · decide

/-- A code has its number of letters, whatever the source. -/
theorem drawCode_letters (count : ℕ) (s : σ) :
    (drawCode count s).1.length = count ∧ ∀ c ∈ (drawCode count s).1, c ∈ letters := by
  induction count generalizing s with
  | zero => exact ⟨rfl, fun c hc => nomatch hc⟩
  | succ count ih =>
    obtain ⟨hlength, hletters⟩ := ih (RandomSource.unit s).2
    refine ⟨congrArg Nat.succ hlength, fun c hc => ?_⟩
    rcases List.mem_cons.mp hc with rfl | hc
    · exact letterAt_mem _
    · exact hletters c hc

/-! ## Readings -/

/-- What holds of a reading that was drawn. -/
structure Reading.IsDrawn (r : Reading) : Prop where
  quantity : ∀ q, ∃ x, r.observation.value q = some x ∧ q.span.Holds x
  gauge : ∀ g, ∃ x, r.health.gauge g = some x ∧ g.span.Holds x
  code : ∀ c, (r.health.code c).length = codeLength ∧ ∀ letter ∈ r.health.code c, letter ∈ letters
  signal : ∃ k : ℕ, k ≤ 100 ∧ r.health.signal = some (k : ℤ)

/-- **A random reading keeps to its spans**, whatever a fair source yields. -/
theorem isDrawn_readingAt (hfair : RandomSource.Fair σ) (timestamp : Instant) (s : σ) :
    (readingAt timestamp s).1.IsDrawn where
  quantity := by
    intro q
    obtain ⟨u, hleast, hmost, hu⟩ := exists_drawValues hfair Quantity.span q.mem_all s
    exact ⟨_, hu, Span.holds_pick q.isProper_span hleast hmost⟩
  gauge := by
    intro g
    obtain ⟨u, hleast, hmost, hu⟩ := exists_drawValues hfair Gauge.span g.mem_all
      (drawValues Quantity.span Quantity.all s).2
    exact ⟨_, hu, Span.holds_pick g.isProper_span hleast hmost⟩
  code := by
    intro c
    cases c with
    | modem => exact drawCode_letters codeLength _
    | firmware => exact drawCode_letters codeLength _
  signal := ⟨_, (hfair _).2.2, rfl⟩

end Drawing

end WeatherTelegram
