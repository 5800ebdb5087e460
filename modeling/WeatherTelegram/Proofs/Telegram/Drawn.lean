import WeatherTelegram.Proofs.Random.Reading
import WeatherTelegram.Proofs.Telegram.RoundTrip

/-!
# `Proofs.Telegram.Drawn` — random readings on the wire

Every number of a random reading is on the grid of hundredths and stays on it in its travelling unit, short
of the mark of a silent sensor wherever that mark counts as none; its codes are letters. So each slot
sends what it holds, and no token is long.

## Contents
- **Numbers.** `Span.Holds.onGrid`, `write_of_holds`, `Quantity.isQuiet`.
- **Slots.** `Slot.isSendable_of_isDrawn`, `Slot.write_of_isDrawn`.
- **Rows.** `length_intercalate_le`, `length_telegramOf_le`.
-/

namespace WeatherTelegram

open Binary64

/-! ## Numbers -/

theorem Quantity.high_le (q : Quantity) : q.span.high ≤ 1100 := by
  cases q <;> decide

theorem Gauge.high_le (g : Gauge) : g.span.high ≤ 100 := by
  cases g <;> decide

theorem Span.Holds.onGrid {s : Span} {x : Binary64} (h : s.Holds x) (hs : s.high ≤ 1100) : OnGrid x := by
  obtain ⟨_, _, c, rfl, _, hc⟩ := h
  exact ⟨false, c, by omega, rfl⟩

/-- Whether a span stays short of the mark of a silent sensor in a unit. -/
def Span.IsQuiet (s : Span) (u : WireUnit) : Prop := 100 * (s.high : ℚ) / u.ratio ≤ 99989

/-- Pressures alone may be as high as the mark. -/
theorem Quantity.isQuiet {q : Quantity} (h : q.keepsMark = false) : q.span.IsQuiet q.wireUnit := by
  cases q <;> first | exact absurd h (by decide) |
    norm_num [Span.IsQuiet, Quantity.span, Quantity.wireUnit, WireUnit.ratio]

theorem Gauge.isQuiet (g : Gauge) : g.span.IsQuiet .asKept := by
  cases g <;> norm_num [Span.IsQuiet, Gauge.span, WireUnit.ratio]

theorem length_hundredthsText_le {c : ℕ} (hc : c ≤ 4 * 10 ^ 12) :
    (hundredthsText false c).length ≤ 15 := by
  have hwhole := (length_ofNat_le_iff (n := c / 100) (show 0 < 12 by decide)).mpr (by omega)
  show (pointed 2 c).length ≤ 15
  rw [pointed_two, List.length_append, List.length_cons, length_padded_two]
  omega

/-- **A value of a span in a unit**: a short token, which is not that of the mark if the span is quiet. -/
theorem write_of_holds {u : WireUnit} {s : Span} {x : Binary64} (h : s.Holds x) (hs : s.high ≤ 1100)
    {t : Text} (hwrite : u.write (some x) = .ok t) :
    t.length ≤ 15 ∧ (s.IsQuiet u → t ≠ silentText) := by
  obtain ⟨_, _, c, rfl, _, hc⟩ := h
  obtain ⟨j, hj, hwrite', _, hclose⟩ := u.write_hundredths false (k := c) (by omega)
  obtain rfl : hundredthsText false j = t := Except.ok.inj (hwrite'.symm.trans hwrite)
  refine ⟨length_hundredthsText_le hj, fun hquiet htext => ?_⟩
  have hsilent : silentText = hundredthsText false 99990 := by decide
  rw [hsilent] at htext
  obtain ⟨_, rfl⟩ := hundredthsText_injective htext
  -- the count in the travelling unit is that of the upper end at most, and half a hundredth
  have hcount : (c : ℚ) ≤ 100 * s.high := by exact_mod_cast hc
  have hratio : (c : ℚ) / u.ratio ≤ 100 * s.high / u.ratio :=
    div_le_div_of_nonneg_right hcount (by linarith [(ratio_bounds u).1])
  have hupper := (abs_le.mp hclose).2
  unfold Span.IsQuiet at hquiet
  push_cast at hupper
  linarith

/-! ## Slots -/

theorem isPlain_letters : letters.IsPlain := by
  have hall : letters.all (fun c => c != delimiter && c != '>' && c != '%') = true := rfl
  intro c hc
  simpa [and_assoc] using List.all_eq_true.mp hall c hc

variable {r : Reading}

/-- **Every slot of a random reading can be sent.** -/
theorem Slot.isSendable_of_isDrawn (h : r.IsDrawn) (slot : Slot) : slot.IsSendable r where
  number := by
    have hquantity : ∀ q, ∀ x ∈ r.observation.value q, OnGrid x := by
      intro q x hx
      obtain ⟨y, hy, hholds⟩ := h.quantity q
      obtain rfl : x = y := Option.some.inj (hx.symm.trans hy)
      exact hholds.onGrid q.high_le
    have hgauge : ∀ g, ∀ x ∈ r.health.gauge g, OnGrid x := by
      intro g x hx
      obtain ⟨y, hy, hholds⟩ := h.gauge g
      obtain rfl : x = y := Option.some.inj (hx.symm.trans hy)
      exact hholds.onGrid (g.high_le.trans (by decide))
    cases slot with
    | quantity q unit keepsMark => exact hquantity q
    | gauge g => exact hgauge g
    | voltage g form => exact hgauge g
    | code c => exact fun x hx => nomatch hx
    | signal => exact fun x hx => nomatch hx
    | stamp => exact fun x hx => nomatch hx
    | blank filler => exact fun x hx => nomatch hx
  code := by
    intro c _
    have hplain : (r.health.code c).IsPlain := fun letter hletter =>
      isPlain_letters letter ((h.code c).2 letter hletter)
    exact hplain.not_isReserved
  signal := by
    intro _ k hk
    obtain ⟨n, hn, hsignal⟩ := h.signal
    obtain rfl : k = n := Option.some.inj (hk.symm.trans hsignal)
    unfold IsInt32
    omega

/-- The longest token of a layout: that of a timestamp with colons, or less. -/
def StampStyle.tokenLimit : StampStyle → ℕ
  | .colon => 19
  | .slash => 18

theorem length_stampText_le (style : StampStyle) (t : Instant) :
    (t.stampText style).length ≤ style.tokenLimit := by
  have hyear := (length_ofNat_le_iff (n := t.localTime.date.year) (show 0 < 4 by decide)).mpr
    (by have := t.localTime.date.year_mem.2; omega)
  have hpair : ∀ n, n < 100 → (Text.padded 2 n).length = 2 := fun n hn =>
    length_padded (by decide) hn
  have hmonth := hpair t.localTime.date.month (by have := t.localTime.date.month_mem.2; omega)
  have hday := hpair t.localTime.date.day (by have := t.localTime.date.day_le; omega)
  have hhour := hpair t.localTime.time.hour (by have := t.localTime.time.hour_lt; omega)
  have hminute := hpair t.localTime.time.minute (by have := t.localTime.time.minute_lt; omega)
  have hsecond := hpair t.localTime.time.second (by have := t.localTime.time.second_lt; omega)
  cases style with
  | colon =>
    simp only [Instant.stampText, StampStyle.tokenLimit, List.length_append, List.length_cons]
    omega
  | slash =>
    simp only [Instant.stampText, StampStyle.tokenLimit, List.length_append, List.length_cons]
    omega

/-- **No slot of a random reading is taken for a silent sensor, and none writes a long token.** -/
theorem Slot.write_of_isDrawn [HostZone] (h : r.IsDrawn) {v : Variant} {slot : Slot} (hslot : slot ∈ v.slots)
    {style : StampStyle} {t : Text} (hwrite : slot.write r style = .ok t) :
    (∀ mark ∈ slot.silentToken?, t ≠ mark) ∧ t.length ≤ style.tokenLimit := by
  have hlimit : 18 ≤ style.tokenLimit := by cases style <;> decide
  cases slot with
  | quantity q unit keepsMark =>
    obtain ⟨rfl, rfl⟩ := eq_of_quantity_mem_slots hslot
    obtain ⟨x, hx, hholds⟩ := h.quantity q
    have hunit : q.wireUnit.write (r.observation.value q) = .ok t := asFault_eq_ok_iff.mp hwrite
    rw [hx] at hunit
    obtain ⟨hlength, hquiet⟩ := write_of_holds hholds q.high_le hunit
    refine ⟨fun mark hmark => ?_, by omega⟩
    cases hkeeps : q.keepsMark with
    | true =>
      rw [hkeeps] at hmark
      cases hmark
    | false =>
      rw [hkeeps] at hmark
      cases hmark
      exact hquiet (Quantity.isQuiet hkeeps)
  | gauge g =>
    obtain ⟨x, hx, hholds⟩ := h.gauge g
    have hnumber : WireUnit.write .asKept (r.health.gauge g) = .ok t := asFault_eq_ok_iff.mp hwrite
    rw [hx] at hnumber
    obtain ⟨hlength, hquiet⟩ := write_of_holds hholds (g.high_le.trans (by decide)) hnumber
    refine ⟨fun mark hmark => ?_, by omega⟩
    cases hmark
    exact hquiet g.isQuiet
  | voltage g form =>
    obtain ⟨x, hx, hholds⟩ := h.gauge g
    have hvoltage : writeVoltage (r.health.gauge g) = .ok t := asFault_eq_ok_iff.mp hwrite
    rw [hx] at hvoltage
    obtain ⟨body, hbody, rfl⟩ := map_ok_iff.mp hvoltage
    have hnumber : WireUnit.write .asKept (some x) = .ok body := hbody
    obtain ⟨hlength, hquiet⟩ := write_of_holds hholds (g.high_le.trans (by decide)) hnumber
    refine ⟨fun mark hmark heq => ?_, ?_⟩
    · cases hmark
      exact hquiet g.isQuiet (List.append_cancel_right heq)
    · rw [List.length_append]
      show body.length + 1 ≤ _
      omega
  | code c =>
    simp only [Slot.write] at hwrite
    split at hwrite
    · cases hwrite
    · cases hwrite
      refine ⟨fun mark hmark => ?_, ?_⟩
      · cases hmark
      · rw [(h.code c).1, codeLength]
        omega
  | signal =>
    obtain ⟨n, hn, hsignal⟩ := h.signal
    have hint : IsInt32 n := by
      unfold IsInt32
      omega
    simp only [Slot.write, hsignal, writeWhole_of_isInt32 hint] at hwrite
    cases hwrite
    refine ⟨fun mark hmark => ?_, ?_⟩
    · cases hmark
    · have hdigits := (length_ofNat_le_iff (n := n) (show 0 < 3 by decide)).mpr (by omega)
      unfold Text.ofInt
      rw [if_neg (by omega), Int.natAbs_natCast]
      omega
  | stamp =>
    simp only [Slot.write] at hwrite
    split at hwrite
    · rename_i w hw
      cases hwrite
      obtain ⟨st, _, rfl⟩ := Option.map_eq_some_iff.mp hw
      refine ⟨fun mark hmark => ?_, length_stampText_le style st⟩
      cases hmark
    · cases hwrite
  | blank filler =>
    cases hwrite
    refine ⟨fun mark hmark => ?_, ?_⟩
    · cases hmark
    · show 1 ≤ _
      omega

/-! ## Rows -/

theorem length_intercalate_le {ts : List Text} {b : ℕ} (h : ∀ t ∈ ts, t.length ≤ b) :
    (List.intercalate [delimiter] ts).length ≤ ts.length * (b + 1) := by
  induction ts with
  | nil => exact Nat.zero_le _
  | cons t ts ih =>
    have ht := h t (List.mem_cons_self ..)
    cases ts with
    | nil =>
      rw [List.intercalate_singleton, List.length_singleton]
      omega
    | cons u ts =>
      have hrest := ih fun w hw => h w (List.mem_cons_of_mem t hw)
      rw [intercalate_cons_cons, List.length_append, List.length_cons, List.length_cons, Nat.succ_mul]
      omega

/-- **A random telegram is short.** -/
theorem length_telegramOf_le [HostZone] (h : r.IsDrawn) {v : Variant} {written : List Text}
    (hwrites : Writes r v written) : (telegramOf written).length ≤ 480 := by
  have htokens : ∀ t ∈ blankToken :: written, t.length ≤ v.stampStyle.tokenLimit := by
    intro t ht
    rcases List.mem_cons.mp ht with rfl | ht
    · cases v <;> decide
    · obtain ⟨slot, hslot, hwrite⟩ := hwrites.exists_slot ht
      exact (Slot.write_of_isDrawn h hslot hwrite).2
  refine (length_intercalate_le htokens).trans ?_
  rw [List.length_cons, hwrites.length_eq]
  cases v <;> decide

end WeatherTelegram
