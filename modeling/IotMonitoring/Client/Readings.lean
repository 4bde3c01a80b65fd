import IotMonitoring.Client.WireNumbers
import IotMonitoring.Server.AcceptedMetrics
import IotMonitoring.Server.StoredIds

/-!
# Readings from the draw to the table

A reading is drawn, rounded to hundredths, written, framed, tokenized, read
back, stored and judged. All of it works out for every draw and every instant,
provided that the platform writes numbers as C does; a Java client under a
locale with another decimal separator has every one of its readings refused.
-/

namespace IotMonitoring

open ByteStrings Binary64 UnicodeTexts
set_option autoImplicit false

/-- What the METRIC line of a reading should do to the sensor in slot `i`. -/
structure Recorded (line : Bytes) (value : Double) (anomalous : Bool) (g : GlobalState)
    (i : Fin maxSensors) : Prop where
  reply : (serverMachine line g).1 = metricOk
  stored : ∃ h, RoundsTo value h ∧
    ((serverMachine line g).2.sensors i).lastValue = ofRatio false h 100
  alerts : if anomalous then
      ∃ a, a.sensorId = (g.sensors i).id ∧ (serverMachine line g).2.alerts = g.alerts.push a
    else (serverMachine line g).2.alerts = g.alerts

/-- The client's METRIC is read as one line, whatever follows it, and recorded. -/
def Survives (c : SensorClient) (value : Double) (now : Instant) (anomalous : Bool)
    (g : GlobalState) (i : Fin maxSensors) : Prop :=
  ∃ payload line, c.sendMetric value (utcTimestamp now) = some payload ∧ ReadAs payload line ∧
    Recorded line value anomalous g i

theorem utcTimestamp_word (now : Instant) : WireWord (utcTimestamp now) := by
  apply wireWord_of_visible
  · intro hnil
    have hlen := isValidTimestamp_length (utcTimestamp_valid now)
    rw [hnil] at hlen
    cases hlen
  · exact fun c hc => (utcTimestamp_bytes hc).1

section
variable {c : SensorClient} {name : Bytes} {d : Draws} {value : Double}
variable (hname : UnicodeTexts.encode c.sensorId = some name) (hword : WireWord name)
variable (hlen : name.length < maxIdLen) (hvalue : c.generateValue d = some value) (now : Instant)
include hname hword hlen hvalue

/-- The METRIC line of every reading reaches the server in its four words. -/
theorem metric_heard : ∃ line, c.sendMetric value (utcTimestamp now) = some (line ++ [newline]) ∧
    ReadAs (line ++ [newline]) line ∧
    tokenize line 8 = [ascii "METRIC", name, c.platform.wireNumber value, utcTimestamp now] := by
  obtain ⟨u, hu, heq, -, r, hr, -, hhigh⟩ := drawn_spec hvalue
  have hmax := (ranges_bounds hr).2
  have hnumber := c.platform.wireNumber_word hu
  have hdigits := c.platform.wireNumber_length hu (by omega)
  rw [← heq] at hnumber hdigits
  have hsend := c.sendMetric_some hname (c.platform.encode_fixed2 value)
    fun b hb => (@utcTimestamp_bytes now b hb).2
  have hwords : ∀ w ∈ [ascii "METRIC", name, c.platform.wireNumber value, utcTimestamp now],
      WireWord w := by
    intro w hw
    simp only [List.mem_cons, List.not_mem_nil, or_false] at hw
    rcases hw with rfl | rfl | rfl | rfl
    · exact wireWord_of_visible (by decide) (by decide)
    · exact hword
    · exact hnumber
    · exact utcTimestamp_word now
  have hroom : (joinWords space [ascii "METRIC", name, c.platform.wireNumber value,
      utcTimestamp now]).length + 1 < bufferSize := by
    have hhead : (ascii "METRIC").length = 6 := by decide
    have htime := isValidTimestamp_length (utcTimestamp_valid now)
    simp only [maxIdLen] at hlen
    simp only [joinWords, List.length_append, List.length_cons, hhead, htime, bufferSize]
    omega
  obtain ⟨hread, htokens⟩ := words_heard hwords (show 4 ≤ 8 by omega) hroom
  exact ⟨_, hsend, hread, htokens⟩

variable {g : GlobalState} {i : Fin maxSensors} (hs : g.slotOf name = some i)
variable (hactive : (g.sensors i).status = .active) (htype : c.sensorType = (g.sensors i).type)
include hs hactive htype

theorem survives_iff :
    Survives c value now (isAnomaly c.anomalyChance d) g i ↔ c.platform.Plain := by
  obtain ⟨u, hu, heq, hrounds, r, hr, hlow, hhigh⟩ := drawn_spec hvalue
  have hmax := (ranges_bounds hr).2
  obtain ⟨hplain, hforeign⟩ := c.platform.parseDouble_wireNumber hu (by omega)
  rw [← heq] at hplain hforeign
  obtain ⟨line, hsend, hread, htokens⟩ := metric_heard hname hword hlen hvalue now
  have hmachine := serverMachine_metric htokens g
  rw [htokens] at hmachine
  constructor
  · rintro ⟨payload, line', hpayload, hread', hrecorded⟩
    rw [hsend] at hpayload
    cases hpayload
    cases hread.unique hread'
    have hreply := hrecorded.reply
    rw [hmachine] at hreply
    obtain ⟨command, id, valueStr, timestamp, j, parsed, hts, -, -, hparsed, -, -⟩ :=
      handleMetric_accepted hreply
    cases hts
    by_contra hnot
    rw [hforeign hnot] at hparsed
    cases hparsed
  · intro h
    obtain ⟨hreply, hdone⟩ := handleMetric_reported (ascii "METRIC") hs hactive (hplain h)
      (utcTimestamp_valid now)
    have hjudged := anomalous_hundredths_iff hr hlow hhigh
    rw [htype] at hjudged
    refine ⟨_, line, hsend, hread, ?_, ?_, ?_⟩
    · rw [hmachine]
      exact hreply
    · refine ⟨c.platform.hundredths u, hrounds, ?_⟩
      rw [hmachine, hdone.sensors, Function.update_self]
    · rw [hmachine, hdone.alerts, judgedAlerts]
      cases hanomaly : anomaly (g.sensors i).type (ofRatio false (c.platform.hundredths u) 100) with
      | none =>
        rw [anomaly_eq_none_iff, hjudged] at hanomaly
        rw [if_neg hanomaly]
      | some crossed =>
        have hsome : (anomaly (g.sensors i).type
            (ofRatio false (c.platform.hundredths u) 100)).isSome := by rw [hanomaly]; rfl
        rw [anomaly_isSome_iff, hjudged] at hsome
        rw [if_pos hsome]
        exact ⟨_, safeStrncpy_slotOf hs, rfl⟩

end

/-! ## In every reachable state -/

/-- A decimal point and a decimal for every number: the exact one. -/
def Jvm.exact (decimalSeparator : Char) (hvisible : 32 < decimalSeparator.toNat)
    (hmark : decimalSeparator.isAlphanum = false) : Jvm where
  decimalSeparator := decimalSeparator
  zeroDigit := '0'
  toDecimal := fun u => (u * 5 ^ 1074, 1074)
  separator_visible := hvisible
  separator_mark := hmark
  digits_uniform := Or.inl rfl
  toDecimal_reads := by
    intro u hu
    have hpow : ∀ k, 5 ^ k * 2 ^ k = 10 ^ k := fun k => (Nat.mul_pow 5 2 k).symm
    apply ofRatio_exact hu
    · apply Nat.pow_pos
      omega
    · rw [unit, Nat.mul_assoc, hpow]

namespace System
variable {n : Nat}

theorem wireWord_slotOf {s : System n} {actions : List (Action n)}
    (hrun : Runs.run step (init n) actions = some s) {name : Bytes} {i : Fin maxSensors}
    (hs : s.g.slotOf name = some i) : WireWord name := by
  have hids : StoredIdsOk WireWord s := by
    apply storedIdsOk_run _ _ hrun
    · exact fun w hw => hw.take (by decide)
    · exact fun line hline w hw => wireWord_token hline hw
  rw [← slotOf_id hs]
  exact hids.ids i (slotOf_occupied hs)

/-- In every reachable state a reading drawn by the client of an ACTIVE sensor is recorded as the
drawn value rounded to two decimals, with an alert if it is anomalous, exactly when the client is
the Python one or its locale writes numbers with a point and ASCII digits. -/
theorem readings_survive_iff {s : System n} {actions : List (Action n)}
    (hrun : Runs.run step (init n) actions = some s) {c : SensorClient} {name : Bytes}
    {i : Fin maxSensors} (hname : UnicodeTexts.encode c.sensorId = some name)
    (hs : s.g.slotOf name = some i) (hactive : (s.g.sensors i).status = .active)
    (htype : c.sensorType = (s.g.sensors i).type) {d : Draws} {value : Double}
    (hvalue : c.generateValue d = some value) (now : Instant) :
    Survives c value now (isAnomaly c.anomalyChance d) s.g i ↔ c.platform.Plain :=
  survives_iff hname (wireWord_slotOf hrun hs) (slotOf_length hs) hvalue now hs hactive htype

/-- A Java client of a TEMP sensor under a locale with the given separator. -/
def javaClient (decimalSeparator : Char) (hvisible : 32 < decimalSeparator.toNat)
    (hmark : decimalSeparator.isAlphanum = false) : SensorClient where
  platform := .java (.exact decimalSeparator hvisible hmark)
  sensorId := ofAscii (ascii "s1")
  sensorType := .temp
  anomalyChance := ofNat 0

def sampleDraws : Draws := ⟨0, false, 0, 0⟩

def sampleInstant : Instant :=
  ⟨2026, 3, 30, 14, 5, 0, by decide, by decide, by decide, by decide, by decide, by decide⟩

theorem registered_sample : ∃ s : System 1,
    Runs.run step (init 1) [.connect 0, .receive 0 (ascii "REGISTER s1 TEMP"), .proceed 0] = some s ∧
      s.g.slotOf (ascii "s1") = some 0 ∧ (s.g.sensors 0).status = .active ∧
      (s.g.sensors 0).type = .temp := by
  have h : (Runs.run step (init 1)
      [.connect 0, .receive 0 (ascii "REGISTER s1 TEMP"), .proceed 0]).map (fun s =>
        (s.g.slotOf (ascii "s1"), (s.g.sensors 0).status, (s.g.sensors 0).type)) =
      some (some 0, .active, .temp) := by decide +kernel
  obtain ⟨s, hs, hfound⟩ := Option.map_eq_some_iff.mp h
  simp only [Prod.mk.injEq] at hfound
  exact ⟨s, hs, hfound⟩

theorem javaClient_draws (decimalSeparator : Char) (hvisible : 32 < decimalSeparator.toNat)
    (hmark : decimalSeparator.isAlphanum = false) (d : Draws) :
    ∃ value, (javaClient decimalSeparator hvisible hmark).generateValue d = some value := ⟨_, rfl⟩

theorem readings_survive_point : ∃ (s : System 1) (value : Double),
    (javaClient '.' (by decide) (by decide)).generateValue sampleDraws = some value ∧
      Survives (javaClient '.' (by decide) (by decide)) value sampleInstant
        (isAnomaly (javaClient '.' (by decide) (by decide)).anomalyChance sampleDraws) s.g 0 := by
  obtain ⟨s, hrun, hs, hactive, htype⟩ := registered_sample
  obtain ⟨value, hvalue⟩ := javaClient_draws '.' (by decide) (by decide) sampleDraws
  refine ⟨s, value, hvalue, ?_⟩
  exact (readings_survive_iff hrun (encode_ofAscii (by decide)) hs hactive htype.symm hvalue
    sampleInstant).mpr ⟨rfl, rfl⟩

theorem readings_lost_comma : ∃ (s : System 1) (value : Double),
    Runs.run step (init 1) [.connect 0, .receive 0 (ascii "REGISTER s1 TEMP"), .proceed 0] = some s ∧
      (s.g.sensors 0).status = .active ∧ (s.g.sensors 0).id.text = ascii "s1" ∧
      (javaClient ',' (by decide) (by decide)).generateValue sampleDraws = some value ∧
      ¬ Survives (javaClient ',' (by decide) (by decide)) value sampleInstant
        (isAnomaly (javaClient ',' (by decide) (by decide)).anomalyChance sampleDraws) s.g 0 := by
  obtain ⟨s, hrun, hs, hactive, htype⟩ := registered_sample
  obtain ⟨value, hvalue⟩ := javaClient_draws ',' (by decide) (by decide) sampleDraws
  refine ⟨s, value, hrun, hactive, slotOf_id hs, hvalue, fun hsurvives => ?_⟩
  have hplain := (survives_iff (encode_ofAscii (by decide)) (wireWord_slotOf hrun hs)
    (slotOf_length hs) hvalue sampleInstant hs hactive htype.symm).mp hsurvives
  exact absurd hplain.1 (by decide)

end System

end IotMonitoring
