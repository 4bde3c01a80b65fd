import IotMonitoring.Shared.Markup
import IotMonitoring.Server.Reachable

/-!
# Texts on the pages

Besides the sensor ids, every text that the pages print is the server's own or
has passed a check: a timestamp was found valid, a type name comes from the
enumeration, a message from `alerts_evaluate`. None of them reads as markup, in
any reachable state.
-/

namespace IotMonitoring

open ByteStrings Binary64 Markup
set_option autoImplicit false

def Metric.Unmarked (m : Metric) : Prop := Plain m.timestamp.text ∧ Plain m.typeStr.text

def Alert.Unmarked (a : Alert) : Prop :=
  Plain a.timestamp.text ∧ Plain a.typeStr.text ∧ Plain a.message.text

/-- A timestamp about to be stored. -/
def Phase.Unmarked : Phase → Prop
  | .addMetric _ _ timestamp _ => Plain timestamp
  | .addAlert _ _ _ timestamp _ _ => Plain timestamp
  | _ => True

theorem plain_copy {n : Nat} [NeZero n] {src : Bytes} (h : Plain src) :
    Plain (safeStrncpy src : Buffer n).text := by
  apply h.of_start
  exact (List.take_prefix _ _).trans (List.takeWhile_prefix _)

/-! ## Single texts -/

theorem digit_ne {c : UInt8} (h : 48 ≤ c ∧ c ≤ 57) : c ≠ 60 ∧ c ≠ 38 := by
  have hless : ¬ (60 : UInt8) ≤ 57 := by decide
  have hand : ¬ (48 : UInt8) ≤ 38 := by decide
  constructor
  · intro heq
    exact hless (heq ▸ h.2)
  · intro heq
    exact hand (heq ▸ h.1)

theorem decimal_ne (n : Nat) : ∀ c ∈ decimal n, c ≠ 60 ∧ c ≠ 38 :=
  fun _ hc => digit_ne (decimal_bounds hc)

theorem fixed2_ne {d : Double} : ∀ c ∈ fixed2 d, c ≠ 60 ∧ c ≠ 38 := by
  have hsign : ∀ negative, ∀ c ∈ signText negative, c ≠ 60 ∧ c ≠ 38 := by decide
  have hword : ∀ negative, ∀ word ∈ [ascii "inf", ascii "nan"],
      ∀ c ∈ signText negative ++ word, c ≠ 60 ∧ c ≠ 38 := by decide
  intro c hc
  cases d with
  | finite negative u hu =>
    simp only [fixed2, List.mem_append, List.mem_cons, List.not_mem_nil, or_false] at hc
    rcases hc with (hc | hc) | rfl | rfl | rfl
    · exact hsign negative c hc
    · exact decimal_ne _ c hc
    · decide
    · exact digit_ne (digitByte_bounds (Nat.mod_lt _ (by omega)))
    · exact digit_ne (digitByte_bounds (Nat.mod_lt _ (by omega)))
  | infinite negative => exact hword negative _ (by decide) c hc
  | nan negative => exact hword negative _ (by decide) c hc

theorem plain_fixed2 (d : Double) : Plain (fixed2 d) := plain_of_ne fixed2_ne

theorem plain_sensorTypeToStr (type : SensorType) : Plain (sensorTypeToStr type) := by
  cases type <;> decide

theorem plain_timestamp {ts : Bytes} (h : isValidTimestamp ts = true) : Plain ts := by
  have hmark : ∀ m ∈ timestampMarks, m.2 ≠ 60 ∧ m.2 ≠ 38 := by decide
  have hdigit : isDigit 60 = false ∧ isDigit 38 = false := by decide
  have hlength := isValidTimestamp_length h
  simp only [isValidTimestamp, Bool.and_eq_true, List.all_eq_true, beq_iff_eq] at h
  obtain ⟨⟨-, hmarks⟩, hdigits⟩ := h
  apply plain_of_ne
  intro c hc
  obtain ⟨i, hi, rfl⟩ := List.getElem_of_mem hc
  have hat : ts.getD i 0 = ts[i] := by
    rw [List.getD_eq_getElem?_getD, List.getElem?_eq_getElem hi, Option.getD_some]
  have hbyte := hdigits i (List.mem_range.mpr (hlength ▸ hi))
  rw [hat, Bool.or_eq_true, List.any_eq_true] at hbyte
  rcases hbyte with ⟨m, hm, hpos⟩ | hbyte
  · have hvalue := hmarks m hm
    rw [beq_iff_eq.mp hpos, hat] at hvalue
    rw [hvalue]
    exact hmark m hm
  · constructor
    · intro heq
      rw [heq, hdigit.1] at hbyte
      cases hbyte
    · intro heq
      rw [heq, hdigit.2] at hbyte
      cases hbyte

/-- The `<` of a message stands in front of a blank. -/
theorem plain_anomalyMessage {typeStr comparison : Bytes} {value threshold : Double}
    (htype : ∀ c ∈ typeStr, c ≠ 60 ∧ c ≠ 38) (hcomparison : comparison ∈ [ascii " > ", ascii " < "]) :
    Plain (anomalyMessage typeStr value comparison threshold) := by
  have hopen : opensTag 32 = false := by decide
  have hwords : (∀ c ∈ ascii " anomaly: ", c ≠ 60 ∧ c ≠ 38) ∧ ∀ c ∈ ascii " > ", c ≠ 60 ∧ c ≠ 38 := by
    decide
  have hspace : ∀ c ∈ [(32 : UInt8)], c ≠ 60 ∧ c ≠ 38 := by decide
  have hend : Plain (comparison ++ fixed2 threshold) := by
    rcases List.mem_cons.mp hcomparison with rfl | hless
    · exact plain_append hwords.2 (plain_fixed2 threshold)
    · have hsplit : ascii " < " = [32] ++ (60 :: [32]) := by decide
      rw [List.mem_singleton.mp hless, hsplit, List.append_assoc]
      apply plain_append hspace
      apply List.isChain_cons.mpr
      refine ⟨?_, plain_append hspace (plain_fixed2 threshold)⟩
      intro d hd
      cases hd
      rw [hopen]
      exact ⟨fun h => Bool.false_ne_true h.2, fun h => absurd h.1 (by decide)⟩
  have hall : Plain (typeStr ++ ascii " anomaly: " ++ fixed2 value ++ comparison ++
      fixed2 threshold) := by
    simp only [List.append_assoc]
    exact plain_append htype (plain_append hwords.1 (plain_append fixed2_ne hend))
  exact hall.of_start (List.take_prefix _ _)

theorem plain_anomaly {type : SensorType} {value threshold : Double} {message : Bytes}
    (h : anomaly type value = some (threshold, message)) : Plain message := by
  have hnames : ∀ name ∈ [ascii "TEMP", ascii "VIB", ascii "POWER"],
      ∀ c ∈ name, c ≠ 60 ∧ c ≠ 38 := by decide
  unfold anomaly at h
  split at h
  · split at h
    · obtain ⟨-, rfl⟩ := Prod.mk.inj (Option.some.inj h)
      exact plain_anomalyMessage (hnames _ (by simp)) (by simp)
    · cases h
  · split at h
    · obtain ⟨-, rfl⟩ := Prod.mk.inj (Option.some.inj h)
      exact plain_anomalyMessage (hnames _ (by simp)) (by simp)
    · cases h
  · split at h
    · obtain ⟨-, rfl⟩ := Prod.mk.inj (Option.some.inj h)
      exact plain_anomalyMessage (hnames _ (by simp)) (by simp)
    · split at h
      · obtain ⟨-, rfl⟩ := Prod.mk.inj (Option.some.inj h)
        exact plain_anomalyMessage (hnames _ (by simp)) (by simp)
      · cases h
  · cases h

/-! ## What a command stores -/

theorem unmarked_start (ts : List Bytes) : (Phase.start ts).Unmarked := by
  have hfirst := Phase.start_isFirst ts
  cases h : Phase.start ts with
  | addMetric id value timestamp type =>
    rw [h] at hfirst
    cases hfirst
  | addAlert id value threshold timestamp type message =>
    rw [h] at hfirst
    cases hfirst
  | _ => trivial

theorem unmarked_evaluate {timestamp : Bytes} (h : Plain timestamp) (id : Bytes) (value : Double)
    (type : SensorType) : (Phase.evaluate id value timestamp type).Unmarked := by
  unfold Phase.evaluate
  split
  · exact h
  · trivial

/-- A timestamp goes on to the next critical section only after its check. -/
theorem unmarked_next {g : GlobalState} {φ : Phase} {call : StateCall} (hcall : φ.call = some call)
    (hφ : PhaseOk g φ) (h : φ.Unmarked) : (φ.next g).Unmarked := by
  cases φ with
  | findMetric id valueStr timestamp =>
    rcases next_findMetric_cases id valueStr timestamp g with ⟨resp, hn, -⟩ |
      ⟨i, value, -, -, -, htime, hn⟩
    · rw [hn]
      trivial
    · rw [hn]
      exact plain_timestamp htime
  | addMetric id value timestamp type =>
    rw [next_addMetric hφ]
    exact unmarked_evaluate h id value type
  | answered resp leave => cases hcall
  | _ => trivial

section Events
variable {g : GlobalState} {φ : Phase} {call : StateCall}

theorem unmarked_metric (hcall : φ.call = some call) (h : φ.Unmarked) {m : Metric}
    (hm : (call.event g).bind Event.metric? = some m) : m.Unmarked := by
  obtain ⟨id, value, timestamp, type, i, rfl, -, -, rfl⟩ := metric_of_event hcall hm
  exact ⟨plain_copy h, plain_copy (plain_sensorTypeToStr type)⟩

theorem unmarked_alert (hcall : φ.call = some call) (hφ : PhaseOk g φ) (h : φ.Unmarked) {a : Alert}
    (ha : (call.event g).bind Event.alert? = some a) : a.Unmarked := by
  obtain ⟨id, value, threshold, timestamp, type, message, rfl, rfl⟩ := alert_of_event hcall ha
  exact ⟨plain_copy h, plain_copy (plain_sensorTypeToStr type), plain_copy (plain_anomaly hφ.2)⟩

/-- Only a stored metric gives a sensor a timestamp; a new sensor shows `N/A`. -/
theorem plain_exec (hcall : φ.call = some call) (h : φ.Unmarked)
    (hold : ∀ i, Plain (g.sensors i).lastTimestamp.text) (i : Fin maxSensors) :
    Plain ((call.exec g).sensors i).lastTimestamp.text := by
  by_cases htouch : ∃ e, call.event g = some e ∧ e.slot? = some i
  · obtain ⟨e, he, hslot⟩ := htouch
    rw [exec_sensor_written he hslot]
    cases e with
    | registered id type j =>
      cases hactive : (g.sensors i).active with
      | true =>
        rw [written_again hactive]
        exact hold i
      | false =>
        have hna : Plain (ascii "N/A") := by decide
        rw [Event.written, hactive, if_neg Bool.false_ne_true]
        exact plain_copy hna
    | metricAdded j m =>
      have hm : (call.event g).bind Event.metric? = some m := by
        rw [he]
        rfl
      exact (unmarked_metric hcall h hm).1
    | alertAdded a => exact hold i
    | deactivated id j => exact hold i
    | levelSet j level => exact hold i
  · rw [exec_sensor_frame fun e he hslot => htouch ⟨e, he, hslot⟩]
    exact hold i

end Events

/-! ## Every reachable state -/

namespace System
variable {n : Nat}

structure TextsPlain (s : System n) : Prop where
  ok : SystemOk s
  sensors : ∀ i, Plain (s.g.sensors i).lastTimestamp.text
  metrics : ∀ m ∈ metricsIn (eventsOf s.log), m.Unmarked
  alerts : ∀ a ∈ alertsIn (eventsOf s.log), a.Unmarked
  phases : ∀ c φ, s.conn c = .busy φ → φ.Unmarked

theorem textsPlain_init : TextsPlain (init n) where
  ok := systemOk_init
  sensors := fun _ => List.isChain_nil
  metrics := fun _ hm => absurd hm List.not_mem_nil
  alerts := fun _ ha => absurd ha List.not_mem_nil
  phases := by
    intro c φ h
    cases h

theorem textsPlain_step {s s' : System n} {a : Action n} (h : TextsPlain s)
    (hstep : s.step a = some s') : TextsPlain s' := by
  have hok := systemOk_step h.ok hstep
  cases step_cases hstep with
  | connect c hc =>
    exact ⟨hok, h.sensors, h.metrics, h.alerts, phases_update h.phases c fun φ hb => (by cases hb)⟩
  | receive c line hc hline =>
    refine ⟨hok, ?_, ?_, ?_, phases_settle h.phases c (unmarked_start _)⟩
    · rw [settle_g]
      exact h.sensors
    · rw [eventsOf_settle]
      exact h.metrics
    · rw [eventsOf_settle]
      exact h.alerts
  | proceed c φ call hc hcall =>
    have hφ := h.phases c φ hc
    have hphase := h.ok.phases c φ hc
    have hold : ∀ c' ψ, (s.execute c call).conn c' = .busy ψ → ψ.Unmarked := h.phases
    refine ⟨hok, ?_, ?_, ?_, phases_settle hold c (unmarked_next hcall hphase hφ)⟩
    · rw [settle_g]
      exact plain_exec hcall hφ h.sensors
    · intro m hm
      rw [eventsOf_settle, execute_log, eventsOf_did, metricsIn_append_event, List.mem_append,
        Option.mem_toList] at hm
      rcases hm with hm | hm
      · exact unmarked_metric hcall hφ hm
      · exact h.metrics m hm
    · intro a ha
      rw [eventsOf_settle, execute_log, eventsOf_did, alertsIn_append_event, List.mem_append,
        Option.mem_toList] at ha
      rcases ha with ha | ha
      · exact unmarked_alert hcall hphase hφ ha
      · exact h.alerts a ha
  | disconnect c hc =>
    exact ⟨hok, h.sensors, h.metrics, h.alerts, phases_update h.phases c fun φ hb => (by cases hb)⟩

theorem textsPlain_run {s : System n} {actions : List (Action n)}
    (hrun : Runs.run step (init n) actions = some s) : TextsPlain s :=
  Runs.invariant_run textsPlain_step textsPlain_init hrun

end System

end IotMonitoring
