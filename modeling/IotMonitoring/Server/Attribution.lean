import IotMonitoring.Server.Reachable

/-!
# Stored telemetry belongs to a sensor

Every metric and alert ever appended names an occupied slot's id and carries
that sensor's type, and a METRIC that passed its checks cannot fail later: the
sensor it found is still there at each of its later critical sections.
-/

namespace IotMonitoring

open ByteStrings Binary64
set_option autoImplicit false

/-- The id is held by an occupied slot, and the type string is that of the first such slot. -/
def Attributed (g : GlobalState) (id : Buffer maxIdLen) (typeStr : Buffer maxTypeLen) : Prop :=
  ∃ i, g.slotOf id.text = some i ∧ typeStr.text = sensorTypeToStr (g.sensors i).type

theorem Attributed.extends {g g' : GlobalState} (ht : TableOk g) (he : Extends g g')
    {id : Buffer maxIdLen} {typeStr : Buffer maxTypeLen} (h : Attributed g id typeStr) :
    Attributed g' id typeStr := by
  obtain ⟨i, hs, hty⟩ := h
  refine ⟨i, slotOf_extends ht he hs, ?_⟩
  rw [(he i (slotOf_occupied hs)).2.2]
  exact hty

theorem attributed_of_hasType {g : GlobalState} {id : Bytes} {type : SensorType}
    (h : HasType g id type) :
    Attributed g (safeStrncpy id) (safeStrncpy (sensorTypeToStr type)) := by
  obtain ⟨i, hs, rfl⟩ := h
  refine ⟨i, ?_, typeStr_text _⟩
  rw [safeStrncpy_slotOf hs, slotOf_id hs]
  exact hs

theorem next_ne_internalError {g : GlobalState} {φ : Phase} (h : PhaseOk g φ)
    (hm : φ.isMetric = true) : φ.next g ≠ .answered internalError false := by
  cases φ with
  | findMetric id valueStr timestamp =>
    rcases next_findMetric_cases id valueStr timestamp g with ⟨resp, hn, hr⟩ | ⟨i, v, -, -, -, -, hn⟩
    · rw [hn]
      intro he
      cases he
      revert hr
      decide
    · rw [hn]
      exact fun he => by cases he
  | addMetric id value timestamp type =>
    rw [next_addMetric h]
    unfold Phase.evaluate
    split <;> exact fun he => by cases he
  | addAlert id value threshold timestamp type message => exact fun he => by cases he
  | setLevel id level =>
    intro he
    simp only [Phase.next, Phase.answered.injEq, and_true] at he
    revert he
    decide
  | register id type => cases hm
  | findStatus id => cases hm
  | deactivate id => cases hm
  | answered resp leave => cases hm

namespace System
variable {n : Nat}

/-- Everything in the history is attributable. -/
structure LogAttributed (s : System n) : Prop where
  metrics : ∀ m ∈ metricsIn (eventsOf s.log), Attributed s.g m.sensorId m.typeStr
  alerts : ∀ a ∈ alertsIn (eventsOf s.log), Attributed s.g a.sensorId a.typeStr

theorem logAttributed_execute {s : System n} (h : SystemOk s) (hl : LogAttributed s) {c : Fin n}
    {φ : Phase} {call : StateCall} (hc : s.conn c = .busy φ) (hcall : φ.call = some call) :
    LogAttributed (s.execute c call) := by
  have he := extends_exec call s.g
  have hφ := h.phases c φ hc
  constructor
  · intro m hm
    rw [execute_log, eventsOf_did, metricsIn_append_event, List.mem_append, Option.mem_toList] at hm
    rcases hm with hm | hm
    · obtain ⟨id, value, timestamp, type, i, rfl, hs, -, rfl⟩ := metric_of_event hcall hm
      rw [← safeStrncpy_slotOf hs]
      exact (attributed_of_hasType hφ).extends h.table he
    · exact (hl.metrics m hm).extends h.table he
  · intro a ha
    rw [execute_log, eventsOf_did, alertsIn_append_event, List.mem_append, Option.mem_toList] at ha
    rcases ha with ha | ha
    · obtain ⟨id, value, threshold, timestamp, type, message, rfl, rfl⟩ := alert_of_event hcall ha
      exact (attributed_of_hasType hφ.1).extends h.table he
    · exact (hl.alerts a ha).extends h.table he

theorem logAttributed_step {s s' : System n} {a : Action n} (h : SystemOk s)
    (hl : LogAttributed s) (hstep : s.step a = some s') : LogAttributed s' := by
  cases step_cases hstep with
  | connect c hc => exact ⟨hl.metrics, hl.alerts⟩
  | receive c line hc hline =>
    constructor
    · rw [eventsOf_settle, settle_g]
      exact hl.metrics
    · rw [eventsOf_settle, settle_g]
      exact hl.alerts
  | proceed c φ call hc hcall =>
    have hx := logAttributed_execute h hl hc hcall
    constructor
    · rw [eventsOf_settle, settle_g]
      exact hx.metrics
    · rw [eventsOf_settle, settle_g]
      exact hx.alerts
  | disconnect c hc => exact ⟨hl.metrics, hl.alerts⟩

theorem logAttributed_run {s : System n} {actions : List (Action n)}
    (hrun : Runs.run step (init n) actions = some s) : SystemOk s ∧ LogAttributed s := by
  refine Runs.invariant_run (I := fun s => SystemOk s ∧ LogAttributed s)
    (fun hi hstep => ⟨systemOk_step hi.1 hstep, logAttributed_step hi.1 hi.2 hstep⟩)
    ⟨systemOk_init, ?_, ?_⟩ hrun
  · simp [init, eventsOf, metricsIn]
  · simp [init, eventsOf, alertsIn]

/-- In every reachable state the stored metrics and alerts are attributable,
and a METRIC past its checks succeeds in every later critical section, so it
is never answered with an internal error. -/
theorem telemetry_attributable {s : System n} {actions : List (Action n)}
    (hrun : Runs.run step (init n) actions = some s) :
    (∀ i : Fin maxMetrics, i.val < s.g.metrics.count →
      Attributed s.g (s.g.metrics.slots i).sensorId (s.g.metrics.slots i).typeStr) ∧
    (∀ i : Fin maxAlerts, i.val < s.g.alerts.count →
      Attributed s.g (s.g.alerts.slots i).sensorId (s.g.alerts.slots i).typeStr) ∧
    (∀ c id value timestamp type, s.conn c = .busy (.addMetric id value timestamp type) →
      (stateAddMetric id value timestamp (sensorTypeToStr type) s.g).1 = true) ∧
    (∀ c id level, s.conn c = .busy (.setLevel id level) →
      (stateSetAlertLevel id level s.g).1 = true) ∧
    (∀ c φ, s.conn c = .busy φ → φ.isMetric = true →
      φ.next s.g ≠ .answered internalError false) := by
  obtain ⟨h, hl⟩ := logAttributed_run hrun
  refine ⟨?_, ?_, ?_, ?_, ?_⟩
  · exact fun i hi => hl.metrics _ (h.tables.metrics.slot_mem hi)
  · exact fun i hi => hl.alerts _ (h.tables.alerts.slot_mem hi)
  · intro c id value timestamp type hc
    obtain ⟨i, hs, -⟩ := h.phases c _ hc
    rw [stateAddMetric_found hs]
  · intro c id level hc
    obtain ⟨i, hs⟩ := h.phases c _ hc
    rw [stateSetAlertLevel, updateSensor_found hs]
  · intro c φ hc hm
    exact next_ne_internalError (h.phases c φ hc) hm

/-- The run of one sensor that registers and reports an anomalous reading. -/
theorem telemetry_attributable_report :
    ∃ s : System 1, Runs.run step (init 1)
        [.connect 0, .receive 0 (ascii "REGISTER s1 TEMP"), .proceed 0,
          .receive 0 (ascii "METRIC s1 80 2026-03-30T14:05:00Z"), .proceed 0, .proceed 0,
          .proceed 0] = some s ∧ s.g.alerts.count = 1 ∧
      (∀ i : Fin maxAlerts, i.val < s.g.alerts.count →
        Attributed s.g (s.g.alerts.slots i).sensorId (s.g.alerts.slots i).typeStr) := by
  have h : (Runs.run step (init 1)
      [.connect 0, .receive 0 (ascii "REGISTER s1 TEMP"), .proceed 0,
        .receive 0 (ascii "METRIC s1 80 2026-03-30T14:05:00Z"), .proceed 0, .proceed 0,
        .proceed 0]).map (fun s => s.g.alerts.count) = some 1 := by decide +kernel
  obtain ⟨s, hs, hc⟩ := Option.map_eq_some_iff.mp h
  exact ⟨s, hs, hc, (telemetry_attributable hs).2.1⟩

end System

end IotMonitoring
