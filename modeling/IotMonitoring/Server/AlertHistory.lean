import Mathlib.Algebra.BigOperators.Group.Finset.Basic
import Mathlib.Algebra.Order.Group.Multiset
import IotMonitoring.Server.Reachable

/-!
# Alerts are raised once, and with cause

`alertFor` is the alert a stored metric calls for. Between the two critical
sections of an anomalous METRIC its alert is pending. Each connection keeps its
own account: what its metrics called for is what it still owes followed by what
it has raised. The account of the whole system is the sum of these.
-/

namespace IotMonitoring

open ByteStrings Binary64
set_option autoImplicit false

def alertFor (m : Metric) : Option Alert :=
  (anomaly (sensorTypeFromStr m.typeStr.text) m.value).map fun crossed =>
    ⟨m.sensorId, m.value, crossed.1, m.timestamp, m.typeStr, safeStrncpy crossed.2⟩

/-- A metric calls for an alert exactly when its value is anomalous for its type. -/
theorem alertFor_isSome_iff {m : Metric} :
    (alertFor m).isSome ↔ Anomalous (sensorTypeFromStr m.typeStr.text) m.value := by
  rw [← anomaly_isSome_iff, alertFor, Option.isSome_map]

/-- The alert that a METRIC between its two appends still has to raise. -/
def Phase.pendingAlert : Phase → Option Alert
  | .addAlert id value threshold timestamp type message =>
    some ⟨safeStrncpy id, value, threshold, safeStrncpy timestamp,
      safeStrncpy (sensorTypeToStr type), safeStrncpy message⟩
  | _ => none

def ConnState.pendingAlert : ConnState → Option Alert
  | .busy φ => φ.pendingAlert
  | _ => none

theorem pendingAlert_start (ts : List Bytes) : (Phase.start ts).pendingAlert = none := by
  have hfirst := Phase.start_isFirst ts
  cases h : Phase.start ts with
  | addAlert id value threshold timestamp type message =>
    rw [h] at hfirst
    cases hfirst
  | _ => rfl

/-- The alert pending after the metric was stored is the one the stored record calls for. -/
theorem pendingAlert_evaluate {type : SensorType} (htype : type ≠ .invalid) (id : Bytes)
    (value : Double) (timestamp : Bytes) :
    (Phase.evaluate id value timestamp type).pendingAlert =
      alertFor ⟨safeStrncpy id, value, safeStrncpy timestamp,
        safeStrncpy (sensorTypeToStr type)⟩ := by
  unfold Phase.evaluate alertFor
  simp only [typeStr_text, sensorTypeFromStr_toStr htype]
  cases anomaly type value with
  | none => rfl
  | some crossed => rfl

/-- One critical section moves an alert from called for to pending, or from pending to raised. -/
theorem pendingAlert_next {g : GlobalState} (ht : TableOk g) {φ : Phase} {call : StateCall}
    (hcall : φ.call = some call) (hφ : PhaseOk g φ) :
    (((call.event g).bind Event.metric?).bind alertFor).toList ++ φ.pendingAlert.toList =
      (φ.next g).pendingAlert.toList ++ ((call.event g).bind Event.alert?).toList := by
  cases φ with
  | register id type =>
    cases hcall
    rw [(event_register_metric id type g).1, (event_register_metric id type g).2]
    rfl
  | findMetric id valueStr timestamp =>
    cases hcall
    rcases next_findMetric_cases id valueStr timestamp g with ⟨resp, hn, -⟩ | ⟨i, v, -, -, -, -, hn⟩
    · rw [hn]
      rfl
    · rw [hn]
      rfl
  | addMetric id value timestamp type =>
    cases hcall
    have htype : type ≠ .invalid := HasType.valid ht hφ
    rw [next_addMetric hφ, pendingAlert_evaluate htype]
    obtain ⟨i, hs, -⟩ := hφ
    simp only [StateCall.event, hs, Option.map_some, Option.bind_some, Event.metric?, Event.alert?,
      Phase.pendingAlert, Option.toList_none]
  | addAlert id value threshold timestamp type message =>
    cases hcall
    rfl
  | setLevel id level =>
    cases hcall
    simp only [StateCall.event]
    cases g.slotOf id <;> rfl
  | findStatus id =>
    cases hcall
    rfl
  | deactivate id =>
    cases hcall
    rfl
  | answered resp leave => cases hcall

namespace System
variable {n : Nat}

theorem pendingAlert_settle (s : System n) (c : Fin n) (φ : Phase) :
    ((s.settle c φ).conn c).pendingAlert = φ.pendingAlert := by
  cases φ with
  | answered resp leave =>
    simp only [settle, Function.update_self]
    cases leave <;> rfl
  | _ =>
    simp only [settle, Function.update_self]
    rfl

/-- A connection's alerts, newest first: those pending and those raised are the ones its metrics
called for. -/
def AlertsPaid (s : System n) (c : Fin n) : Prop :=
  (metricsIn (eventsBy c s.log)).filterMap alertFor =
    (s.conn c).pendingAlert.toList ++ alertsIn (eventsBy c s.log)

theorem alertsPaid_proceed {s : System n} (h : SystemOk s) {c : Fin n} (hc' : AlertsPaid s c)
    {φ : Phase} {call : StateCall} (hc : s.conn c = .busy φ) (hcall : φ.call = some call) :
    AlertsPaid ((s.execute c call).settle c (φ.next s.g)) c := by
  have hmove := pendingAlert_next h.table hcall (h.phases c φ hc)
  simp only [AlertsPaid, hc, ConnState.pendingAlert] at hc'
  have hcalled : ∀ m : Option Metric, m.toList.filterMap alertFor = (m.bind alertFor).toList := by
    intro m
    cases m with
    | none => rfl
    | some m => cases hm : alertFor m <;> simp [hm]
  calc (metricsIn (eventsBy c ((s.execute c call).settle c (φ.next s.g)).log)).filterMap alertFor
      = (((call.event s.g).bind Event.metric?).bind alertFor).toList ++
          (metricsIn (eventsBy c s.log)).filterMap alertFor := by
        rw [eventsBy_settle, execute_log, eventsBy_did_self, metricsIn_append_event,
          List.filterMap_append, hcalled]
    _ = (((call.event s.g).bind Event.metric?).bind alertFor).toList ++
          (φ.pendingAlert.toList ++ alertsIn (eventsBy c s.log)) := by rw [hc']
    _ = (φ.next s.g).pendingAlert.toList ++
          (((call.event s.g).bind Event.alert?).toList ++ alertsIn (eventsBy c s.log)) := by
        rw [← List.append_assoc, hmove, List.append_assoc]
    _ = _ := by
        rw [pendingAlert_settle, eventsBy_settle, execute_log, eventsBy_did_self,
          alertsIn_append_event]

theorem alertsPaid_step {s s' : System n} {a : Action n} (h : SystemOk s)
    (hall : ∀ c, AlertsPaid s c) (hstep : s.step a = some s') : ∀ c, AlertsPaid s' c := by
  intro c'
  have hold := hall c'
  cases step_cases hstep with
  | connect c hc =>
    by_cases hcc : c' = c
    · subst hcc
      simpa [AlertsPaid, hc, ConnState.pendingAlert] using hold
    · simpa [AlertsPaid, Function.update_of_ne hcc] using hold
  | receive c line hc hline =>
    by_cases hcc : c' = c
    · subst hcc
      rw [AlertsPaid, pendingAlert_settle, eventsBy_settle, pendingAlert_start]
      simpa [AlertsPaid, hc, ConnState.pendingAlert] using hold
    · rw [AlertsPaid, settle_conn_other _ _ _ hcc, eventsBy_settle]
      exact hold
  | proceed c φ call hc hcall =>
    by_cases hcc : c' = c
    · subst hcc
      exact alertsPaid_proceed h hold hc hcall
    · rw [AlertsPaid, settle_conn_other _ _ _ hcc, eventsBy_settle, execute_log, execute_conn,
        eventsBy_did_other (Ne.symm hcc)]
      exact hold
  | disconnect c hc =>
    by_cases hcc : c' = c
    · subst hcc
      simpa [AlertsPaid, hc, ConnState.pendingAlert] using hold
    · simpa [AlertsPaid, Function.update_of_ne hcc] using hold

theorem alertsPaid_run {s : System n} {actions : List (Action n)}
    (hrun : Runs.run step (init n) actions = some s) : SystemOk s ∧ ∀ c, AlertsPaid s c := by
  refine Runs.invariant_run (I := fun s => SystemOk s ∧ ∀ c, AlertsPaid s c) ?_ ?_ hrun
  · exact fun hi hstep => ⟨systemOk_step hi.1 hstep, alertsPaid_step hi.1 hi.2 hstep⟩
  · exact ⟨systemOk_init, fun c => rfl⟩

/-! ## The account of the whole system -/

/-- The history of the system is the histories of its connections together. -/
theorem eventsOf_eq_sum {β : Type} (f : Event → Option β) (log : List (Entry n)) :
    (((eventsOf log).filterMap f : List β) : Multiset β) =
      ∑ c, (((eventsBy c log).filterMap f : List β) : Multiset β) := by
  induction log with
  | nil => simp [eventsOf, eventsBy]
  | cons entry log ih =>
    cases entry with
    | answered c resp => exact ih
    | did c e =>
      have hown : ∀ c', eventsBy c' (.did c e :: log) =
          (if c = c' then [e] else []) ++ eventsBy c' log := by
        intro c'
        by_cases hc : c = c' <;> simp [eventsBy, hc]
      have hsum : ∑ c', ((((if c = c' then [e] else []) : List Event).filterMap f : List β) :
          Multiset β) = ([e].filterMap f : List β) := by
        rw [Finset.sum_eq_single c]
        · rw [if_pos rfl]
        · intro c' _ hne
          rw [if_neg (Ne.symm hne)]
          rfl
        · exact fun hc => absurd (Finset.mem_univ c) hc
      calc (((eventsOf (.did c e :: log)).filterMap f : List β) : Multiset β)
          = ([e].filterMap f : List β) + ((eventsOf log).filterMap f : List β) := by
            rw [Multiset.coe_add, ← List.filterMap_append]
            rfl
        _ = _ := by
            rw [ih, ← hsum, ← Finset.sum_add_distrib]
            apply Finset.sum_congr rfl
            intro c' _
            rw [hown, List.filterMap_append, Multiset.coe_add]

theorem alerts_total {s : System n} (hpaid : ∀ c, AlertsPaid s c) :
    (((metricsIn (eventsOf s.log)).filterMap alertFor : List Alert) : Multiset Alert) =
      (alertsIn (eventsOf s.log) : Multiset Alert) +
        ∑ c, ((s.conn c).pendingAlert.toList : Multiset Alert) := by
  have hcalled := eventsOf_eq_sum (fun e => e.metric?.bind alertFor) s.log
  have hraised := eventsOf_eq_sum Event.alert? s.log
  simp only [metricsIn, alertsIn, List.filterMap_filterMap, AlertsPaid] at hpaid ⊢
  rw [hcalled, hraised, ← Finset.sum_add_distrib]
  apply Finset.sum_congr rfl
  intro c _
  rw [hpaid c, Multiset.coe_add, Multiset.coe_eq_coe]
  exact List.perm_append_comm

/-- No more alerts than metrics were ever appended. -/
theorem alerts_le_metrics {s : System n} (hpaid : ∀ c, AlertsPaid s c) :
    (alertsIn (eventsOf s.log)).length ≤ (metricsIn (eventsOf s.log)).length := by
  have hcard := congrArg Multiset.card (alerts_total hpaid)
  rw [Multiset.card_add, Multiset.coe_card, Multiset.coe_card] at hcard
  have hcalled := (metricsIn (eventsOf s.log)).length_filterMap_le alertFor
  omega

/-- In every reachable state the two tables hold the newest of the metrics and alerts ever appended,
and the alerts called for by the metrics are the alerts raised together with those of the METRICs
between their two appends; with no METRIC in progress they are the alerts raised. Connection by
connection they also agree in order. -/
theorem alerts_once_with_cause {s : System n} {actions : List (Action n)}
    (hrun : Runs.run step (init n) actions = some s) :
    TablesHold s.g (eventsOf s.log) ∧
    (((metricsIn (eventsOf s.log)).filterMap alertFor : List Alert) : Multiset Alert) =
      (alertsIn (eventsOf s.log) : Multiset Alert) +
        ∑ c, ((s.conn c).pendingAlert.toList : Multiset Alert) ∧
    (s.Quiet → (alertsIn (eventsOf s.log) : Multiset Alert) =
      ((metricsIn (eventsOf s.log)).filterMap alertFor : List Alert)) ∧
    ∀ c, (metricsIn (eventsBy c s.log)).filterMap alertFor =
      (s.conn c).pendingAlert.toList ++ alertsIn (eventsBy c s.log) := by
  obtain ⟨-, hpaid⟩ := alertsPaid_run hrun
  have htotal := alerts_total hpaid
  refine ⟨(systemOk_run hrun).tables, htotal, ?_, hpaid⟩
  intro hquiet
  have hnone : ∀ c, (s.conn c).pendingAlert = none := by
    intro c
    cases hc : s.conn c with
    | busy φ =>
      have hφ := hquiet c
      rw [hc] at hφ
      cases φ with
      | addAlert id value threshold timestamp type message => cases hφ
      | _ => rfl
    | _ => rfl
  rw [htotal]
  simp only [hnone, Option.toList_none, Multiset.coe_nil, Finset.sum_const_zero, add_zero]

/-- Two connections report to one sensor; both metrics are stored, the anomalous one is pending. -/
theorem alerts_once_with_cause_pending :
    ∃ s : System 2, Runs.run step (init 2)
        [.connect 0, .connect 1, .receive 0 (ascii "REGISTER s1 TEMP"), .proceed 0,
          .receive 0 (ascii "METRIC s1 80 2026-03-30T14:05:00Z"),
          .receive 1 (ascii "METRIC s1 20 2026-03-30T14:05:01Z"), .proceed 0, .proceed 1,
          .proceed 0, .proceed 1] = some s ∧
      (alertsIn (eventsOf s.log)).length = 0 ∧ (metricsIn (eventsOf s.log)).length = 2 ∧
      ∀ c, (metricsIn (eventsBy c s.log)).filterMap alertFor =
        (s.conn c).pendingAlert.toList ++ alertsIn (eventsBy c s.log) := by
  have h : (Runs.run step (init 2)
      [.connect 0, .connect 1, .receive 0 (ascii "REGISTER s1 TEMP"), .proceed 0,
        .receive 0 (ascii "METRIC s1 80 2026-03-30T14:05:00Z"),
        .receive 1 (ascii "METRIC s1 20 2026-03-30T14:05:01Z"), .proceed 0, .proceed 1,
        .proceed 0, .proceed 1]).map (fun s =>
      ((alertsIn (eventsOf s.log)).length, (metricsIn (eventsOf s.log)).length)) =
      some (0, 2) := by decide +kernel
  obtain ⟨s, hs, hc⟩ := Option.map_eq_some_iff.mp h
  obtain ⟨halerts, hmetrics⟩ := Prod.mk.inj hc
  exact ⟨s, hs, halerts, hmetrics, (alerts_once_with_cause hs).2.2.2⟩

end System

end IotMonitoring
