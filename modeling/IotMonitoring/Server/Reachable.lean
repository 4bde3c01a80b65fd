import IotMonitoring.Server.Interleaving

/-!
# What holds in every reachable state

`PhaseOk` is what a connection inside a command still knows about the shared
state after other connections have moved: the sensor it looked up is still the
first with its id and still has the type read earlier. It is stable because
the table only `Extends`; `systemOk_step` puts the pieces together.
-/

namespace IotMonitoring

open ByteStrings Binary64
set_option autoImplicit false

/-- The sensor with this id is found, and it has this type. -/
def HasType (g : GlobalState) (id : Bytes) (type : SensorType) : Prop :=
  ∃ i, g.slotOf id = some i ∧ (g.sensors i).type = type

def PhaseOk (g : GlobalState) : Phase → Prop
  | .register id type => type ≠ .invalid ∧ (0 : UInt8) ∉ id
  | .addMetric id _ _ type => HasType g id type
  | .addAlert id value threshold _ type message =>
    HasType g id type ∧ anomaly type value = some (threshold, message)
  | .setLevel id _ => ∃ i, g.slotOf id = some i
  | _ => True

theorem HasType.extends {g g' : GlobalState} (ht : TableOk g) (he : Extends g g') {id : Bytes}
    {type : SensorType} (h : HasType g id type) : HasType g' id type := by
  obtain ⟨i, hs, hty⟩ := h
  exact ⟨i, slotOf_extends ht he hs, ((he i (slotOf_occupied hs)).2.2).trans hty⟩

theorem HasType.valid {g : GlobalState} (ht : TableOk g) {id : Bytes} {type : SensorType}
    (h : HasType g id type) : type ≠ .invalid := by
  obtain ⟨i, hs, rfl⟩ := h
  exact ht.typed i (slotOf_occupied hs)

theorem PhaseOk.extends {g g' : GlobalState} (ht : TableOk g) (he : Extends g g') {φ : Phase}
    (h : PhaseOk g φ) : PhaseOk g' φ := by
  cases φ with
  | addMetric id value timestamp type => exact HasType.extends ht he h
  | addAlert id value threshold timestamp type message => exact ⟨h.1.extends ht he, h.2⟩
  | setLevel id level =>
    obtain ⟨i, hs⟩ := h
    exact ⟨i, slotOf_extends ht he hs⟩
  | register id type => exact h
  | _ => trivial

theorem phaseOk_startRegister (g : GlobalState) {ts : List Bytes}
    (hts : ∀ w ∈ ts, (0 : UInt8) ∉ w) : PhaseOk g (Phase.startRegister ts) := by
  unfold Phase.startRegister
  split
  · rename_i id typeStr
    split
    · trivial
    · exact ⟨‹_›, hts id (by simp)⟩
  · trivial

theorem phaseOk_start (g : GlobalState) {ts : List Bytes} (hts : ∀ w ∈ ts, (0 : UInt8) ∉ w) :
    PhaseOk g (Phase.start ts) := by
  cases ts with
  | nil => trivial
  | cons command args =>
    simp only [Phase.start]
    split
    · exact phaseOk_startRegister g hts
    split
    · unfold Phase.startMetric
      split <;> trivial
    split
    · unfold Phase.startStatus
      split <;> trivial
    split
    · unfold Phase.startPing
      split <;> trivial
    split
    · unfold Phase.startQuit
      split <;> trivial
    · trivial

/-- The outcomes of a METRIC's first critical section. -/
theorem next_findMetric_cases (id valueStr timestamp : Bytes) (g : GlobalState) :
    (∃ resp, (Phase.findMetric id valueStr timestamp).next g = .answered resp false ∧
      resp ∈ [sensorNotFound, sensorNotRegistered, invalidValue, badRequest]) ∨
    (∃ i value, g.slotOf id = some i ∧ (g.sensors i).status = .active ∧
      parseDouble valueStr = some value ∧ isValidTimestamp timestamp = true ∧
      (Phase.findMetric id valueStr timestamp).next g =
        .addMetric id value timestamp (g.sensors i).type) := by
  simp only [Phase.next]
  cases h : checkMetric valueStr timestamp (stateFindSensor id g).1 with
  | error resp =>
    exact Or.inl ⟨resp, rfl, checkMetric_error h⟩
  | ok checked =>
    obtain ⟨value, type⟩ := checked
    obtain ⟨i, s, hf, hact, rfl, hv, hts⟩ := checkMetric_ok h
    simp only [stateFindSensor, Option.map_eq_some_iff, Prod.mk.injEq] at hf
    obtain ⟨j, hs, rfl, rfl⟩ := hf
    exact Or.inr ⟨j, value, hs, hact, hv, hts, rfl⟩

theorem next_addMetric {g : GlobalState} {id : Bytes} {type : SensorType} (h : HasType g id type)
    (value : Double) (timestamp : Bytes) :
    (Phase.addMetric id value timestamp type).next g = Phase.evaluate id value timestamp type := by
  obtain ⟨i, hs, -⟩ := h
  simp only [Phase.next, stateAddMetric_found hs, if_true]

theorem phaseOk_evaluate {g : GlobalState} {id : Bytes} {type : SensorType}
    (h : HasType g id type) (value : Double) (timestamp : Bytes) :
    PhaseOk g (Phase.evaluate id value timestamp type) := by
  unfold Phase.evaluate
  split
  · exact ⟨h, ‹_›⟩
  · exact ⟨h.choose, h.choose_spec.1⟩

/-- Only the check of a METRIC leads to its append, after finding the sensor ACTIVE. -/
theorem active_of_next_addMetric {g : GlobalState} {φ : Phase} {call : StateCall}
    (hcall : φ.call = some call) (h : PhaseOk g φ) {id timestamp : Bytes} {value : Double}
    {type : SensorType} (hnext : φ.next g = .addMetric id value timestamp type) :
    call.exec g = g ∧ ∃ i, g.slotOf id = some i ∧ (g.sensors i).status = .active := by
  cases φ with
  | findMetric id' valueStr timestamp' =>
    cases hcall
    rcases next_findMetric_cases id' valueStr timestamp' g with ⟨resp, hn, -⟩ |
      ⟨i, v, hs, hact, -, -, hn⟩
    · rw [hn] at hnext
      cases hnext
    · rw [hn] at hnext
      cases hnext
      exact ⟨rfl, i, hs, hact⟩
  | addMetric id' value' timestamp' type' =>
    rw [next_addMetric h, Phase.evaluate] at hnext
    split at hnext
    · cases hnext
    · cases hnext
  | register id' type' => cases hnext
  | addAlert id' value' threshold timestamp' type' message => cases hnext
  | setLevel id' level => cases hnext
  | findStatus id' => cases hnext
  | deactivate id' => cases hnext
  | answered resp leave => cases hcall

/-- The next phase is sound in the state the critical section leaves. -/
theorem phaseOk_next {g : GlobalState} (ht : TableOk g) {φ : Phase} {call : StateCall}
    (hcall : φ.call = some call) (h : PhaseOk g φ) : PhaseOk (call.exec g) (φ.next g) := by
  have he := extends_exec call g
  cases φ with
  | register id type => trivial
  | findMetric id valueStr timestamp =>
    rcases next_findMetric_cases id valueStr timestamp g with ⟨resp, hn, -⟩ | ⟨i, v, hs, -, -, -, hn⟩
    · rw [hn]
      trivial
    · rw [hn]
      exact HasType.extends ht he ⟨i, hs, rfl⟩
  | addMetric id value timestamp type =>
    rw [next_addMetric h]
    exact phaseOk_evaluate (HasType.extends ht he h) value timestamp
  | addAlert id value threshold timestamp type message =>
    obtain ⟨⟨i, hs, -⟩, -⟩ := h
    exact ⟨i, slotOf_extends ht he hs⟩
  | setLevel id level => trivial
  | findStatus id => trivial
  | deactivate id => trivial
  | answered resp leave => cases hcall

namespace System
variable {n : Nat}

structure SystemOk (s : System n) : Prop where
  table : TableOk s.g
  tables : TablesHold s.g (eventsOf s.log)
  phases : ∀ c φ, s.conn c = .busy φ → PhaseOk s.g φ

theorem systemOk_init : SystemOk (init n) where
  table := tableOk_init
  tables := tablesHold_init
  phases := by
    intro c φ h
    cases h

/-- A settled connection brings only the phase it was put into. -/
theorem phases_settle {s : System n} {P : Phase → Prop} (h : ∀ c φ, s.conn c = .busy φ → P φ)
    (c : Fin n) {φ : Phase} (hφ : P φ) : ∀ c' ψ, (s.settle c φ).conn c' = .busy ψ → P ψ := by
  intro c' ψ hb
  by_cases hc : c' = c
  · subst hc
    rw [settle_conn_busy s c' φ hb]
    exact hφ
  · rw [settle_conn_other s c φ hc] at hb
    exact h c' ψ hb

/-- Opening or closing a connection leaves the commands in progress as they are. -/
theorem phases_update {s : System n} {P : Phase → Prop} (h : ∀ c φ, s.conn c = .busy φ → P φ)
    (c : Fin n) {x : ConnState} (hx : ∀ φ, x ≠ .busy φ) :
    ∀ c' φ, Function.update s.conn c x c' = .busy φ → P φ := by
  intro c' φ hb
  by_cases hc : c' = c
  · rw [hc, Function.update_self] at hb
    exact absurd hb (hx φ)
  · rw [Function.update_of_ne hc] at hb
    exact h c' φ hb

theorem systemOk_step {s s' : System n} {a : Action n} (h : SystemOk s)
    (hstep : s.step a = some s') : SystemOk s' := by
  cases step_cases hstep with
  | connect c hc =>
    exact ⟨h.table, h.tables, phases_update h.phases c fun φ hb => (by cases hb)⟩
  | receive c line hc hline =>
    refine ⟨by rw [settle_g]; exact h.table, ?_, ?_⟩
    · rw [settle_g, eventsOf_settle]
      exact h.tables
    · rw [settle_g]
      exact phases_settle h.phases c (phaseOk_start s.g fun w hw => tokenize_zero_notMem hw)
  | proceed c φ call hc hcall =>
    have hold : ∀ c' ψ, (s.execute c call).conn c' = .busy ψ → PhaseOk (s.execute c call).g ψ :=
      fun c' ψ hb => (h.phases c' ψ hb).extends h.table (extends_exec call s.g)
    refine ⟨?_, ?_, ?_⟩
    · rw [settle_g]
      exact tableOk_exec h.table call
    · rw [settle_g, eventsOf_settle, execute_log, eventsOf_did]
      exact tablesHold_exec h.tables call
    · rw [settle_g]
      exact phases_settle hold c (phaseOk_next h.table hcall (h.phases c φ hc))
  | disconnect c hc =>
    exact ⟨h.table, h.tables, phases_update h.phases c fun φ hb => (by cases hb)⟩

theorem systemOk_run {s : System n} {actions : List (Action n)}
    (hrun : Runs.run step (init n) actions = some s) : SystemOk s :=
  Runs.invariant_run systemOk_step systemOk_init hrun

end System

/-! ## Which call makes which event -/

/-- A metric comes only from an `addMetric` phase, and is built from its arguments. -/
theorem metric_of_event {g : GlobalState} {φ : Phase} {call : StateCall} {m : Metric}
    (hcall : φ.call = some call) (he : (call.event g).bind Event.metric? = some m) :
    ∃ id value timestamp type i, φ = .addMetric id value timestamp type ∧ g.slotOf id = some i ∧
      call.event g = some (.metricAdded i m) ∧
      m = ⟨(g.sensors i).id, value, safeStrncpy timestamp, safeStrncpy (sensorTypeToStr type)⟩ := by
  cases φ with
  | register id type =>
    cases hcall
    rw [(event_register_metric id type g).1] at he
    cases he
  | addMetric id value timestamp type =>
    cases hcall
    simp only [StateCall.event] at he ⊢
    cases hs : g.slotOf id with
    | none =>
      rw [hs] at he
      cases he
    | some i =>
      rw [hs] at he
      cases he
      exact ⟨id, value, timestamp, type, i, rfl, hs, rfl, by rw [safeStrncpy_slotOf hs]⟩
  | setLevel id level =>
    cases hcall
    simp only [StateCall.event] at he
    cases hs : g.slotOf id <;> rw [hs] at he <;> cases he
  | findMetric id valueStr timestamp => cases hcall; cases he
  | addAlert id value threshold timestamp type message => cases hcall; cases he
  | findStatus id => cases hcall; cases he
  | deactivate id => cases hcall; cases he
  | answered resp leave => cases hcall

theorem alert_of_event {g : GlobalState} {φ : Phase} {call : StateCall} {a : Alert}
    (hcall : φ.call = some call) (he : (call.event g).bind Event.alert? = some a) :
    ∃ id value threshold timestamp type message,
      φ = .addAlert id value threshold timestamp type message ∧
      a = ⟨safeStrncpy id, value, threshold, safeStrncpy timestamp,
        safeStrncpy (sensorTypeToStr type), safeStrncpy message⟩ := by
  cases φ with
  | register id type =>
    cases hcall
    rw [(event_register_metric id type g).2] at he
    cases he
  | addMetric id value timestamp type =>
    cases hcall
    simp only [StateCall.event] at he
    cases hs : g.slotOf id <;> rw [hs] at he <;> cases he
  | addAlert id value threshold timestamp type message =>
    cases hcall
    cases he
    exact ⟨id, value, threshold, timestamp, type, message, rfl, rfl⟩
  | setLevel id level =>
    cases hcall
    simp only [StateCall.event] at he
    cases hs : g.slotOf id <;> rw [hs] at he <;> cases he
  | findMetric id valueStr timestamp => cases hcall; cases he
  | findStatus id => cases hcall; cases he
  | deactivate id => cases hcall; cases he
  | answered resp leave => cases hcall

end IotMonitoring
