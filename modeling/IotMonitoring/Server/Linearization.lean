import IotMonitoring.Shared.AtomicObjects
import IotMonitoring.Server.AlertLevels
import IotMonitoring.Server.Refinement

/-!
# The interleaved server as one atomic object

A command that enters one critical section takes effect there. A METRIC takes
effect where it stores its value, although it checked its sensor in an earlier
section and sets the level in a later one. As long as nobody else enters a
section for that sensor in between, the replies are those of the sensor machine:
the level that is still owed is put into a shadow of the table, and the shadow
holds the records of the machine.
-/

namespace IotMonitoring

open ByteStrings Binary64 AtomicObjects
set_option autoImplicit false

/-! ## What is seen, and when nobody interferes -/

/-- The sensor that the critical section of a phase names. -/
def Phase.names : Phase → Option Bytes
  | .register id _ | .findMetric id _ _ | .addMetric id _ _ _ | .addAlert id _ _ _ _ _
  | .setLevel id _ | .findStatus id | .deactivate id => some id
  | .answered _ _ => none

/-- The sensor of a METRIC that has passed its checks. -/
def ConnState.reporting : ConnState → Option Bytes
  | .busy (.addMetric id _ _ _) | .busy (.addAlert id _ _ _ _ _) | .busy (.setLevel id _) => some id
  | _ => none

/-- The id in a line fits its field, if the line is a command. -/
def FitsField (line : Bytes) : Prop :=
  ∀ k ∈ Command.parse (tokenize line 8), k.id.length < maxIdLen

namespace System
variable {n : Nat}

def answerOf (c : Fin n) : Phase → List (Visible (Fin n) Bytes Bytes)
  | .answered resp _ => [.answer c resp]
  | _ => []

/-- The lines a step receives and the replies it gives. -/
def visible (s : System n) : Action n → List (Visible (Fin n) Bytes Bytes)
  | .receive c line => .call c line :: answerOf c (.start (tokenize line 8))
  | .proceed c =>
    match s.conn c with
    | .busy φ => answerOf c (φ.next s.g)
    | _ => []
  | _ => []

/-- No section is entered for a sensor while another connection is inside a METRIC of it, and the
ids received fit their field. -/
def Undivided (s : System n) : Action n → Prop
  | .receive _ line => FitsField line
  | .proceed c => ∀ φ, s.conn c = .busy φ → ∀ id, φ.names = some id →
      ∀ c', c' ≠ c → (s.conn c').reporting ≠ some id
  | _ => True

end System

/-! ## Tables that differ in their levels -/

/-- The same sensors, apart from their alert levels. -/
structure SameButLevels (g g' : GlobalState) : Prop where
  sensors : ∀ i, g'.sensors i = { g.sensors i with alertLevel := (g'.sensors i).alertLevel }
  count : g'.sensorCount = g.sensorCount

theorem SameButLevels.refl (g : GlobalState) : SameButLevels g g := ⟨fun _ => rfl, rfl⟩

namespace SameButLevels
variable {g g' : GlobalState} (h : SameButLevels g g')
include h

theorem active (i : Fin maxSensors) : (g'.sensors i).active = (g.sensors i).active := by
  rw [h.sensors i]

theorem status (i : Fin maxSensors) : (g'.sensors i).status = (g.sensors i).status := by
  rw [h.sensors i]

theorem type (i : Fin maxSensors) : (g'.sensors i).type = (g.sensors i).type := by
  rw [h.sensors i]

theorem slotOf (id : Bytes) : g'.slotOf id = g.slotOf id :=
  SlotTable.find_congr h.active (fun i => by rw [h.sensors i]) id

theorem freeSlot : g'.freeSlot = g.freeSlot := SlotTable.free_congr h.active

theorem registerResult (id : Bytes) (type : SensorType) :
    (stateRegisterSensor id type g').1 = (stateRegisterSensor id type g).1 := by
  simp only [stateRegisterSensor, h.slotOf, h.freeSlot]
  split
  · rfl
  split
  · rename_i i hs
    rw [h.status i]
    split <;> rfl
  · split <;> rfl

/-- What a call does is decided without the levels. -/
theorem event (call : StateCall) : call.event g' = call.event g := by
  cases call with
  | register id type => simp only [StateCall.event, h.registerResult, h.slotOf, h.freeSlot]
  | _ => simp only [StateCall.event, h.slotOf]

theorem checkMetric (id valueStr timestamp : Bytes) :
    checkMetric valueStr timestamp (stateFindSensor id g').1 =
      IotMonitoring.checkMetric valueStr timestamp (stateFindSensor id g).1 := by
  simp only [stateFindSensor, h.slotOf]
  cases g.slotOf id with
  | none => rfl
  | some i => simp only [Option.map_some, IotMonitoring.checkMetric, h.status, h.type]

/-- A first section ends the same way, if it reads no level that differs. -/
theorem next {φ : Phase} (hfirst : φ.isFirst = true)
    (hread : ∀ id i, φ = .findStatus id → g.slotOf id = some i → g'.sensors i = g.sensors i) :
    φ.next g' = φ.next g := by
  cases φ with
  | register id type => simp only [Phase.next, h.registerResult]
  | findMetric id valueStr timestamp => simp only [Phase.next, h.checkMetric]
  | findStatus id =>
    simp only [Phase.next, stateFindSensor, h.slotOf]
    cases hs : g.slotOf id with
    | none => rfl
    | some i => rw [Option.map_some, Option.map_some, hread id i rfl hs]
  | deactivate id => rfl
  | answered resp leave => rfl
  | _ => cases hfirst

end SameButLevels

section Exec
variable {g g' : GlobalState} {call : StateCall} {i : Fin maxSensors}

/-- A call that sets no level leaves the levels of a sensor as they differ. -/
theorem SameButLevels.exec (h : SameButLevels g g')
    (hcall : ∀ id level, call ≠ .setAlertLevel id level) (hocc : (g.sensors i).active = true) :
    ((call.exec g).sensors i).alertLevel = (g.sensors i).alertLevel ∧
      (call.exec g').sensors i =
        { (call.exec g).sensors i with alertLevel := (g'.sensors i).alertLevel } := by
  have hsame := h.sensors i
  by_cases htouch : ∃ e, call.event g = some e ∧ e.slot? = some i
  · obtain ⟨e, he, hi⟩ := htouch
    rw [exec_sensor_written he hi, exec_sensor_written ((h.event call).trans he) hi]
    cases e with
    | registered id type j =>
      have hocc' : (g'.sensors i).active = true := (h.active i).trans hocc
      rw [written_again hocc, written_again hocc', hsame]
      exact ⟨rfl, rfl⟩
    | metricAdded j m =>
      refine ⟨rfl, ?_⟩
      rw [hsame]
      rfl
    | alertAdded a => cases hi
    | deactivated id j =>
      refine ⟨rfl, ?_⟩
      rw [hsame]
      rfl
    | levelSet j level =>
      cases call with
      | setAlertLevel id level' => exact absurd rfl (hcall id level')
      | register id type =>
        obtain ⟨k, hk, -⟩ := event_register he
        cases hk
      | find id => cases he
      | addMetric id value timestamp typeStr =>
        obtain ⟨k, -, hk⟩ := Option.map_eq_some_iff.mp he
        cases hk
      | addAlert id value threshold timestamp typeStr message => cases he
      | deactivate id => cases he
  · rw [exec_sensor_frame fun e he hi => htouch ⟨e, he, hi⟩,
      exec_sensor_frame fun e he hi => htouch ⟨e, (h.event call).symm.trans he, hi⟩]
    exact ⟨rfl, hsame⟩

/-- A slot with the same sensor is written the same. -/
theorem SameButLevels.exec_same (h : SameButLevels g g') (call : StateCall)
    (hi : g'.sensors i = g.sensors i) : (call.exec g').sensors i = (call.exec g).sensors i := by
  by_cases htouch : ∃ e, call.event g = some e ∧ e.slot? = some i
  · obtain ⟨e, he, hslot⟩ := htouch
    rw [exec_sensor_written he hslot, exec_sensor_written ((h.event call).trans he) hslot, hi]
  · rw [exec_sensor_frame fun e he hslot => htouch ⟨e, he, hslot⟩,
      exec_sensor_frame fun e he hslot => htouch ⟨e, (h.event call).symm.trans he, hslot⟩, hi]

theorem SameButLevels.exec_count (h : SameButLevels g g') (call : StateCall) :
    (call.exec g').sensorCount = (call.exec g).sensorCount := by
  cases call with
  | register id type =>
    simp only [StateCall.exec, stateRegisterSensor, h.slotOf, h.freeSlot]
    split
    · exact h.count
    split
    · rw [h.status]
      split <;> exact h.count
    · split
      · exact h.count
      · exact congrArg (· + 1) h.count
  | find id => exact h.count
  | addMetric id value timestamp typeStr =>
    cases hs : g.slotOf id with
    | none =>
      simp only [StateCall.exec]
      rw [stateAddMetric_missing hs, stateAddMetric_missing ((h.slotOf id).trans hs)]
      exact h.count
    | some i =>
      simp only [StateCall.exec]
      rw [stateAddMetric_found hs, stateAddMetric_found ((h.slotOf id).trans hs)]
      exact h.count
  | addAlert id value threshold timestamp typeStr message => exact h.count
  | deactivate id =>
    simp only [StateCall.exec, stateDeactivateSensor, GlobalState.updateSensor, h.slotOf]
    split <;> exact h.count
  | setAlertLevel id level =>
    simp only [StateCall.exec, stateSetAlertLevel, GlobalState.updateSensor, h.slotOf]
    split <;> exact h.count

end Exec

theorem names_of_call {φ : Phase} {call : StateCall} (hcall : φ.call = some call) :
    φ.names = some call.names := by
  cases φ <;> cases hcall <;> rfl

namespace System
variable {n : Nat} {s s' : System n}

/-! ## The shadow -/

/-- A table with the levels that are still owed. -/
structure Shadow (s : System n) (g' : GlobalState) : Prop where
  same : SameButLevels s.g g'
  level : ∀ i, (∃ c, s.owed c = some (i, (g'.sensors i).alertLevel)) ∨
    ((g'.sensors i).alertLevel = (s.g.sensors i).alertLevel ∧ ∀ c level, s.owed c ≠ some (i, level))

/-- At most one connection is inside a METRIC of a sensor. -/
def Alone (s : System n) : Prop :=
  ∀ c c' id, (s.conn c).reporting = some id → (s.conn c').reporting = some id → c = c'

/-- How far the call of a connection has come at the atomic object. -/
def Tracks (g : GlobalState) : ConnState → Option (Stage Bytes Bytes) → Prop
  | .busy (.addMetric id value timestamp type), stage =>
    ∃ line valueStr, stage = some (.called line) ∧ FitsField line ∧
      Phase.start (tokenize line 8) = .findMetric id valueStr timestamp ∧
      checkMetric valueStr timestamp (stateFindSensor id g).1 = .ok (value, type)
  | .busy (.addAlert _ _ _ _ _ _), stage | .busy (.setLevel _ _), stage =>
    stage = some (.done metricOk)
  | .busy φ, stage =>
    ∃ line, stage = some (.called line) ∧ FitsField line ∧ Phase.start (tokenize line 8) = φ
  | _, stage => stage = none

structure Follows (s : System n) (t : State (Fin n) Bytes Bytes Registry) : Prop where
  ok : SystemOk s
  alone : s.Alone
  shadow : ∃ g', s.Shadow g' ∧ Refines g' t.object
  stages : ∀ c, Tracks s.g (s.conn c) (t.stage c)

theorem owed_reporting {c : Fin n} {i : Fin maxSensors} {level : AlertLevel}
    (h : s.owed c = some (i, level)) :
    ∃ id, (s.conn c).reporting = some id ∧ s.g.slotOf id = some i := by
  obtain ⟨id, hw, hs⟩ := owed_eq_some.mp h
  refine ⟨id, ?_, hs⟩
  unfold ConnState.levelWrite at hw
  split at hw
  · cases hw
    simp only [ConnState.reporting, ‹s.conn c = _›]
  · cases hw
    simp only [ConnState.reporting, ‹s.conn c = _›]
  · cases hw

/-- The sensor that a first section names is owed nothing. -/
theorem not_owed {c : Fin n} {a : Action n} {φ : Phase} {id : Bytes} {i : Fin maxSensors}
    (ha : a = .proceed c) (hundivided : s.Undivided a) (hc : s.conn c = .busy φ)
    (hquiet : (s.conn c).reporting = none) (hnames : φ.names = some id)
    (hs : s.g.slotOf id = some i) (c' : Fin n) (level : AlertLevel) :
    s.owed c' ≠ some (i, level) := by
  subst ha
  intro howed
  obtain ⟨id', hreporting, hs'⟩ := owed_reporting howed
  obtain rfl : id' = id := (slotOf_id hs').symm.trans (slotOf_id hs)
  by_cases hcc : c' = c
  · rw [hcc, hquiet] at hreporting
    cases hreporting
  · exact hundivided φ hc id' hnames c' hcc hreporting

theorem reporting_settle (s : System n) (c : Fin n) (φ : Phase) :
    ((s.settle c φ).conn c).reporting = (ConnState.busy φ).reporting := by
  cases φ with
  | answered resp leave =>
    simp only [settle, Function.update_self]
    cases leave <;> rfl
  | _ => simp only [settle, Function.update_self]

theorem reporting_first {φ : Phase} (hfirst : φ.isFirst = true) :
    (ConnState.busy φ).reporting = none ∧ (ConnState.busy φ).levelWrite = none := by
  cases φ with
  | addMetric id value timestamp type => cases hfirst
  | addAlert id value threshold timestamp type message => cases hfirst
  | setLevel id level => cases hfirst
  | _ => exact ⟨rfl, rfl⟩

/-- A section leads only into a METRIC of the sensor it names. -/
theorem reporting_next {φ : Phase} {call : StateCall} (hcall : φ.call = some call)
    {g : GlobalState} {id : Bytes}
    (h : (ConnState.busy (φ.next g)).reporting = some id) : φ.names = some id := by
  cases φ with
  | findMetric id' valueStr timestamp =>
    simp only [Phase.next] at h
    split at h
    · cases h
    · exact h
  | addMetric id' value timestamp type =>
    simp only [Phase.next] at h
    split at h
    · unfold Phase.evaluate at h
      split at h <;> exact h
    · cases h
  | addAlert id' value threshold timestamp type message => exact h
  | answered resp leave => cases hcall
  | _ => cases h

/-- After a first section nothing is owed yet. -/
theorem levelWrite_next {φ : Phase} (hfirst : φ.isFirst = true) (g : GlobalState) :
    (ConnState.busy (φ.next g)).levelWrite = none := by
  cases φ with
  | findMetric id valueStr timestamp =>
    simp only [Phase.next]
    split <;> rfl
  | addMetric id value timestamp type => cases hfirst
  | addAlert id value threshold timestamp type message => cases hfirst
  | setLevel id level => cases hfirst
  | _ => rfl

section Proceed
variable {c : Fin n} {φ : Phase} {call : StateCall}

theorem alone_proceed (h : s.Alone) (hundivided : s.Undivided (.proceed c))
    (hc : s.conn c = .busy φ) (hcall : φ.call = some call) :
    ((s.execute c call).settle c (φ.next s.g)).Alone := by
  have hself : ∀ id, (((s.execute c call).settle c (φ.next s.g)).conn c).reporting = some id →
      ∀ c', c' ≠ c → (s.conn c').reporting ≠ some id := by
    intro id hid
    rw [reporting_settle] at hid
    exact hundivided φ hc id (reporting_next hcall hid)
  have hother : ∀ c', c' ≠ c →
      ((s.execute c call).settle c (φ.next s.g)).conn c' = s.conn c' := by
    intro c' hne
    rw [settle_conn_other _ _ _ hne, execute_conn]
  intro c₁ c₂ id h₁ h₂
  by_cases hc₁ : c₁ = c
  · by_cases hc₂ : c₂ = c
    · rw [hc₁, hc₂]
    · rw [hc₁] at h₁
      rw [hother c₂ hc₂] at h₂
      exact absurd h₂ (hself id h₁ c₂ hc₂)
  · rw [hother c₁ hc₁] at h₁
    by_cases hc₂ : c₂ = c
    · rw [hc₂] at h₂
      exact absurd h₁ (hself id h₂ c₁ hc₁)
    · rw [hother c₂ hc₂] at h₂
      exact h c₁ c₂ id h₁ h₂

/-- A section for another sensor leaves the check of a METRIC as it came out. -/
theorem tracks_other (hok : SystemOk s) {conn : ConnState} {stage : Option (Stage Bytes Bytes)}
    (hne : conn.reporting ≠ some call.names) (h : Tracks s.g conn stage) :
    Tracks (call.exec s.g) conn stage := by
  unfold Tracks at h
  split at h
  · rename_i id value timestamp type
    obtain ⟨line, valueStr, hstage, hfits, hstart, hcheck⟩ := h
    refine ⟨line, valueStr, hstage, hfits, hstart, ?_⟩
    have hname : call.names ≠ id := fun heq => hne (congrArg some heq.symm)
    obtain ⟨i, x, hfound, -⟩ := checkMetric_ok hcheck
    simp only [stateFindSensor] at hfound hcheck ⊢
    obtain ⟨j, hs, -⟩ := Option.map_eq_some_iff.mp hfound
    rw [slotOf_extends hok.table (extends_exec call s.g) hs, Option.map_some, exec_other hs hname]
    rw [hs, Option.map_some] at hcheck
    exact hcheck
  · exact h
  · exact h
  · rename_i φ' hadd halert hlevel
    cases φ' with
    | addMetric id value timestamp type => exact absurd rfl (hadd _ _ _ _)
    | addAlert id value threshold timestamp type message => exact absurd rfl (halert _ _ _ _ _ _)
    | setLevel id level => exact absurd rfl (hlevel _ _)
    | _ => exact h
  · rename_i hbusy
    cases conn with
    | busy φ' => exact absurd rfl (hbusy φ')
    | _ => exact h

/-- The section of a command that owes nothing before or after it leaves the levels owed. -/
theorem shadow_first (hok : SystemOk s) {g' : GlobalState} (h : s.Shadow g')
    (hc : s.conn c = .busy φ) (hcall : φ.call = some call) (hfirst : φ.isFirst = true) :
    ((s.execute c call).settle c (φ.next s.g)).Shadow (call.exec g') := by
  have howed : ∀ c', ((s.execute c call).settle c (φ.next s.g)).owed c' = s.owed c' := by
    intro c'
    by_cases hcc : c' = c
    · rw [hcc, owed_settle_none (levelWrite_next hfirst s.g), owed, hc, (reporting_first hfirst).2]
      rfl
    · exact owed_other hok hcc _ _
  have hnolevel : ∀ id level, call ≠ .setAlertLevel id level := by
    rintro id level rfl
    cases φ <;> cases hcall
    cases hfirst
  have hfree : ∀ i, (s.g.sensors i).active = false → g'.sensors i = s.g.sensors i := by
    intro i hi
    rcases h.level i with ⟨c', ho⟩ | ⟨hl, -⟩
    · obtain ⟨id, -, hs⟩ := owed_reporting ho
      rw [slotOf_occupied hs] at hi
      cases hi
    · rw [h.same.sensors i, hl]
  have hsensor : ∀ i, (call.exec g').sensors i =
      { (call.exec s.g).sensors i with alertLevel := ((call.exec g').sensors i).alertLevel } := by
    intro i
    cases hocc : (s.g.sensors i).active with
    | true =>
      have hexec := (h.same.exec hnolevel hocc).2
      rw [hexec]
    | false =>
      rw [h.same.exec_same call (hfree i hocc)]
  refine ⟨⟨fun i => ?_, ?_⟩, fun i => ?_⟩
  · rw [settle_g]
    exact hsensor i
  · rw [settle_g]
    exact h.same.exec_count call
  · simp only [howed, settle_g, execute_g]
    cases hocc : (s.g.sensors i).active with
    | true =>
      obtain ⟨hkept, hexec⟩ := h.same.exec hnolevel hocc
      rw [hexec, hkept]
      exact h.level i
    | false =>
      refine Or.inr ⟨by rw [h.same.exec_same call (hfree i hocc)], fun c' level ho => ?_⟩
      obtain ⟨id, -, hs⟩ := owed_reporting ho
      rw [slotOf_occupied hs] at hocc
      cases hocc

end Proceed

/-! ## Commands run on the shadow -/

theorem run_answered {ts : List Bytes} {φ : Phase} {call : StateCall} {resp : Bytes} {leave : Bool}
    {g : GlobalState} (hstart : Phase.start ts = φ) (hcall : φ.call = some call)
    (hnext : φ.next g = .answered resp leave) :
    (handleTokens ts).run g = ((resp, leave), call.exec g) := by
  rw [← Phase.start_program, hstart, Phase.program_eq_locked hcall]
  change ((φ.next g).program).run (call.exec g) = _
  rw [hnext]
  rfl

theorem run_checked {ts : List Bytes} {id valueStr timestamp : Bytes} {value : Double}
    {type : SensorType} {g : GlobalState} (hstart : Phase.start ts = .findMetric id valueStr timestamp)
    (hcheck : checkMetric valueStr timestamp (stateFindSensor id g).1 = .ok (value, type)) :
    (handleTokens ts).run g = ((((recordMetric id value timestamp type).run g).1, false),
      ((recordMetric id value timestamp type).run g).2) := by
  rw [← Phase.start_program, hstart]
  simp only [Phase.program, run_staying, Program.run_bind, Program.run_call, hcheck]
  rfl

/-- A first section answers, or lets a METRIC pass its checks. -/
theorem next_first {φ : Phase} {call : StateCall} (hcall : φ.call = some call)
    (hfirst : φ.isFirst = true) (g : GlobalState) :
    (∃ resp leave, φ.next g = .answered resp leave) ∨
      ∃ id valueStr timestamp value type, φ = .findMetric id valueStr timestamp ∧
        checkMetric valueStr timestamp (stateFindSensor id g).1 = .ok (value, type) ∧
        φ.next g = .addMetric id value timestamp type := by
  cases φ with
  | register id type => exact Or.inl ⟨_, _, rfl⟩
  | findMetric id valueStr timestamp =>
    cases hcheck : checkMetric valueStr timestamp (stateFindSensor id g).1 with
    | error resp => exact Or.inl ⟨resp, false, by simp only [Phase.next, hcheck]⟩
    | ok passed =>
      obtain ⟨value, type⟩ := passed
      exact Or.inr ⟨id, valueStr, timestamp, value, type, rfl, hcheck,
        by simp only [Phase.next, hcheck]⟩
  | findStatus id => exact Or.inl ⟨_, _, rfl⟩
  | deactivate id => exact Or.inl ⟨_, _, rfl⟩
  | answered resp leave => cases hcall
  | _ => cases hfirst

theorem tracks_first {g : GlobalState} {φ : Phase} {stage : Option (Stage Bytes Bytes)}
    (hfirst : φ.isFirst = true) (h : Tracks g (.busy φ) stage) :
    ∃ line, stage = some (.called line) ∧ FitsField line ∧ Phase.start (tokenize line 8) = φ := by
  cases φ with
  | addMetric id value timestamp type => cases hfirst
  | addAlert id value threshold timestamp type message => cases hfirst
  | setLevel id level => cases hfirst
  | _ => exact h

theorem conn_settle_answered (s : System n) (c : Fin n) (resp : Bytes) (leave : Bool)
    (g : GlobalState) (stage : Option (Stage Bytes Bytes)) (h : stage = none) :
    Tracks g ((s.settle c (.answered resp leave)).conn c) stage := by
  simp only [settle, Function.update_self]
  cases leave <;> exact h

/-! ## One step -/

section Steps
variable {t : State (Fin n) Bytes Bytes Registry} {c : Fin n}

/-- The atomic object takes some steps that show the same, and ends in a state that `s'` follows. -/
def Matches (shown : List (Visible (Fin n) Bytes Bytes)) (s' : System n)
    (t : State (Fin n) Bytes Bytes Registry) : Prop :=
  ∃ labels t', Runs.run (State.step sensorMachine) t labels = some t' ∧
    Runs.trace (State.step sensorMachine) State.visible t labels = shown ∧ s'.Follows t'

theorem follows_receive (h : s.Follows t) {line : Bytes} (hidle : s.conn c = .idle)
    (hline : IsLine line) (hfits : FitsField line) :
    Matches (.call c line :: answerOf c (.start (tokenize line 8)))
      (s.settle c (.start (tokenize line 8))) t := by
  have hstep : s.step (.receive c line) = some (s.settle c (.start (tokenize line 8))) := by
    simp only [step, hidle, if_pos hline]
  have hok := systemOk_step h.ok hstep
  have hstage : t.stage c = none := by
    have htracks := h.stages c
    rw [hidle] at htracks
    exact htracks
  have hcall : t.step sensorMachine (.call c line) = some
      { t with stage := Function.update t.stage c (some (.called line)) } :=
    State.step_call line hstage
  have hfirst := Phase.start_isFirst (tokenize line 8)
  have halone : (s.settle c (.start (tokenize line 8))).Alone := by
    intro c₁ c₂ id h₁ h₂
    have hne : ∀ c', ((s.settle c (.start (tokenize line 8))).conn c').reporting = some id →
        c' ≠ c := by
      rintro c' hc' rfl
      rw [reporting_settle, (reporting_first hfirst).1] at hc'
      cases hc'
    rw [settle_conn_other _ _ _ (hne c₁ h₁)] at h₁
    rw [settle_conn_other _ _ _ (hne c₂ h₂)] at h₂
    exact h.alone c₁ c₂ id h₁ h₂
  obtain ⟨g', hshadow, hrefines⟩ := h.shadow
  have howed : ∀ c', (s.settle c (.start (tokenize line 8))).owed c' = s.owed c' := by
    intro c'
    by_cases hcc : c' = c
    · rw [hcc, owed_settle_none (reporting_first hfirst).2, owed, hidle]
      rfl
    · unfold owed
      rw [settle_conn_other _ _ _ hcc, settle_g]
  have hshadow' : (s.settle c (.start (tokenize line 8))).Shadow g' := by
    refine ⟨?_, fun i => ?_⟩
    · rw [settle_g]
      exact hshadow.same
    · simp only [howed, settle_g]
      exact hshadow.level i
  have hother : ∀ c', c' ≠ c → Tracks (s.settle c (.start (tokenize line 8))).g
      ((s.settle c (.start (tokenize line 8))).conn c') (t.stage c') := by
    intro c' hne
    rw [settle_g, settle_conn_other _ _ _ hne]
    exact h.stages c'
  cases hstart : Phase.start (tokenize line 8) with
  | answered resp leave =>
    -- the reply needs no critical section: call, effect and answer fall together
    have hrun : (handleTokens (tokenize line 8)).run g' = ((resp, leave), g') := by
      rw [← Phase.start_program, hstart]
      rfl
    have hagree := agree_tokens hrefines (fun w hw => tokenize_zero_notMem hw) hfits
    rw [hrun] at hagree
    obtain ⟨hresp, hmachine⟩ := hagree
    have hcalled : (Function.update t.stage c (some (.called line))) c = some (.called line) :=
      Function.update_self _ _ _
    obtain ⟨hlabels, htrace⟩ := State.run_effect_answer sensorMachine
      (s := { t with stage := Function.update t.stage c (some (.called line)) }) hcalled
    rw [hstart] at hok halone hshadow' hother
    refine ⟨[.call c line, .effect c, .answer c], _, (Runs.run_step hcall _).trans hlabels, ?_,
      hok, halone, ⟨g', hshadow', hmachine⟩, fun c' => ?_⟩
    · rw [Runs.trace_step hcall, htrace]
      exact congrArg (fun r => [Visible.call c line, Visible.answer c r]) hresp.symm
    · by_cases hcc : c' = c
      · subst hcc
        exact conn_settle_answered s c' resp leave _ _ (Function.update_self _ _ _)
      · simp only [Function.update_of_ne hcc]
        exact hother c' hcc
  | _ =>
    rw [hstart] at hok halone hshadow' hother hfirst
    refine ⟨[.call c line], _, (Runs.run_step hcall _).trans rfl, ?_, hok, halone,
      ⟨g', hshadow', hrefines⟩, fun c' => ?_⟩
    · rw [Runs.trace_step hcall]
      rfl
    · by_cases hcc : c' = c
      · subst hcc
        simp only [settle, Function.update_self]
        first
          | exact ⟨line, rfl, hfits, hstart⟩
          | cases hfirst
      · simp only [Function.update_of_ne hcc]
        exact hother c' hcc

theorem step_proceed {φ : Phase} {call : StateCall} (hc : s.conn c = .busy φ)
    (hcall : φ.call = some call) :
    s.step (.proceed c) = some ((s.execute c call).settle c (φ.next s.g)) := by
  simp only [step, hc, hcall]

/-- What a section leaves to the other connections. -/
theorem tracks_others (h : s.Follows t) {φ : Phase} {call : StateCall}
    (hundivided : s.Undivided (.proceed c)) (hc : s.conn c = .busy φ) (hcall : φ.call = some call)
    (φ' : Phase) {c' : Fin n} (hne : c' ≠ c) : Tracks ((s.execute c call).settle c φ').g
      (((s.execute c call).settle c φ').conn c') (t.stage c') := by
  rw [settle_g, settle_conn_other _ _ _ hne]
  exact tracks_other h.ok (hundivided φ hc _ (names_of_call hcall) c' hne) (h.stages c')

theorem follows_first (h : s.Follows t) {φ : Phase} {call : StateCall}
    (hundivided : s.Undivided (.proceed c)) (hc : s.conn c = .busy φ) (hcall : φ.call = some call)
    (hfirst : φ.isFirst = true) :
    Matches (answerOf c (φ.next s.g)) ((s.execute c call).settle c (φ.next s.g)) t := by
  have hok := systemOk_step h.ok (step_proceed hc hcall)
  have halone := alone_proceed h.alone hundivided hc hcall
  obtain ⟨g', hshadow, hrefines⟩ := h.shadow
  have hshadow' := shadow_first h.ok hshadow hc hcall hfirst
  have hothers := fun (c' : Fin n) (hne : c' ≠ c) =>
    tracks_others h hundivided hc hcall (φ.next s.g) hne
  have htracks := h.stages c
  rw [hc] at htracks
  obtain ⟨line, hstage, hfits, hstart⟩ := tracks_first hfirst htracks
  rcases next_first hcall hfirst s.g with ⟨resp, leave, hnext⟩ |
    ⟨id, valueStr, timestamp, value, type, rfl, hcheck, hnext⟩
  · -- the command takes effect in this section
    have hread : ∀ id i, φ = .findStatus id → s.g.slotOf id = some i →
        g'.sensors i = s.g.sensors i := by
      rintro id i rfl hs
      rcases hshadow.level i with ⟨c', ho⟩ | ⟨hlevel, -⟩
      · exact absurd ho (not_owed rfl hundivided hc (by rw [hc]; rfl) rfl hs c' _)
      · rw [hshadow.same.sensors i, hlevel]
    have hrun := run_answered hstart hcall ((hshadow.same.next hfirst hread).trans hnext)
    have hagree := agree_tokens hrefines (fun w hw => tokenize_zero_notMem hw) hfits
    rw [hrun] at hagree
    obtain ⟨hresp, hmachine⟩ := hagree
    obtain ⟨hlabels, htrace⟩ := State.run_effect_answer sensorMachine hstage
    rw [hnext] at hok halone hshadow' hothers ⊢
    refine ⟨[.effect c, .answer c], _, hlabels, ?_, hok, halone, ⟨_, hshadow', hmachine⟩,
      fun c' => ?_⟩
    · rw [htrace]
      exact congrArg (fun r => [Visible.answer c r]) hresp.symm
    · by_cases hcc : c' = c
      · subst hcc
        exact conn_settle_answered _ c' resp leave _ _ (Function.update_self _ _ _)
      · simp only [Function.update_of_ne hcc]
        exact hothers c' hcc
  · -- the METRIC goes on, and has no effect yet
    cases hcall
    rw [hnext] at hok halone hshadow' hothers ⊢
    refine ⟨[], t, rfl, rfl, hok, halone, ⟨_, hshadow', hrefines⟩, fun c' => ?_⟩
    by_cases hcc : c' = c
    · subst hcc
      rw [settle_g]
      simp only [settle, Function.update_self]
      exact ⟨line, valueStr, hstage, hfits, hstart, hcheck⟩
    · exact hothers c' hcc

/-- Where a METRIC stores its value, the shadow takes the level that is now owed. -/
theorem shadow_addMetric (hok : SystemOk s) {g' : GlobalState} (h : s.Shadow g')
    {id timestamp : Bytes} {value : Double} {type : SensorType} {i : Fin maxSensors}
    (hc : s.conn c = .busy (.addMetric id value timestamp type)) (hs : s.g.slotOf id = some i) :
    ((s.execute c (.addMetric id value timestamp (sensorTypeToStr type))).settle c
      (Phase.evaluate id value timestamp type)).Shadow
        ((recordMetric id value timestamp type).run g').2 := by
  have hs' : g'.slotOf id = some i := (h.same.slotOf id).trans hs
  obtain ⟨-, hsensors, hcount⟩ := recordMetric_run hs' value timestamp type
  have hexec : (StateCall.exec (.addMetric id value timestamp (sensorTypeToStr type)) s.g).sensors =
      Function.update s.g.sensors i
        { s.g.sensors i with lastValue := value, lastTimestamp := safeStrncpy timestamp } := by
    simp only [StateCall.exec]
    rw [stateAddMetric_found hs]
    rfl
  have howed : ∀ c', c' ≠ c → ((s.execute c (.addMetric id value timestamp
      (sensorTypeToStr type))).settle c (Phase.evaluate id value timestamp type)).owed c' =
        s.owed c' := fun c' hne => owed_other hok hne _ _
  have hself : ((s.execute c (.addMetric id value timestamp (sensorTypeToStr type))).settle c
      (Phase.evaluate id value timestamp type)).owed c = some (i, levelOf type value) :=
    owed_settle_self hok (levelWrite_evaluate id value timestamp type) hs
  have hbefore : s.owed c = none := by
    rw [owed, hc]
    rfl
  refine ⟨⟨fun j => ?_, ?_⟩, fun j => ?_⟩
  · rw [settle_g, execute_g, hexec, hsensors]
    by_cases hj : j = i
    · subst hj
      rw [Function.update_self, Function.update_self, h.same.sensors j]
    · rw [Function.update_of_ne hj, Function.update_of_ne hj]
      exact h.same.sensors j
  · rw [settle_g, execute_g, hcount, h.same.count]
    simp only [StateCall.exec]
    rw [stateAddMetric_found hs]
    rfl
  · rw [settle_g, execute_g, hexec, hsensors]
    by_cases hj : j = i
    · subst hj
      rw [Function.update_self]
      exact Or.inl ⟨c, hself⟩
    · rw [Function.update_of_ne hj, Function.update_of_ne hj]
      rcases h.level j with ⟨c', ho⟩ | ⟨hlevel, hnone⟩
      · have hne : c' ≠ c := by
          rintro rfl
          rw [hbefore] at ho
          cases ho
        exact Or.inl ⟨c', (howed c' hne).trans ho⟩
      · refine Or.inr ⟨hlevel, fun c' level ho => ?_⟩
        by_cases hcc : c' = c
        · rw [hcc, hself] at ho
          exact hj (Prod.mk.inj (Option.some.inj ho)).1.symm
        · rw [howed c' hcc] at ho
          exact hnone c' level ho

theorem follows_addMetric (h : s.Follows t) {id timestamp : Bytes} {value : Double}
    {type : SensorType} (hundivided : s.Undivided (.proceed c))
    (hc : s.conn c = .busy (.addMetric id value timestamp type)) :
    Matches (answerOf c ((Phase.addMetric id value timestamp type).next s.g))
      ((s.execute c (.addMetric id value timestamp (sensorTypeToStr type))).settle c
        ((Phase.addMetric id value timestamp type).next s.g)) t := by
  have hok := systemOk_step h.ok (step_proceed hc rfl)
  have halone := alone_proceed h.alone hundivided hc rfl
  obtain ⟨g', hshadow, hrefines⟩ := h.shadow
  have hothers := fun (c' : Fin n) (hne : c' ≠ c) =>
    tracks_others h hundivided hc rfl (Phase.evaluate id value timestamp type) hne
  have htracks := h.stages c
  rw [hc] at htracks
  obtain ⟨line, valueStr, hstage, hfits, hstart, hcheck⟩ := htracks
  have htype := h.ok.phases c _ hc
  rw [next_addMetric htype] at hok halone ⊢
  obtain ⟨i, hs, -⟩ := htype
  have hs' : g'.slotOf id = some i := (hshadow.same.slotOf id).trans hs
  have hreply := (recordMetric_run hs' value timestamp type).1
  have hrun := run_checked hstart ((hshadow.same.checkMetric id valueStr timestamp).trans hcheck)
  have hagree := agree_tokens hrefines (fun w hw => tokenize_zero_notMem hw) hfits
  rw [hrun] at hagree
  obtain ⟨hresp, hmachine⟩ := hagree
  have heffect : t.step sensorMachine (.effect c) = some ⟨(sensorMachine line t.object).2,
      Function.update t.stage c (some (.done (sensorMachine line t.object).1))⟩ :=
    State.step_effect hstage
  have hquiet : answerOf c (Phase.evaluate id value timestamp type) = [] := by
    unfold Phase.evaluate
    split <;> rfl
  refine ⟨[.effect c], _, (Runs.run_step heffect _).trans rfl, ?_, hok, halone,
    ⟨_, shadow_addMetric h.ok hshadow hc hs, hmachine⟩, fun c' => ?_⟩
  · rw [Runs.trace_step heffect, hquiet]
    rfl
  · by_cases hcc : c' = c
    · subst hcc
      have hdone : (sensorMachine line t.object).1 = metricOk := hresp.symm.trans hreply
      simp only [Function.update_self, hdone]
      unfold Phase.evaluate
      split
      · simp only [settle, Function.update_self]
        exact rfl
      · simp only [settle, Function.update_self]
        exact rfl
    · simp only [Function.update_of_ne hcc]
      exact hothers c' hcc

theorem follows_addAlert (h : s.Follows t) {id timestamp message : Bytes} {value threshold : Double}
    {type : SensorType} (hundivided : s.Undivided (.proceed c))
    (hc : s.conn c = .busy (.addAlert id value threshold timestamp type message)) :
    Matches [] ((s.execute c (.addAlert id value threshold timestamp (sensorTypeToStr type)
      message)).settle c (.setLevel id .alert)) t := by
  have hok := systemOk_step h.ok (step_proceed hc rfl)
  have halone := alone_proceed h.alone hundivided hc rfl
  obtain ⟨g', hshadow, hrefines⟩ := h.shadow
  have htracks := h.stages c
  rw [hc] at htracks
  have howed : ∀ c', ((s.execute c (.addAlert id value threshold timestamp (sensorTypeToStr type)
      message)).settle c (.setLevel id .alert)).owed c' = s.owed c' := by
    intro c'
    by_cases hcc : c' = c
    · subst hcc
      unfold owed
      rw [levelWrite_settle, hc]
      rfl
    · exact owed_other h.ok hcc _ _
  refine ⟨[], t, rfl, rfl, hok, halone, ⟨g', ⟨⟨fun i => ?_, ?_⟩, fun i => ?_⟩, hrefines⟩,
    fun c' => ?_⟩
  · exact hshadow.same.sensors i
  · exact hshadow.same.count
  · simp only [howed]
    exact hshadow.level i
  · by_cases hcc : c' = c
    · subst hcc
      simp only [settle, Function.update_self]
      exact htracks
    · exact tracks_others h hundivided hc rfl _ hcc

theorem follows_setLevel (h : s.Follows t) {id : Bytes} {level : AlertLevel}
    (hundivided : s.Undivided (.proceed c)) (hc : s.conn c = .busy (.setLevel id level)) :
    Matches [.answer c metricOk]
      ((s.execute c (.setAlertLevel id level)).settle c (.answered metricOk false)) t := by
  have hok := systemOk_step h.ok (step_proceed hc rfl)
  have halone := alone_proceed h.alone hundivided hc rfl
  obtain ⟨g', hshadow, hrefines⟩ := h.shadow
  have htracks := h.stages c
  rw [hc] at htracks
  have hstage : t.stage c = some (.done metricOk) := htracks
  obtain ⟨i, hs⟩ := h.ok.phases c _ hc
  have hown : s.owed c = some (i, level) := owed_eq_some.mpr ⟨id, by rw [hc]; rfl, hs⟩
  have hexec : (StateCall.exec (.setAlertLevel id level) s.g) =
      s.g.setSensor i { s.g.sensors i with alertLevel := level } := by
    simp only [StateCall.exec, stateSetAlertLevel]
    rw [updateSensor_found hs]
  -- nobody else owes this slot, so the shadow has the level that is written now
  have honly : ∀ c' level', s.owed c' = some (i, level') → c' = c := by
    intro c' level' ho
    obtain ⟨id', hreporting, hs''⟩ := owed_reporting ho
    obtain rfl : id' = id := (slotOf_id hs'').symm.trans (slotOf_id hs)
    exact h.alone c' c id' hreporting (by rw [hc]; rfl)
  have hlevel : (g'.sensors i).alertLevel = level := by
    rcases hshadow.level i with ⟨c', ho⟩ | ⟨-, hnone⟩
    · obtain rfl := honly c' _ ho
      rw [hown] at ho
      exact (Prod.mk.inj (Option.some.inj ho)).2.symm
    · exact absurd hown (hnone c level)
  have hafter : ∀ c', c' ≠ c → ((s.execute c (.setAlertLevel id level)).settle c
      (.answered metricOk false)).owed c' = s.owed c' := fun c' hne => owed_other h.ok hne _ _
  have hquiet : ((s.execute c (.setAlertLevel id level)).settle c
      (.answered metricOk false)).owed c = none := owed_settle_none rfl
  have hanswer : t.step sensorMachine (.answer c) =
      some { t with stage := Function.update t.stage c none } := State.step_answer hstage
  refine ⟨[.answer c], _, (Runs.run_step hanswer _).trans rfl, ?_, hok, halone,
    ⟨g', ⟨⟨fun j => ?_, ?_⟩, fun j => ?_⟩, hrefines⟩, fun c' => ?_⟩
  · rw [Runs.trace_step hanswer]
    simp only [State.visible, hstage]
    rfl
  · rw [settle_g, execute_g, hexec, setSensor_sensors]
    by_cases hj : j = i
    · subst hj
      rw [Function.update_self]
      exact hshadow.same.sensors j
    · rw [Function.update_of_ne hj]
      exact hshadow.same.sensors j
  · rw [settle_g, execute_g, hexec]
    exact hshadow.same.count
  · rw [settle_g, execute_g, hexec, setSensor_sensors]
    by_cases hj : j = i
    · subst hj
      rw [Function.update_self]
      refine Or.inr ⟨hlevel, fun c' level' ho => ?_⟩
      by_cases hcc : c' = c
      · rw [hcc, hquiet] at ho
        cases ho
      · rw [hafter c' hcc] at ho
        exact hcc (honly c' level' ho)
    · rw [Function.update_of_ne hj]
      rcases hshadow.level j with ⟨c', ho⟩ | ⟨hl, hnone⟩
      · have hcc : c' ≠ c := by
          rintro rfl
          rw [hown] at ho
          exact hj (Prod.mk.inj (Option.some.inj ho)).1.symm
        exact Or.inl ⟨c', (hafter c' hcc).trans ho⟩
      · refine Or.inr ⟨hl, fun c' level' ho => ?_⟩
        by_cases hcc : c' = c
        · rw [hcc, hquiet] at ho
          cases ho
        · rw [hafter c' hcc] at ho
          exact hnone c' level' ho
  · by_cases hcc : c' = c
    · subst hcc
      exact conn_settle_answered _ c' metricOk false _ _ (Function.update_self _ _ _)
    · simp only [Function.update_of_ne hcc]
      exact tracks_others h hundivided hc rfl _ hcc

/-- A connection that is not inside a command comes or goes. -/
theorem follows_moved (h : s.Follows t) {a : Action n} {conn conn' : ConnState}
    (hc : s.conn c = conn) (hstep : s.step a = some { s with
      conn := Function.update s.conn c conn' })
    (hconn : conn = .fresh ∨ conn = .idle) (hconn' : conn' = .idle ∨ conn' = .closed) :
    Matches [] { s with conn := Function.update s.conn c conn' } t := by
  have hbefore : conn.reporting = none ∧ conn.levelWrite = none := by
    rcases hconn with rfl | rfl <;> exact ⟨rfl, rfl⟩
  have hafter : conn'.reporting = none ∧ conn'.levelWrite = none := by
    rcases hconn' with rfl | rfl <;> exact ⟨rfl, rfl⟩
  have hreporting : ∀ c', ConnState.reporting (Function.update s.conn c conn' c') =
      (s.conn c').reporting := by
    intro c'
    by_cases hcc : c' = c
    · rw [hcc, Function.update_self, hc, hafter.1, hbefore.1]
    · rw [Function.update_of_ne hcc]
  have howed : ∀ c', owed { s with conn := Function.update s.conn c conn' } c' = s.owed c' := by
    intro c'
    by_cases hcc : c' = c
    · simp only [owed, hcc, Function.update_self, hc, hafter.2, hbefore.2]
    · simp only [owed, Function.update_of_ne hcc]
  obtain ⟨g', hshadow, hrefines⟩ := h.shadow
  refine ⟨[], t, rfl, rfl, systemOk_step h.ok hstep, ?_,
    ⟨g', ⟨hshadow.same, fun i => ?_⟩, hrefines⟩, fun c' => ?_⟩
  · intro c₁ c₂ id h₁ h₂
    rw [hreporting] at h₁ h₂
    exact h.alone c₁ c₂ id h₁ h₂
  · simp only [howed]
    exact hshadow.level i
  · have htracks := h.stages c'
    by_cases hcc : c' = c
    · rw [hcc] at htracks
      simp only [hcc, Function.update_self]
      have hstage : t.stage c = none := by
        rw [hc] at htracks
        rcases hconn with rfl | rfl <;> exact htracks
      rcases hconn' with rfl | rfl <;> exact hstage
    · simp only [Function.update_of_ne hcc]
      exact htracks

/-- Each undivided step shows what the atomic object can show. -/
theorem follows_step (h : s.Follows t) {a : Action n} (hundivided : s.Undivided a)
    (hstep : s.step a = some s') : Matches (s.visible a) s' t := by
  cases step_cases hstep with
  | connect c hc => exact follows_moved h hc hstep (Or.inl rfl) (Or.inl rfl)
  | receive c line hc hline => exact follows_receive h hc hline hundivided
  | disconnect c hc => exact follows_moved h hc hstep (Or.inr rfl) (Or.inr rfl)
  | proceed c φ call hc hcall =>
    simp only [visible, hc]
    cases hfirst : φ.isFirst with
    | true => exact follows_first h hundivided hc hcall hfirst
    | false =>
      cases φ with
      | addMetric id value timestamp type =>
        cases hcall
        exact follows_addMetric h hundivided hc
      | addAlert id value threshold timestamp type message =>
        cases hcall
        exact follows_addAlert h hundivided hc
      | setLevel id level =>
        cases hcall
        exact follows_setLevel h hundivided hc
      | answered resp leave => cases hcall
      | _ => cases hfirst

end Steps

theorem follows_init (n : Nat) :
    (init n).Follows (State.init BoundedMap.empty : State (Fin n) Bytes Bytes Registry) where
  ok := systemOk_init
  alone c c' id h := by cases h
  shadow := ⟨stateInit, ⟨SameButLevels.refl _, fun _ => Or.inr ⟨rfl, fun c level h => by cases h⟩⟩,
    refines_init⟩
  stages c := rfl

/-- Where no METRIC is past its checks, the tables hold the records of the object. -/
theorem follows_settled {t : State (Fin n) Bytes Bytes Registry} (h : s.Follows t)
    (hnone : ∀ c, (s.conn c).reporting = none) : Refines s.g t.object := by
  obtain ⟨g', hshadow, hrefines⟩ := h.shadow
  have hsensors : g'.sensors = s.g.sensors := by
    funext i
    rcases hshadow.level i with ⟨c, ho⟩ | ⟨hlevel, -⟩
    · obtain ⟨id, hreporting, -⟩ := owed_reporting ho
      rw [hnone c] at hreporting
      cases hreporting
    · rw [hshadow.same.sensors i, hlevel]
  rw [Refines, ← hsensors, ← hshadow.same.count]
  exact hrefines

/-! ## The replies of the interleaved server -/

/-- The command received names a sensor of its connection, and the name fits its field. -/
def OwnLine (owner : Bytes → Fin n) : Action n → Prop
  | .receive c line =>
    ∀ k ∈ Command.parse (tokenize line 8), k.id.length < maxIdLen ∧ owner k.id = c
  | _ => True

instance (owner : Bytes → Fin n) : DecidablePred (OwnLine owner)
  | .receive c line => inferInstanceAs (Decidable
      (∀ k ∈ Command.parse (tokenize line 8), k.id.length < maxIdLen ∧ owner k.id = c))
  | .connect _ | .proceed _ | .disconnect _ => isTrue trivial

/-- Each connection is busy with its own sensors. -/
def OwnSensors (owner : Bytes → Fin n) (s : System n) : Prop :=
  ∀ c φ id, s.conn c = .busy φ → φ.names = some id → owner id = c

theorem names_start {ts : List Bytes} {id : Bytes} (h : (Phase.start ts).names = some id) :
    ∃ k, Command.parse ts = some k ∧ k.id = id := by
  cases ts with
  | nil => cases h
  | cons command args =>
    simp only [Phase.start, Command.parse] at h ⊢
    split at h
    · rename_i hname
      unfold Phase.startRegister at h
      split at h
      · rename_i heq
        cases heq
        split at h <;> cases h
        exact ⟨_, if_pos hname, rfl⟩
      · cases h
    rename_i hregister
    rw [if_neg hregister]
    split at h
    · rename_i hname
      unfold Phase.startMetric at h
      split at h
      · rename_i heq
        cases heq
        cases h
        exact ⟨_, if_pos hname, rfl⟩
      · cases h
    rename_i hmetric
    rw [if_neg hmetric]
    split at h
    · rename_i hname
      unfold Phase.startStatus at h
      split at h
      · rename_i heq
        cases heq
        cases h
        exact ⟨_, if_pos hname, rfl⟩
      · cases h
    rename_i hstatus
    split at h
    · unfold Phase.startPing at h
      split at h <;> cases h
    rename_i hping
    split at h
    · rename_i hname
      unfold Phase.startQuit at h
      split at h
      · rename_i heq
        cases heq
        cases h
        refine ⟨.quit id, ?_, rfl⟩
        simp only [if_neg hstatus, if_neg hping, if_pos hname]
      · cases h
    · cases h

/-- A command goes on about the sensor it began with. -/
theorem names_next {φ : Phase} {call : StateCall} (hcall : φ.call = some call) {g : GlobalState}
    {id : Bytes} (h : (φ.next g).names = some id) : φ.names = some id := by
  cases φ with
  | findMetric id' valueStr timestamp =>
    simp only [Phase.next] at h
    split at h
    · cases h
    · exact h
  | addMetric id' value timestamp type =>
    simp only [Phase.next] at h
    split at h
    · unfold Phase.evaluate at h
      split at h <;> exact h
    · cases h
  | addAlert id' value threshold timestamp type message => exact h
  | answered resp leave => cases hcall
  | _ => cases h

theorem ownSensors_step {owner : Bytes → Fin n} {a : Action n} (h : s.OwnSensors owner)
    (hline : OwnLine owner a) (hstep : s.step a = some s') : s'.OwnSensors owner := by
  intro c φ id hc hnames
  cases step_cases hstep with
  | connect c' hc' =>
    by_cases hcc : c = c'
    · simp only [hcc, Function.update_self] at hc
      cases hc
    · simp only [Function.update_of_ne hcc] at hc
      exact h c φ id hc hnames
  | receive c' line hc' hisline =>
    by_cases hcc : c = c'
    · subst hcc
      obtain rfl := settle_conn_busy _ _ _ hc
      obtain ⟨k, hk, rfl⟩ := names_start hnames
      exact (hline k hk).2
    · rw [settle_conn_other _ _ _ hcc] at hc
      exact h c φ id hc hnames
  | proceed c' ψ call hc' hcall =>
    by_cases hcc : c = c'
    · subst hcc
      obtain rfl := settle_conn_busy _ _ _ hc
      exact h c ψ id hc' (names_next hcall hnames)
    · rw [settle_conn_other _ _ _ hcc] at hc
      exact h c φ id hc hnames
  | disconnect c' hc' =>
    by_cases hcc : c = c'
    · simp only [hcc, Function.update_self] at hc
      cases hc
    · simp only [Function.update_of_ne hcc] at hc
      exact h c φ id hc hnames

/-- Connections that own their sensors keep out of each other's METRICs. -/
theorem undivided_of_owners {owner : Bytes → Fin n} {actions : List (Action n)}
    (hown : s.OwnSensors owner) (hlines : ∀ a ∈ actions, OwnLine owner a) :
    Runs.Guarded step Undivided s actions := by
  induction actions generalizing s with
  | nil => trivial
  | cons a actions ih =>
    have hline := hlines a List.mem_cons_self
    refine ⟨?_, fun s' hstep => ih (ownSensors_step hown hline hstep)
      fun b hb => hlines b (List.mem_cons_of_mem a hb)⟩
    cases a with
    | connect c => trivial
    | receive c line => exact fun k hk => (hline k hk).1
    | proceed c =>
      intro φ hc id hnames c' hne hreporting
      cases hc' : s.conn c' with
      | busy ψ =>
        rw [hc'] at hreporting
        have hψ : ψ.names = some id := by
          cases ψ with
          | addMetric id' value timestamp type => exact hreporting
          | addAlert id' value threshold timestamp type message => exact hreporting
          | setLevel id' level => exact hreporting
          | _ => cases hreporting
        exact hne ((hown c' ψ id hc' hψ).symm.trans (hown c φ id hc hnames))
      | _ =>
        rw [hc'] at hreporting
        cases hreporting
    | disconnect c => trivial

/-- Two connections, each with a sensor of its own, whose METRICs overlap. -/
def ownReports (a b : Fin n) : List (Action n) :=
  [.connect a, .connect b, .receive a (ascii "REGISTER s1 TEMP"),
    .receive b (ascii "REGISTER s2 TEMP"), .proceed b, .proceed a,
    .receive a (ascii "METRIC s1 80 2026-03-30T14:05:00Z"),
    .receive b (ascii "METRIC s2 20 2026-03-30T14:05:01Z"), .proceed a, .proceed b, .proceed b,
    .proceed a, .proceed a, .proceed b, .proceed a]

end System

end IotMonitoring
