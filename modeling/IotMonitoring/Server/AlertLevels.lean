import IotMonitoring.Server.Reachable

/-!
# The alert level and the last value

A METRIC stores its value in one critical section and the level it judged in a
later one. Between the two it owes its sensor a level. A slot is settled when
its level is the one its last value wants, or somebody still owes it that
level. The step that unsettles a slot is a late write: a METRIC sets the level
of its own value after another value was stored, and nobody owes the right one.
-/

namespace IotMonitoring

open ByteStrings Binary64
set_option autoImplicit false

/-- The level the last value of a sensor asks for. -/
def Sensor.wantedLevel (x : Sensor) : AlertLevel := levelOf x.type x.lastValue

/-- The level a METRIC past its first append will write, and the sensor it names. -/
def ConnState.levelWrite : ConnState → Option (Bytes × AlertLevel)
  | .busy (.addAlert id _ _ _ _ _) => some (id, .alert)
  | .busy (.setLevel id level) => some (id, level)
  | _ => none

theorem levelWrite_evaluate (id : Bytes) (value : Double) (timestamp : Bytes) (type : SensorType) :
    (ConnState.busy (Phase.evaluate id value timestamp type)).levelWrite =
      some (id, levelOf type value) := by
  unfold Phase.evaluate
  cases h : anomaly type value with
  | none =>
    have hnot := anomaly_eq_none_iff.mp h
    simp only [ConnState.levelWrite, levelOf, if_neg hnot]
  | some crossed =>
    have han : Anomalous type value := anomaly_isSome_iff type value |>.mp (by rw [h]; rfl)
    simp only [ConnState.levelWrite, levelOf, if_pos han]

def Event.metricSlot? : Event → Option (Fin maxSensors)
  | .metricAdded i _ => some i
  | _ => none

namespace System
variable {n : Nat}

/-- The slot a connection owes a level, with the level. -/
def owed (s : System n) (c : Fin n) : Option (Fin maxSensors × AlertLevel) :=
  (s.conn c).levelWrite.bind fun w => (s.g.slotOf w.1).map fun i => (i, w.2)

def Settled (s : System n) (i : Fin maxSensors) : Prop :=
  (s.g.sensors i).alertLevel = (s.g.sensors i).wantedLevel ∨
    ∃ c, s.owed c = some (i, (s.g.sensors i).wantedLevel)

/-- The level write that an action is about to make. -/
def levelWriter (s : System n) : Action n → Option (Fin n × Fin maxSensors × AlertLevel)
  | .proceed c =>
    match s.conn c with
    | .busy (.setLevel id level) => (s.g.slotOf id).map fun i => (c, i, level)
    | _ => none
  | _ => none

/-- A write of a level that disagrees with the sensor's last value, when no other
METRIC of that sensor still owes it the right one. -/
def LateWrite (s : System n) (a : Action n) (i : Fin maxSensors) : Prop :=
  match s.levelWriter a with
  | some (c, j, level) => j = i ∧ level ≠ (s.g.sensors i).wantedLevel ∧
      ∀ c', c' ≠ c → s.owed c' ≠ some (i, (s.g.sensors i).wantedLevel)
  | none => False

instance (s : System n) (a : Action n) (i : Fin maxSensors) : Decidable (s.LateWrite a i) := by
  unfold LateWrite
  split <;> infer_instance

/-- The slot whose last value an action is about to change. -/
def metricWriter (s : System n) : Action n → Option (Fin maxSensors)
  | .proceed c =>
    match s.conn c with
    | .busy (.addMetric id _ _ _) => s.g.slotOf id
    | _ => none
  | _ => none

/-- The slots of the sensors that have had an accepted METRIC. -/
def reported (s : System n) : List (Fin maxSensors) := (eventsOf s.log).filterMap Event.metricSlot?

/-- With no METRIC in progress the level of every sensor that has reported is
ALERT exactly when its last value is anomalous. -/
def LevelsAgree (s : System n) : Prop :=
  s.Quiet → ∀ i ∈ s.reported, ((s.g.sensors i).alertLevel = .alert ↔
    Anomalous (s.g.sensors i).type (s.g.sensors i).lastValue)

instance (s : System n) : Decidable s.LevelsAgree :=
  inferInstanceAs (Decidable (s.Quiet → ∀ i ∈ s.reported, _))

/-! ## Who owes what after a step -/

theorem owed_eq_some {s : System n} {c : Fin n} {i : Fin maxSensors} {level : AlertLevel} :
    s.owed c = some (i, level) ↔
      ∃ id, (s.conn c).levelWrite = some (id, level) ∧ s.g.slotOf id = some i := by
  simp only [owed, Option.bind_eq_some_iff, Option.map_eq_some_iff, Prod.mk.injEq]
  constructor
  · rintro ⟨⟨id, l⟩, hw, j, hs, rfl, rfl⟩
    exact ⟨id, hw, hs⟩
  · rintro ⟨id, hw, hs⟩
    exact ⟨(id, level), hw, i, hs, rfl, rfl⟩

theorem wantedLevel_eq_alert_iff {x : Sensor} :
    x.alertLevel = x.wantedLevel ↔ (x.alertLevel = .alert ↔ Anomalous x.type x.lastValue) := by
  rw [← levelOf_eq_alert_iff, Sensor.wantedLevel]
  cases x.alertLevel <;> cases levelOf x.type x.lastValue <;> decide

/-- With no METRIC in progress nobody owes a level. -/
theorem settled_of_quiet {s : System n} (hq : s.Quiet) (i : Fin maxSensors) :
    s.Settled i ↔ (s.g.sensors i).alertLevel = (s.g.sensors i).wantedLevel := by
  constructor
  · rintro (h | ⟨c, hc⟩)
    · exact h
    · obtain ⟨id, hw, -⟩ := owed_eq_some.mp hc
      have hidle := hq c
      unfold ConnState.levelWrite at hw
      split at hw
      · rename_i hconn
        rw [hconn] at hidle
        cases hidle
      · rename_i hconn
        rw [hconn] at hidle
        cases hidle
      · cases hw
  · exact Or.inl

theorem levelWrite_start (ts : List Bytes) : (ConnState.busy (Phase.start ts)).levelWrite = none := by
  have hfirst := Phase.start_isFirst ts
  cases h : Phase.start ts with
  | addAlert id value threshold timestamp type message =>
    rw [h] at hfirst
    cases hfirst
  | setLevel id level =>
    rw [h] at hfirst
    cases hfirst
  | _ => rfl

theorem levelWrite_settle (s : System n) (c : Fin n) (φ : Phase) :
    ((s.settle c φ).conn c).levelWrite = (ConnState.busy φ).levelWrite := by
  cases φ with
  | answered resp leave =>
    simp only [settle, Function.update_self]
    cases leave <;> rfl
  | _ => simp only [settle, Function.update_self]

/-- What a connection owes is not moved by the critical sections of the others. -/
theorem owed_other {s : System n} (h : SystemOk s) {c c' : Fin n} (hne : c' ≠ c) (φ : Phase)
    (call : StateCall) : ((s.execute c call).settle c φ).owed c' = s.owed c' := by
  unfold owed
  rw [settle_conn_other _ _ _ hne, settle_g, execute_conn, execute_g]
  cases hw : (s.conn c').levelWrite with
  | none => rfl
  | some w =>
    have hfound : ∃ i, s.g.slotOf w.1 = some i := by
      unfold ConnState.levelWrite at hw
      split at hw
      · cases hw
        obtain ⟨⟨i, hs, -⟩, -⟩ := h.phases c' _ ‹_›
        exact ⟨i, hs⟩
      · cases hw
        exact h.phases c' _ ‹_›
      · cases hw
    obtain ⟨i, hs⟩ := hfound
    simp only [Option.bind_some, hs, slotOf_extends h.table (extends_exec call s.g) hs]

theorem settled_congr {s s' : System n} {i : Fin maxSensors}
    (hlevel : (s'.g.sensors i).alertLevel = (s.g.sensors i).alertLevel)
    (hwanted : (s'.g.sensors i).wantedLevel = (s.g.sensors i).wantedLevel)
    (howed : ∀ c level, s'.owed c = some (i, level) ↔ s.owed c = some (i, level)) :
    s'.Settled i ↔ s.Settled i := by
  unfold Settled
  rw [hlevel, hwanted]
  simp only [howed]

/-- Apart from metrics and level writes no event touches the level or the value judged. -/
theorem written_level {e : Event} {x : Sensor} (hocc : x.active = true)
    (hm : e.metricSlot? = none) (hl : ∀ i level, e ≠ .levelSet i level) :
    (e.written x).alertLevel = x.alertLevel ∧ (e.written x).wantedLevel = x.wantedLevel := by
  cases e with
  | registered id type i =>
    rw [written_again hocc]
    exact ⟨rfl, rfl⟩
  | metricAdded i m => cases hm
  | alertAdded a => exact ⟨rfl, rfl⟩
  | deactivated id i => exact ⟨rfl, rfl⟩
  | levelSet i level => exact absurd rfl (hl i level)

theorem exec_level {call : StateCall} {g : GlobalState} {i : Fin maxSensors}
    (hocc : (g.sensors i).active = true)
    (h : ∀ e, call.event g = some e → e.slot? = some i →
      e.metricSlot? = none ∧ ∀ j level, e ≠ .levelSet j level) :
    ((call.exec g).sensors i).alertLevel = (g.sensors i).alertLevel ∧
      ((call.exec g).sensors i).wantedLevel = (g.sensors i).wantedLevel := by
  by_cases htouch : ∃ e, call.event g = some e ∧ e.slot? = some i
  · obtain ⟨e, he, hi⟩ := htouch
    rw [exec_sensor_written he hi]
    exact written_level hocc (h e he hi).1 (h e he hi).2
  · rw [exec_sensor_frame fun e he hi => htouch ⟨e, he, hi⟩]
    exact ⟨rfl, rfl⟩

/-! ## What one step does to a slot -/

theorem owed_settle_self {s : System n} {c : Fin n} {φ : Phase} {call : StateCall}
    {id : Bytes} {level : AlertLevel} {i : Fin maxSensors} (h : SystemOk s)
    (hw : (ConnState.busy φ).levelWrite = some (id, level)) (hs : s.g.slotOf id = some i) :
    ((s.execute c call).settle c φ).owed c = some (i, level) := by
  apply owed_eq_some.mpr
  refine ⟨id, by rw [levelWrite_settle, hw], ?_⟩
  rw [settle_g, execute_g]
  exact slotOf_extends h.table (extends_exec call s.g) hs

theorem owed_settle_none {s : System n} {c : Fin n} {φ : Phase}
    (hw : (ConnState.busy φ).levelWrite = none) : (s.settle c φ).owed c = none := by
  rw [owed, levelWrite_settle, hw]
  rfl

theorem metricWriter_eq {s : System n} {a : Action n} {i : Fin maxSensors}
    (hm : s.metricWriter a = some i) : ∃ c id value timestamp type, a = .proceed c ∧
      s.conn c = .busy (.addMetric id value timestamp type) ∧ s.g.slotOf id = some i := by
  unfold metricWriter at hm
  split at hm
  · rename_i c
    split at hm
    · exact ⟨c, _, _, _, _, rfl, ‹_›, hm⟩
    · cases hm
  · cases hm

/-- Right after a value is stored its sensor is settled: the METRIC that stored it owes the level. -/
theorem settled_metric {s s' : System n} {a : Action n} {i : Fin maxSensors} (h : SystemOk s)
    (hm : s.metricWriter a = some i) (hstep : s.step a = some s') : s'.Settled i := by
  obtain ⟨c, id, value, timestamp, type, rfl, hc, hs⟩ := metricWriter_eq hm
  cases step_cases hstep with
  | proceed _ φ call hφ hcall =>
    obtain rfl := ConnState.busy.inj (hφ.symm.trans hc)
    cases hcall
    have htype := h.phases c _ hc
    rw [next_addMetric htype]
    obtain ⟨j, hj, hty⟩ := htype
    obtain rfl := Option.some.inj (hj.symm.trans hs)
    have hwritten := exec_sensor_written (c := .addMetric id value timestamp (sensorTypeToStr type))
      (g := s.g) (i := j) (by rw [StateCall.event, hs]; rfl) rfl
    have hwanted : ((StateCall.exec (.addMetric id value timestamp (sensorTypeToStr type))
        s.g).sensors j).wantedLevel = levelOf type value := by
      rw [hwritten, ← hty]
      rfl
    refine Or.inr ⟨c, ?_⟩
    rw [settle_g, execute_g, hwanted]
    exact owed_settle_self h (levelWrite_evaluate id value timestamp type) hs

/-- A critical section that is neither a metric nor a level write on this slot. -/
theorem settled_proceed {s : System n} {c : Fin n} {φ : Phase} {call : StateCall}
    {i : Fin maxSensors} (h : SystemOk s) (hocc : (s.g.sensors i).active = true)
    (he : ∀ e, call.event s.g = some e → e.slot? = some i →
      e.metricSlot? = none ∧ ∀ j level, e ≠ .levelSet j level)
    (howed : ∀ level, ((s.execute c call).settle c (φ.next s.g)).owed c = some (i, level) ↔
      s.owed c = some (i, level)) :
    ((s.execute c call).settle c (φ.next s.g)).Settled i ↔ s.Settled i := by
  obtain ⟨hlevel, hwanted⟩ := exec_level hocc he
  apply settled_congr
  · rw [settle_g]
    exact hlevel
  · rw [settle_g]
    exact hwanted
  · intro c' level
    by_cases hcc : c' = c
    · rw [hcc]
      exact howed level
    · rw [owed_other h hcc]

/-- The level write settles its slot when the level is the wanted one or still owed by another. -/
theorem settled_setLevel {s : System n} {c : Fin n} {id : Bytes} {level : AlertLevel}
    {i : Fin maxSensors} (h : SystemOk s) (hc : s.conn c = .busy (.setLevel id level))
    (hs : s.g.slotOf id = some i) :
    ((s.execute c (.setAlertLevel id level)).settle c (.answered metricOk false)).Settled i ↔
      s.Settled i ∧ ¬ s.LateWrite (.proceed c) i := by
  have hlate : s.LateWrite (.proceed c) i ↔ level ≠ (s.g.sensors i).wantedLevel ∧
      ∀ c', c' ≠ c → s.owed c' ≠ some (i, (s.g.sensors i).wantedLevel) := by
    simp only [LateWrite, levelWriter, hc, hs, Option.map_some, true_and]
  have hwritten := exec_sensor_written (c := .setAlertLevel id level) (g := s.g) (i := i)
    (by rw [StateCall.event, hs]; rfl) rfl
  have hown : s.owed c = some (i, level) := owed_eq_some.mpr ⟨id, by rw [hc]; rfl, hs⟩
  rw [hlate]
  unfold Settled
  rw [settle_g, execute_g, hwritten]
  change (level = (s.g.sensors i).wantedLevel ∨ ∃ c', _ = some (i, (s.g.sensors i).wantedLevel)) ↔ _
  constructor
  · rintro (hl | ⟨c', hc'⟩)
    · exact ⟨Or.inr ⟨c, by rw [hown, hl]⟩, fun hbad => hbad.1 hl⟩
    · by_cases hcc : c' = c
      · rw [hcc, owed_settle_none rfl] at hc'
        cases hc'
      · rw [owed_other h hcc] at hc'
        exact ⟨Or.inr ⟨c', hc'⟩, fun hbad => hbad.2 c' hcc hc'⟩
  · rintro ⟨-, hgood⟩
    by_cases hl : level = (s.g.sensors i).wantedLevel
    · exact Or.inl hl
    · have hother : ∃ c', c' ≠ c ∧ s.owed c' = some (i, (s.g.sensors i).wantedLevel) := by
        by_contra hnone
        exact hgood ⟨hl, fun c' hcc ho => hnone ⟨c', hcc, ho⟩⟩
      obtain ⟨c', hcc, ho⟩ := hother
      exact Or.inr ⟨c', by rw [owed_other h hcc, ho]⟩

theorem not_lateWrite {s : System n} {a : Action n} {i : Fin maxSensors}
    (hnone : s.levelWriter a = none) : ¬ s.LateWrite a i := by
  intro hlate
  rw [LateWrite, hnone] at hlate
  exact hlate

/-- A critical section that appends no metric to a slot leaves it settled exactly when it was
settled and the section is no late write. -/
theorem settled_section {s : System n} {c : Fin n} {φ : Phase} {call : StateCall}
    {i : Fin maxSensors} (h : SystemOk s) (hocc : (s.g.sensors i).active = true)
    (hm : s.metricWriter (.proceed c) ≠ some i) (hc : s.conn c = .busy φ)
    (hcall : φ.call = some call) : ((s.execute c call).settle c (φ.next s.g)).Settled i ↔
      s.Settled i ∧ ¬ s.LateWrite (.proceed c) i := by
  have hφ := h.phases c φ hc
  have hquiet : (ConnState.busy φ).levelWrite = none → s.owed c = none := by
    intro hw
    rw [owed, hc, hw]
    rfl
  cases φ with
  | register id type =>
    cases hcall
    rw [and_iff_left (not_lateWrite (by simp only [levelWriter, hc]))]
    refine settled_proceed h hocc ?_ ?_
    · intro e he _
      obtain ⟨j, rfl, -⟩ := event_register he
      exact ⟨rfl, fun _ _ hl => by cases hl⟩
    · intro level
      rw [hquiet rfl, owed_settle_none rfl]
  | findMetric id valueStr timestamp =>
    cases hcall
    rw [and_iff_left (not_lateWrite (by simp only [levelWriter, hc]))]
    refine settled_proceed h hocc (fun e he => by cases he) ?_
    intro level
    have hnone : (ConnState.busy ((Phase.findMetric id valueStr timestamp).next s.g)).levelWrite =
        none := by
      rcases next_findMetric_cases id valueStr timestamp s.g with ⟨resp, hn, -⟩ |
        ⟨j, v, -, -, -, -, hn⟩ <;> rw [hn] <;> rfl
    rw [hquiet rfl, owed_settle_none hnone]
  | addMetric id value timestamp type =>
    cases hcall
    rw [and_iff_left (not_lateWrite (by simp only [levelWriter, hc]))]
    have hφ' : ∃ j, s.g.slotOf id = some j := hφ.imp fun _ hj => hj.1
    obtain ⟨j, hs⟩ := hφ'
    have hj : j ≠ i := by
      rintro rfl
      exact hm (by simp only [metricWriter, hc, hs])
    refine settled_proceed h hocc ?_ ?_
    · intro e he hi
      simp only [StateCall.event, hs, Option.map_some, Option.some.injEq] at he
      subst he
      exact absurd (Option.some.inj hi) hj
    · intro level
      rw [next_addMetric hφ, hquiet rfl, owed_settle_self h (levelWrite_evaluate _ _ _ _) hs]
      simp only [Option.some.injEq, Prod.mk.injEq, hj, false_and, reduceCtorEq]
  | addAlert id value threshold timestamp type message =>
    cases hcall
    rw [and_iff_left (not_lateWrite (by simp only [levelWriter, hc]))]
    obtain ⟨⟨j, hs, -⟩, -⟩ := hφ
    refine settled_proceed h hocc ?_ ?_
    · rintro e he hi
      cases he
      cases hi
    · intro level
      rw [Phase.next, owed_settle_self h rfl hs, owed_eq_some.mpr ⟨id, by rw [hc]; rfl, hs⟩]
  | setLevel id level =>
    cases hcall
    obtain ⟨j, hs⟩ := hφ
    by_cases hj : j = i
    · subst hj
      exact settled_setLevel h hc hs
    · have hnot : ¬ s.LateWrite (.proceed c) i := by
        simp only [LateWrite, levelWriter, hc, hs, Option.map_some, hj, false_and, not_false_eq_true]
      rw [and_iff_left hnot]
      refine settled_proceed h hocc ?_ ?_
      · intro e he hi
        simp only [StateCall.event, hs, Option.map_some, Option.some.injEq] at he
        subst he
        exact absurd (Option.some.inj hi) hj
      · intro l
        rw [owed_settle_none rfl, owed_eq_some.mpr ⟨id, by rw [hc]; rfl, hs⟩]
        simp only [Option.some.injEq, Prod.mk.injEq, hj, false_and, reduceCtorEq]
  | findStatus id =>
    cases hcall
    rw [and_iff_left (not_lateWrite (by simp only [levelWriter, hc]))]
    refine settled_proceed h hocc (fun e he => by cases he) ?_
    intro level
    rw [hquiet rfl, owed_settle_none rfl]
  | deactivate id =>
    cases hcall
    rw [and_iff_left (not_lateWrite (by simp only [levelWriter, hc]))]
    refine settled_proceed h hocc ?_ ?_
    · rintro e he -
      cases he
      exact ⟨rfl, fun _ _ hl => by cases hl⟩
    · intro level
      rw [hquiet rfl, owed_settle_none rfl]
  | answered resp leave => cases hcall

/-- A step that appends no metric to a slot leaves it settled exactly when it was settled and the
step is no late write. -/
theorem settled_step {s s' : System n} {a : Action n} {i : Fin maxSensors} (h : SystemOk s)
    (hocc : (s.g.sensors i).active = true) (hm : s.metricWriter a ≠ some i)
    (hstep : s.step a = some s') : s'.Settled i ↔ s.Settled i ∧ ¬ s.LateWrite a i := by
  cases step_cases hstep with
  | connect c hc =>
    rw [and_iff_left (not_lateWrite rfl)]
    refine settled_congr rfl rfl ?_
    intro c' level
    by_cases hcc : c' = c
    · simp only [owed, hcc, hc, Function.update_self, ConnState.levelWrite]
    · simp only [owed, Function.update_of_ne hcc]
  | receive c line hc hline =>
    rw [and_iff_left (not_lateWrite rfl)]
    apply settled_congr
    · rw [settle_g]
    · rw [settle_g]
    intro c' level
    by_cases hcc : c' = c
    · rw [hcc, owed_settle_none (levelWrite_start _), owed, hc]
      rfl
    · simp only [owed, settle_g, settle_conn_other _ _ _ hcc]
  | proceed c φ call hc hcall => exact settled_section h hocc hm hc hcall
  | disconnect c hc =>
    rw [and_iff_left (not_lateWrite rfl)]
    refine settled_congr rfl rfl ?_
    intro c' level
    by_cases hcc : c' = c
    · simp only [owed, hcc, hc, Function.update_self, ConnState.levelWrite]
    · simp only [owed, Function.update_of_ne hcc]

/-! ## Whole runs -/

theorem reported_settle (s : System n) (c : Fin n) (φ : Phase) :
    (s.settle c φ).reported = s.reported := by
  rw [reported, eventsOf_settle]
  rfl

/-- A slot that has reported is occupied. -/
def ReportedOccupied (s : System n) : Prop := ∀ i ∈ s.reported, (s.g.sensors i).active = true

theorem metricSlot_of_event {s : System n} {c : Fin n} {φ : Phase} {call : StateCall}
    {i : Fin maxSensors} (hc : s.conn c = .busy φ) (hcall : φ.call = some call)
    (he : (call.event s.g).bind Event.metricSlot? = some i) :
    s.metricWriter (.proceed c) = some i ∧ (s.g.sensors i).active = true := by
  obtain ⟨e, he, hi⟩ := Option.bind_eq_some_iff.mp he
  cases e with
  | metricAdded j m =>
    cases hi
    obtain ⟨id, value, timestamp, type, l, rfl, hs, hev, -⟩ :=
      metric_of_event (m := m) hcall (by rw [he]; rfl)
    obtain rfl : i = l := by
      rw [he] at hev
      cases hev
      rfl
    exact ⟨by simp only [metricWriter, hc, hs], slotOf_occupied hs⟩
  | _ => cases hi

theorem mem_reported_execute {s : System n} {c : Fin n} {call : StateCall} {i : Fin maxSensors} :
    i ∈ (s.execute c call).reported ↔
      (call.event s.g).bind Event.metricSlot? = some i ∨ i ∈ s.reported := by
  rw [reported, execute_log, eventsOf_did, List.filterMap_append, List.mem_append]
  apply or_congr_left
  cases call.event s.g <;> simp

theorem reportedOccupied_step {s s' : System n} {a : Action n} (hr : ReportedOccupied s)
    (hstep : s.step a = some s') : ReportedOccupied s' := by
  have hext := extends_step hstep
  cases step_cases hstep with
  | connect c hc => exact hr
  | receive c line hc hline =>
    intro i hi
    rw [reported_settle] at hi
    exact (hext i (hr i hi)).1
  | proceed c φ call hc hcall =>
    intro i hi
    rw [reported_settle, mem_reported_execute] at hi
    rcases hi with hi | hi
    · exact (hext i (metricSlot_of_event hc hcall hi).2).1
    · exact (hext i (hr i hi)).1
  | disconnect c hc => exact hr

/-- The invariant of the runs without late writes. -/
structure LevelsOk (s : System n) : Prop where
  ok : SystemOk s
  occupied : ReportedOccupied s
  settled : ∀ i ∈ s.reported, s.Settled i

theorem reported_step {s s' : System n} {a : Action n} {i : Fin maxSensors}
    (hm : s.metricWriter a ≠ some i) (hstep : s.step a = some s') (hi : i ∈ s'.reported) :
    i ∈ s.reported := by
  cases step_cases hstep with
  | connect c hc => exact hi
  | receive c line hc hline => rwa [reported_settle] at hi
  | proceed c φ call hc hcall =>
    rw [reported_settle, mem_reported_execute] at hi
    rcases hi with hi | hi
    · exact absurd (metricSlot_of_event hc hcall hi).1 hm
    · exact hi
  | disconnect c hc => exact hi

theorem levelsOk_init : LevelsOk (init n) where
  ok := systemOk_init
  occupied := by simp [ReportedOccupied, reported, init, eventsOf]
  settled := by simp [reported, init, eventsOf]

theorem levelsOk_step {s s' : System n} {a : Action n} (h : LevelsOk s)
    (hgood : ∀ i, ¬ s.LateWrite a i) (hstep : s.step a = some s') : LevelsOk s' := by
  refine ⟨systemOk_step h.ok hstep, reportedOccupied_step h.occupied hstep, ?_⟩
  intro i hi
  by_cases hm : s.metricWriter a = some i
  · exact settled_metric h.ok hm hstep
  · have hold := reported_step hm hstep hi
    exact (settled_step h.ok (h.occupied i hold) hm hstep).mpr ⟨h.settled i hold, hgood i⟩

theorem LevelsOk.agree {s : System n} (h : LevelsOk s) : s.LevelsAgree := by
  intro hq i hi
  exact wantedLevel_eq_alert_iff.mp ((settled_of_quiet hq i).mp (h.settled i hi))

/-- After a metric of slot `i`, and until the next one, the level of the slot agrees in a state
with no METRIC in progress exactly when none of the steps in between was a late write. -/
theorem agree_iff_no_lateWrite {s₀ s₁ s : System n} {a : Action n} {actions : List (Action n)}
    {i : Fin maxSensors} (h : SystemOk s₀) (hm : s₀.metricWriter a = some i)
    (hstep : s₀.step a = some s₁)
    (hsince : Runs.Guarded step (fun t b => t.metricWriter b ≠ some i) s₁ actions)
    (hrun : Runs.run step s₁ actions = some s) (hq : s.Quiet) :
    ((s.g.sensors i).alertLevel = .alert ↔
      Anomalous (s.g.sensors i).type (s.g.sensors i).lastValue) ↔
        Runs.Guarded step (fun t b => ¬ t.LateWrite b i) s₁ actions := by
  have hocc : (s₁.g.sensors i).active = true := by
    obtain ⟨c, id, value, timestamp, type, rfl, hc, hs⟩ := metricWriter_eq hm
    exact (extends_step hstep i (slotOf_occupied hs)).1
  rw [← wantedLevel_eq_alert_iff, ← settled_of_quiet hq]
  rw [Runs.holds_iff_guarded (I := fun t : System n => SystemOk t ∧ (t.g.sensors i).active = true)
    (Q := fun t => t.Settled i) ?_ ?_ ⟨systemOk_step h hstep, hocc⟩ hsince hrun]
  · exact and_iff_right (settled_metric h hm hstep)
  · rintro t b t' ⟨ht, hi⟩ htb
    exact ⟨systemOk_step ht htb, (extends_step htb i hi).1⟩
  · rintro t b t' ⟨ht, hi⟩ hb htb
    exact settled_step ht hi hb htb

/-- In a run without late writes the levels agree in every state. And after the last metric of a
slot its level agrees, once no METRIC is in progress, only if no step since was a late write. -/
theorem levels_agree_without_lateWrite (actions : List (Action n)) :
    (Runs.Guarded step (fun s a => ∀ i, ¬ s.LateWrite a i) (init n) actions →
      Runs.Always step LevelsAgree (init n) actions) ∧
    ∀ pre a post s₀ s₁ s i, actions = pre ++ a :: post → Runs.run step (init n) pre = some s₀ →
      s₀.metricWriter a = some i → s₀.step a = some s₁ →
      Runs.Guarded step (fun t b => t.metricWriter b ≠ some i) s₁ post →
      Runs.run step s₁ post = some s → s.Quiet →
      (((s.g.sensors i).alertLevel = .alert ↔
        Anomalous (s.g.sensors i).type (s.g.sensors i).lastValue) ↔
          Runs.Guarded step (fun t b => ¬ t.LateWrite b i) s₁ post) := by
  constructor
  · exact Runs.always_of_guarded (fun _ h => h.agree) levelsOk_init levelsOk_step
  · intro pre a post s₀ s₁ s i _ hpre hm hstep hsince hrun hq
    exact agree_iff_no_lateWrite (systemOk_run hpre) hm hstep hsince hrun hq

/-- One METRIC after the other: no write is late. -/
def orderedReports : List (Action 2) :=
  [.connect 0, .connect 1, .receive 0 (ascii "REGISTER s1 TEMP"), .proceed 0,
    .receive 0 (ascii "METRIC s1 80 2026-03-30T14:05:00Z"), .proceed 0, .proceed 0, .proceed 0,
    .proceed 0, .receive 1 (ascii "METRIC s1 20 2026-03-30T14:05:01Z"), .proceed 1, .proceed 1,
    .proceed 1]

/-- The second value is stored and judged while the first METRIC still owes its level. -/
def overtakenReport : List (Action 2) :=
  [.connect 0, .connect 1, .receive 0 (ascii "REGISTER s1 TEMP"), .proceed 0,
    .receive 0 (ascii "METRIC s1 80 2026-03-30T14:05:00Z"),
    .receive 1 (ascii "METRIC s1 20 2026-03-30T14:05:01Z"), .proceed 0, .proceed 0, .proceed 1,
    .proceed 1, .proceed 1, .proceed 0, .proceed 0]

theorem levels_agree_orderedReports : Runs.Always step LevelsAgree (init 2) orderedReports :=
  (levels_agree_without_lateWrite orderedReports).1 (by decide +kernel)

theorem levels_disagree_overtakenReport :
    ¬ Runs.Always step LevelsAgree (init 2) overtakenReport := by
  decide +kernel

end System

end IotMonitoring
