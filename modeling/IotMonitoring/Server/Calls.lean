import IotMonitoring.Server.State

/-!
# Sequences of state operations

Every change of the shared state is one call of an operation of `state.c`.
`exec` is the change, `event` records what the call did, newest first in a
history. `exec_sensors` says once what a call can do to the sensor table;
`TableOk` and `Extends` are derived from it, and so are the circular tables'
histories.
-/

namespace IotMonitoring

open ByteStrings Binary64
set_option autoImplicit false

inductive StateCall where
  | register (id : Bytes) (type : SensorType)
  | find (id : Bytes)
  | addMetric (id : Bytes) (value : Double) (timestamp typeStr : Bytes)
  | addAlert (id : Bytes) (value threshold : Double) (timestamp typeStr message : Bytes)
  | deactivate (id : Bytes)
  | setAlertLevel (id : Bytes) (level : AlertLevel)

/-- What a call did; a call that changes nothing leaves no event, except that
a deactivation is recorded even when it finds no sensor. -/
inductive Event where
  | registered (id : Bytes) (type : SensorType) (slot : Fin maxSensors)
  | metricAdded (slot : Fin maxSensors) (m : Metric)
  | alertAdded (a : Alert)
  | deactivated (id : Bytes) (slot : Option (Fin maxSensors))
  | levelSet (slot : Fin maxSensors) (level : AlertLevel)
deriving DecidableEq

namespace StateCall

def exec : StateCall → GlobalState → GlobalState
  | register id type, g => (stateRegisterSensor id type g).2
  | find id, g => (stateFindSensor id g).2
  | addMetric id value timestamp typeStr, g => (stateAddMetric id value timestamp typeStr g).2
  | addAlert id value threshold timestamp typeStr message, g =>
    (stateAddAlert id value threshold timestamp typeStr message g).2
  | deactivate id, g => (stateDeactivateSensor id g).2
  | setAlertLevel id level, g => (stateSetAlertLevel id level g).2

def event : StateCall → GlobalState → Option Event
  | register id type, g =>
    if (stateRegisterSensor id type g).1 = .ok then
      ((g.slotOf id).or g.freeSlot).map fun i => .registered id type i
    else none
  | find _, _ => none
  | addMetric id value timestamp typeStr, g => (g.slotOf id).map fun i =>
    .metricAdded i ⟨safeStrncpy id, value, safeStrncpy timestamp, safeStrncpy typeStr⟩
  | addAlert id value threshold timestamp typeStr message, _ =>
    some (.alertAdded ⟨safeStrncpy id, value, threshold, safeStrncpy timestamp, safeStrncpy typeStr,
      safeStrncpy message⟩)
  | deactivate id, g => some (.deactivated id (g.slotOf id))
  | setAlertLevel id level, g => (g.slotOf id).map fun i => .levelSet i level

end StateCall

/-- A sensor record changed without touching what identifies it. -/
structure SameIdentity (s s' : Sensor) : Prop where
  active : s'.active = s.active
  id : s'.id = s.id
  type : s'.type = s.type

/-- What one call can do to the sensor table: nothing, change one record in
place, or put a new sensor in the first free slot. -/
inductive SensorChange (g g' : GlobalState) : Prop where
  | unchanged (sensors : g'.sensors = g.sensors) (count : g'.sensorCount = g.sensorCount)
  | inPlace (i : Fin maxSensors) (s : Sensor) (same : SameIdentity (g.sensors i) s)
      (sensors : g'.sensors = Function.update g.sensors i s) (count : g'.sensorCount = g.sensorCount)
  | added (i : Fin maxSensors) (id : Bytes) (type : SensorType) (valid : type ≠ .invalid)
      (missing : g.slotOf id = none) (free : g.freeSlot = some i)
      (sensors : g'.sensors = Function.update g.sensors i (newSensor id type))
      (count : g'.sensorCount = g.sensorCount + 1)

theorem updateSensor_change (id : Bytes) (f : Sensor → Sensor)
    (hf : ∀ s, SameIdentity s (f s)) (g : GlobalState) :
    SensorChange g (g.updateSensor id f).2 := by
  cases h : g.slotOf id with
  | some i =>
    rw [updateSensor_found h]
    exact .inPlace i _ (hf _) rfl rfl
  | none =>
    rw [updateSensor_missing h]
    exact .unchanged rfl rfl

theorem exec_sensors (c : StateCall) (g : GlobalState) : SensorChange g (c.exec g) := by
  cases c with
  | register id type =>
    rcases stateRegisterSensor_cases id type g with ⟨-, h⟩ | ⟨i, -, -, -, h⟩ | ⟨i, -, -, -, h⟩ |
      ⟨-, -, -, h⟩ | ⟨i, ht, hs, hf, h⟩
    · exact .unchanged (by rw [StateCall.exec, h]) (by rw [StateCall.exec, h])
    · exact .inPlace i { g.sensors i with status := .active } ⟨rfl, rfl, rfl⟩
        (by rw [StateCall.exec, h, setSensor_sensors]) (by rw [StateCall.exec, h, setSensor_sensorCount])
    · exact .unchanged (by rw [StateCall.exec, h]) (by rw [StateCall.exec, h])
    · exact .unchanged (by rw [StateCall.exec, h]) (by rw [StateCall.exec, h])
    · exact .added i id type ht hs hf (by rw [StateCall.exec, h, setSensor_sensors])
        (by rw [StateCall.exec, h])
  | find id => exact .unchanged rfl rfl
  | addMetric id value timestamp typeStr =>
    cases h : g.slotOf id with
    | some i =>
      rw [StateCall.exec, stateAddMetric_found h]
      exact .inPlace i { g.sensors i with
        lastValue := value, lastTimestamp := safeStrncpy timestamp } ⟨rfl, rfl, rfl⟩ rfl rfl
    | none =>
      rw [StateCall.exec, stateAddMetric_missing h]
      exact .unchanged rfl rfl
  | addAlert id value threshold timestamp typeStr message => exact .unchanged rfl rfl
  | deactivate id =>
    exact updateSensor_change id (fun s => { s with status := .inactive }) (fun _ => ⟨rfl, rfl, rfl⟩) g
  | setAlertLevel id level =>
    exact updateSensor_change id (fun s => { s with alertLevel := level }) (fun _ => ⟨rfl, rfl, rfl⟩) g

/-! ## The sensor table -/

/-- The occupied slots are the first `sensorCount`, and each has a real type. -/
structure TableOk (g : GlobalState) : Prop where
  packed : SlotTable.Packed (·.active) g.sensors g.sensorCount
  count_le : g.sensorCount ≤ maxSensors
  typed : ∀ i, (g.sensors i).active = true → (g.sensors i).type ≠ .invalid

/-- Occupied slots stay occupied, with the same id and type. -/
def Extends (g g' : GlobalState) : Prop :=
  ∀ i, (g.sensors i).active = true → (g'.sensors i).active = true ∧
    (g'.sensors i).id = (g.sensors i).id ∧ (g'.sensors i).type = (g.sensors i).type

theorem tableOk_init : TableOk stateInit where
  packed := by
    intro i
    simp [stateInit, Sensor.zero]
  count_le := Nat.zero_le _
  typed := by
    intro i h
    simp [stateInit, Sensor.zero] at h

theorem TableOk.change {g g' : GlobalState} (h : TableOk g) (hc : SensorChange g g') :
    TableOk g' := by
  cases hc with
  | unchanged sensors count =>
    refine ⟨?_, by rw [count]; exact h.count_le, ?_⟩
    · rw [sensors, count]
      exact h.packed
    · rw [sensors]
      exact h.typed
  | inPlace i s same sensors count =>
    refine ⟨?_, by rw [count]; exact h.count_le, ?_⟩
    · rw [sensors, count]
      exact SlotTable.packed_update_same h.packed same.active
    · intro j
      rw [sensors]
      by_cases hj : j = i
      · subst hj
        rw [Function.update_self, same.active, same.type]
        exact h.typed j
      · rw [Function.update_of_ne hj]
        exact h.typed j
  | added i id type valid missing free sensors count =>
    have hi := SlotTable.eq_of_free h.packed free
    refine ⟨?_, ?_, ?_⟩
    · rw [sensors, count]
      exact SlotTable.packed_update_free h.packed free rfl
    · rw [count]
      have := i.isLt
      omega
    · intro j
      rw [sensors]
      by_cases hj : j = i
      · subst hj
        rw [Function.update_self]
        exact fun _ => valid
      · rw [Function.update_of_ne hj]
        exact h.typed j

theorem Extends.refl (g : GlobalState) : Extends g g := fun _ h => ⟨h, rfl, rfl⟩

theorem Extends.trans {g g' g'' : GlobalState} (h : Extends g g') (h' : Extends g' g'') :
    Extends g g'' := by
  intro i hi
  obtain ⟨ha, hid, ht⟩ := h i hi
  obtain ⟨ha', hid', ht'⟩ := h' i ha
  exact ⟨ha', hid'.trans hid, ht'.trans ht⟩

theorem SensorChange.extends {g g' : GlobalState} (hc : SensorChange g g') : Extends g g' := by
  intro i hi
  cases hc with
  | unchanged sensors _ =>
    rw [sensors]
    exact ⟨hi, rfl, rfl⟩
  | inPlace j s same sensors _ =>
    rw [sensors]
    by_cases hij : i = j
    · subst hij
      rw [Function.update_self]
      exact ⟨same.active.trans hi, same.id, same.type⟩
    · rw [Function.update_of_ne hij]
      exact ⟨hi, rfl, rfl⟩
  | added j id type _ _ free sensors _ =>
    have hij : i ≠ j := by
      rintro rfl
      rw [SlotTable.not_occupied_of_free free] at hi
      cases hi
    rw [sensors, Function.update_of_ne hij]
    exact ⟨hi, rfl, rfl⟩

/-- No later call can put another slot with the same id before the one found. -/
theorem slotOf_extends {g g' : GlobalState} (h : TableOk g) (he : Extends g g') {id : Bytes}
    {i : Fin maxSensors} (hs : g.slotOf id = some i) : g'.slotOf id = some i := by
  obtain ⟨⟨hact, hid⟩, hfirst⟩ := SlotTable.find_eq_some_iff.mp hs
  apply SlotTable.find_eq_some_iff.mpr
  obtain ⟨hact', hid', -⟩ := he i hact
  refine ⟨⟨hact', by rw [hid']; exact hid⟩, fun j hj _ => ?_⟩
  have hjact : (g.sensors j).active = true :=
    (h.packed j).mpr (Nat.lt_trans hj ((h.packed i).mp hact))
  rw [(he j hjact).2.1]
  exact hfirst j hj hjact

theorem tableOk_exec {g : GlobalState} (h : TableOk g) (c : StateCall) : TableOk (c.exec g) :=
  h.change (exec_sensors c g)

theorem extends_exec (c : StateCall) (g : GlobalState) : Extends g (c.exec g) :=
  (exec_sensors c g).extends

/-! ## Events as writes to the sensor table -/

def Event.slot? : Event → Option (Fin maxSensors)
  | .registered _ _ i => some i
  | .metricAdded i _ => some i
  | .alertAdded _ => none
  | .deactivated _ i => i
  | .levelSet i _ => some i

/-- The record an event leaves in the slot it writes. -/
def Event.written : Event → Sensor → Sensor
  | .registered id type _, s =>
    if s.active then { s with status := .active } else newSensor id type
  | .metricAdded _ m, s => { s with lastValue := m.value, lastTimestamp := m.timestamp }
  | .alertAdded _, s => s
  | .deactivated _ _, s => { s with status := .inactive }
  | .levelSet _ level, s => { s with alertLevel := level }

/-- A second registration of a sensor makes it active again. -/
theorem written_again {id : Bytes} {type : SensorType} {i : Fin maxSensors} {s : Sensor}
    (h : s.active = true) : Event.written (.registered id type i) s = { s with status := .active } :=
  if_pos h

/-- A registration in a free slot leaves a new sensor there. -/
theorem written_new {id : Bytes} {type : SensorType} {i : Fin maxSensors} {g : GlobalState}
    (h : g.freeSlot = some i) :
    Event.written (.registered id type i) (g.sensors i) = newSensor id type := by
  have hfree : (g.sensors i).active = false := SlotTable.not_occupied_of_free h
  rw [Event.written, hfree]
  exact if_neg Bool.false_ne_true

theorem event_register {id : Bytes} {type : SensorType} {g : GlobalState} {e : Event}
    (he : (StateCall.register id type).event g = some e) :
    ∃ i, e = .registered id type i ∧ type ≠ .invalid ∧
      ((g.slotOf id = some i ∧ (g.sensors i).status = .inactive) ∨
        (g.slotOf id = none ∧ g.freeSlot = some i)) ∧
      (stateRegisterSensor id type g).2.sensors =
        Function.update g.sensors i (e.written (g.sensors i)) := by
  simp only [StateCall.event] at he
  rcases stateRegisterSensor_cases id type g with ⟨-, h⟩ | ⟨i, ht, hs, hst, h⟩ | ⟨i, -, -, -, h⟩ |
    ⟨-, -, -, h⟩ | ⟨i, ht, hs, hf, h⟩
  · rw [h] at he
    cases he
  · rw [h, hs] at he
    cases he
    refine ⟨i, rfl, ht, Or.inl ⟨hs, hst⟩, ?_⟩
    rw [h, setSensor_sensors, written_again (slotOf_occupied hs)]
  · rw [h] at he
    cases he
  · rw [h] at he
    cases he
  · rw [h, hs, hf] at he
    cases he
    refine ⟨i, rfl, ht, Or.inr ⟨hs, hf⟩, ?_⟩
    rw [h, written_new hf, setSensor_sensors]

/-- A registration is recorded exactly when it returns 0. -/
theorem event_register_isSome (id : Bytes) (type : SensorType) (g : GlobalState) :
    ((StateCall.register id type).event g).isSome ↔ (stateRegisterSensor id type g).1 = .ok := by
  simp only [StateCall.event]
  rcases stateRegisterSensor_cases id type g with ⟨-, h⟩ | ⟨i, -, hs, -, h⟩ | ⟨i, -, -, -, h⟩ |
    ⟨-, -, -, h⟩ | ⟨i, -, hs, hf, h⟩
  · simp [h]
  · simp [h, hs]
  · simp [h]
  · simp [h]
  · simp [h, hs, hf]

theorem event_register_none {id : Bytes} {type : SensorType} {g : GlobalState}
    (he : (StateCall.register id type).event g = none) : (stateRegisterSensor id type g).2 = g := by
  simp only [StateCall.event] at he
  rcases stateRegisterSensor_cases id type g with ⟨-, h⟩ | ⟨i, -, hs, -, h⟩ | ⟨i, -, -, -, h⟩ |
    ⟨-, -, -, h⟩ | ⟨i, -, hs, hf, h⟩
  · rw [h]
  · rw [h, hs] at he
    cases he
  · rw [h]
  · rw [h]
  · rw [h, hs, hf] at he
    cases he

/-- The sensor table after a call is what its event says. -/
theorem exec_sensors_event (c : StateCall) (g : GlobalState) :
    (c.exec g).sensors = match c.event g with
      | some e => match e.slot? with
        | some i => Function.update g.sensors i (e.written (g.sensors i))
        | none => g.sensors
      | none => g.sensors := by
  cases c with
  | register id type =>
    cases he : (StateCall.register id type).event g with
    | some e =>
      obtain ⟨i, rfl, -, -, h⟩ := event_register he
      exact h
    | none => exact congrArg GlobalState.sensors (event_register_none he)
  | find id => rfl
  | addMetric id value timestamp typeStr =>
    cases h : g.slotOf id with
    | some i =>
      rw [StateCall.exec, stateAddMetric_found h, StateCall.event, h]
      rfl
    | none =>
      rw [StateCall.exec, stateAddMetric_missing h, StateCall.event, h]
      rfl
  | addAlert id value threshold timestamp typeStr message => rfl
  | deactivate id =>
    rw [StateCall.exec, stateDeactivateSensor, StateCall.event]
    cases h : g.slotOf id with
    | some i =>
      rw [updateSensor_found h]
      rfl
    | none =>
      rw [updateSensor_missing h]
      rfl
  | setAlertLevel id level =>
    rw [StateCall.exec, stateSetAlertLevel, StateCall.event]
    cases h : g.slotOf id with
    | some i =>
      rw [updateSensor_found h]
      rfl
    | none =>
      rw [updateSensor_missing h]
      rfl

section Writes
variable {c : StateCall} {g : GlobalState} {e : Event} {i : Fin maxSensors}

theorem exec_sensor_written (he : c.event g = some e) (hi : e.slot? = some i) :
    (c.exec g).sensors i = e.written (g.sensors i) := by
  rw [exec_sensors_event, he]
  simp only [hi, Function.update_self]

theorem exec_sensor_frame (h : ∀ e, c.event g = some e → e.slot? ≠ some i) :
    (c.exec g).sensors i = g.sensors i := by
  rw [exec_sensors_event]
  cases he : c.event g with
  | none => rfl
  | some e =>
    cases hs : e.slot? with
    | none => simp only [hs]
    | some j =>
      have hne : i ≠ j := by
        rintro rfl
        exact h e he hs
      simp only [hs, Function.update_of_ne hne]

/-- A write to an occupied slot keeps what identifies the sensor. -/
theorem written_same {x : Sensor} (hocc : x.active = true) (e : Event) :
    SameIdentity x (e.written x) := by
  cases e with
  | registered id type i =>
    rw [written_again hocc]
    exact ⟨rfl, rfl, rfl⟩
  | _ => exact ⟨rfl, rfl, rfl⟩

/-- A call writes to an occupied slot, or registers a new sensor in the first free one. -/
theorem event_slot (he : c.event g = some e) (hi : e.slot? = some i) :
    (g.sensors i).active = true ∨ ∃ id type, c = .register id type ∧
      e = .registered id type i ∧ g.slotOf id = none ∧ g.freeSlot = some i := by
  cases c with
  | register id type =>
    obtain ⟨j, rfl, -, ⟨hs, -⟩ | ⟨hs, hf⟩, -⟩ := event_register he
    · cases hi
      exact Or.inl (slotOf_occupied hs)
    · cases hi
      exact Or.inr ⟨id, type, rfl, rfl, hs, hf⟩
  | find id => cases he
  | addMetric id value timestamp typeStr =>
    obtain ⟨j, hs, rfl⟩ := Option.map_eq_some_iff.mp he
    cases hi
    exact Or.inl (slotOf_occupied hs)
  | addAlert id value threshold timestamp typeStr message =>
    cases he
    cases hi
  | deactivate id =>
    cases he
    exact Or.inl (slotOf_occupied hi)
  | setAlertLevel id level =>
    obtain ⟨j, hs, rfl⟩ := Option.map_eq_some_iff.mp he
    cases hi
    exact Or.inl (slotOf_occupied hs)

end Writes

/-! ## What a call leaves alone -/

/-- The sensor a call names. -/
def StateCall.names : StateCall → Bytes
  | .register id _ | .find id | .addMetric id _ _ _ | .addAlert id _ _ _ _ _ | .deactivate id
  | .setAlertLevel id _ => id

/-- A call writes to the sensor it names, or to a free slot. -/
theorem event_names {call : StateCall} {g : GlobalState} {e : Event} {i : Fin maxSensors}
    (he : call.event g = some e) (hi : e.slot? = some i) :
    g.slotOf call.names = some i ∨ (g.sensors i).active = false := by
  cases call with
  | register id type =>
    obtain ⟨j, rfl, -, hslot, -⟩ := event_register he
    cases hi
    rcases hslot with ⟨hs, -⟩ | ⟨-, hfree⟩
    · exact Or.inl hs
    · exact Or.inr (SlotTable.not_occupied_of_free hfree)
  | find id => cases he
  | addMetric id value timestamp typeStr =>
    obtain ⟨j, hs, rfl⟩ := Option.map_eq_some_iff.mp he
    cases hi
    exact Or.inl hs
  | addAlert id value threshold timestamp typeStr message =>
    cases he
    cases hi
  | deactivate id =>
    cases he
    exact Or.inl hi
  | setAlertLevel id level =>
    obtain ⟨j, hs, rfl⟩ := Option.map_eq_some_iff.mp he
    cases hi
    exact Or.inl hs

/-- A call about another sensor leaves this one as it is. -/
theorem exec_other {call : StateCall} {g : GlobalState} {id : Bytes} {i : Fin maxSensors}
    (hs : g.slotOf id = some i) (hne : call.names ≠ id) :
    (call.exec g).sensors i = g.sensors i := by
  apply exec_sensor_frame
  intro e he hi
  rcases event_names he hi with hnamed | hfree
  · exact hne ((slotOf_id hnamed).symm.trans (slotOf_id hs))
  · rw [slotOf_occupied hs] at hfree
    cases hfree

/-! ## Histories -/

def Event.metric? : Event → Option Metric
  | .metricAdded _ m => some m
  | _ => none

def Event.alert? : Event → Option Alert
  | .alertAdded a => some a
  | _ => none

def metricsIn (es : List Event) : List Metric := es.filterMap Event.metric?
def alertsIn (es : List Event) : List Alert := es.filterMap Event.alert?

theorem stateRegisterSensor_tables (id : Bytes) (type : SensorType) (g : GlobalState) :
    (stateRegisterSensor id type g).2.metrics = g.metrics ∧
      (stateRegisterSensor id type g).2.alerts = g.alerts := by
  rcases stateRegisterSensor_cases id type g with ⟨-, h⟩ | ⟨i, -, -, -, h⟩ | ⟨i, -, -, -, h⟩ |
    ⟨-, -, -, h⟩ | ⟨i, -, -, -, h⟩ <;> rw [h] <;> exact ⟨rfl, rfl⟩

theorem updateSensor_tables (id : Bytes) (f : Sensor → Sensor) (g : GlobalState) :
    (g.updateSensor id f).2.metrics = g.metrics ∧ (g.updateSensor id f).2.alerts = g.alerts := by
  cases h : g.slotOf id with
  | some i => rw [updateSensor_found h]; exact ⟨rfl, rfl⟩
  | none => rw [updateSensor_missing h]; exact ⟨rfl, rfl⟩

theorem event_register_metric (id : Bytes) (type : SensorType) (g : GlobalState) :
    ((StateCall.register id type).event g).bind Event.metric? = none ∧
      ((StateCall.register id type).event g).bind Event.alert? = none := by
  simp only [StateCall.event]
  split
  · cases (g.slotOf id).or g.freeSlot <;> exact ⟨rfl, rfl⟩
  · exact ⟨rfl, rfl⟩

/-- The metric table is pushed exactly when the call's event is a metric. -/
theorem exec_metrics (c : StateCall) (g : GlobalState) :
    (c.exec g).metrics = ((c.event g).bind Event.metric?).elim g.metrics g.metrics.push := by
  cases c with
  | register id type =>
    rw [(event_register_metric id type g).1]
    exact (stateRegisterSensor_tables id type g).1
  | find id => rfl
  | addMetric id value timestamp typeStr =>
    cases h : g.slotOf id with
    | some i => simp [StateCall.exec, StateCall.event, stateAddMetric_found h, h, Event.metric?]
    | none => simp [StateCall.exec, StateCall.event, stateAddMetric_missing h, h]
  | addAlert id value threshold timestamp typeStr message => rfl
  | deactivate id => exact (updateSensor_tables id _ g).1
  | setAlertLevel id level =>
    rw [StateCall.exec, stateSetAlertLevel, (updateSensor_tables id _ g).1, StateCall.event]
    cases g.slotOf id <;> rfl

theorem exec_alerts (c : StateCall) (g : GlobalState) :
    (c.exec g).alerts = ((c.event g).bind Event.alert?).elim g.alerts g.alerts.push := by
  cases c with
  | register id type =>
    rw [(event_register_metric id type g).2]
    exact (stateRegisterSensor_tables id type g).2
  | find id => rfl
  | addMetric id value timestamp typeStr =>
    cases h : g.slotOf id with
    | some i => simp [StateCall.exec, StateCall.event, stateAddMetric_found h, h, Event.alert?]
    | none => simp [StateCall.exec, StateCall.event, stateAddMetric_missing h, h]
  | addAlert id value threshold timestamp typeStr message => rfl
  | deactivate id => exact (updateSensor_tables id _ g).2
  | setAlertLevel id level =>
    rw [StateCall.exec, stateSetAlertLevel, (updateSensor_tables id _ g).2, StateCall.event]
    cases g.slotOf id <;> rfl

/-- A metric is recorded exactly for the calls that return 0. -/
theorem event_addMetric_isSome (id : Bytes) (value : Double) (timestamp typeStr : Bytes)
    (g : GlobalState) : ((StateCall.addMetric id value timestamp typeStr).event g).isSome =
      (stateAddMetric id value timestamp typeStr g).1 := by
  cases h : g.slotOf id with
  | some i => rw [stateAddMetric_found h, StateCall.event, h]; rfl
  | none => rw [stateAddMetric_missing h, StateCall.event, h]; rfl

theorem metricsIn_append_event (e : Option Event) (es : List Event) :
    metricsIn (e.toList ++ es) = (e.bind Event.metric?).toList ++ metricsIn es := by
  cases e with
  | none => rfl
  | some e => cases h : e.metric? <;> simp [metricsIn, h]

theorem alertsIn_append_event (e : Option Event) (es : List Event) :
    alertsIn (e.toList ++ es) = (e.bind Event.alert?).toList ++ alertsIn es := by
  cases e with
  | none => rfl
  | some e => cases h : e.alert? <;> simp [alertsIn, h]

/-- Both circular tables hold the history of the calls. -/
structure TablesHold (g : GlobalState) (es : List Event) : Prop where
  metrics : g.metrics.Holds (metricsIn es)
  alerts : g.alerts.Holds (alertsIn es)

theorem tablesHold_init : TablesHold stateInit [] :=
  ⟨CircularTable.holds_cleared _, CircularTable.holds_cleared _⟩

theorem tablesHold_exec {g : GlobalState} {es : List Event} (h : TablesHold g es)
    (c : StateCall) : TablesHold (c.exec g) ((c.event g).toList ++ es) := by
  constructor
  · rw [exec_metrics, metricsIn_append_event]
    cases (c.event g).bind Event.metric? with
    | none => exact h.metrics
    | some m => exact CircularTable.holds_push h.metrics m
  · rw [exec_alerts, alertsIn_append_event]
    cases (c.event g).bind Event.alert? with
    | none => exact h.alerts
    | some a => exact CircularTable.holds_push h.alerts a

end IotMonitoring
