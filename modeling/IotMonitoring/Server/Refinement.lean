import IotMonitoring.Shared.Runs
import IotMonitoring.Server.SensorMachine

/-!
# The handlers refine the sensor machine

`Refines g m`: the occupied slots of `g` hold the records of `m` under their
ids. Each handler, run to its end on related states, gives the machine's reply
and a related state, as long as the ids fit their field.
-/

namespace IotMonitoring

open ByteStrings Binary64
set_option autoImplicit false

def Sensor.toRecord (s : Sensor) : Record :=
  ⟨s.type, s.status, s.lastValue, s.lastTimestamp.text, s.alertLevel⟩

def Refines (g : GlobalState) (m : Registry) : Prop :=
  SlotTable.Represents (·.active) (·.id.text) Sensor.toRecord g.sensors g.sensorCount m

/-- The same reply, and related states. -/
def Agree (p : Bytes × GlobalState) (q : Bytes × Registry) : Prop := p.1 = q.1 ∧ Refines p.2 q.2

theorem refines_init : Refines stateInit BoundedMap.empty :=
  SlotTable.represents_empty fun _ => rfl

section Steps
variable {g g' : GlobalState} {m : Registry} {id : Bytes} {i : Fin maxSensors}

theorem Refines.lookup_found (h : Refines g m) (hs : g.slotOf id = some i) :
    m.lookup id = some (g.sensors i).toRecord := by
  rw [SlotTable.Represents.lookup h]
  exact congrArg _ hs

theorem Refines.lookup_missing (h : Refines g m) (hs : g.slotOf id = none) :
    m.lookup id = none := by
  rw [SlotTable.Represents.lookup h]
  exact congrArg _ hs

/-- Rewriting the record found is `modify`, whatever happens to the other tables. -/
theorem Refines.modify (h : Refines g m) (hs : g.slotOf id = some i) {s : Sensor}
    {f : Record → Record} (ho : s.active = (g.sensors i).active) (hk : s.id = (g.sensors i).id)
    (hf : s.toRecord = f (g.sensors i).toRecord)
    (hsens : g'.sensors = Function.update g.sensors i s) (hcount : g'.sensorCount = g.sensorCount) :
    Refines g' (m.modify id f) := by
  have hupd := SlotTable.Represents.update h (slotOf_occupied hs) (r := s) (f := f) ho
    (by rw [hk]) hf
  rw [slotOf_id hs] at hupd
  rw [Refines, hsens, hcount]
  exact hupd

theorem modify_missing (hm : m.lookup id = none) (f : Record → Record) : m.modify id f = m := by
  unfold BoundedMap.modify
  split
  · rfl
  · rename_i x hx
    rw [hx] at hm
    cases hm

theorem slotOf_setSensor {s : Sensor} {id' : Bytes} (ho : s.active = (g.sensors i).active)
    (hk : s.id = (g.sensors i).id) (hsens : g'.sensors = Function.update g.sensors i s) :
    g'.slotOf id' = g.slotOf id' := by
  rw [GlobalState.slotOf, hsens]
  exact SlotTable.find_update_same ho (by rw [hk])

/-! ## REGISTER -/

theorem toRecord_newSensor (id : Bytes) (type : SensorType) :
    (newSensor id type).toRecord = newRecord type := by
  have htext : (safeStrncpy (ascii "N/A") : Buffer maxTimestampLen).text = ascii "N/A" := by decide
  simp only [Sensor.toRecord, newSensor, htext, newRecord]

theorem agree_register (h : Refines g m) (hid : id.length < maxIdLen) (hz : (0 : UInt8) ∉ id)
    (command typeStr : Bytes) :
    Agree ((handleRegister [command, id, typeStr]).run g) (m.register id typeStr) := by
  unfold handleRegister Registry.register
  rcases stateRegisterSensor_cases id (sensorTypeFromStr typeStr) g with ⟨ht, -⟩ |
    ⟨i, ht, hs, hst, hr⟩ | ⟨i, ht, hs, hst, hr⟩ | ⟨ht, hs, hf, hr⟩ | ⟨i, ht, hs, hf, hr⟩
  · simp only [if_pos ht]
    exact ⟨rfl, h⟩
  · simp only [if_neg ht, h.lookup_found hs, Program.run_bind, Program.run_call, Program.run_pure, hr]
    have hnot : (g.sensors i).toRecord.status ≠ .active := by
      change (g.sensors i).status ≠ .active
      rw [hst]
      decide
    rw [if_neg hnot]
    exact ⟨registerReply_ok hid,
      h.modify hs (s := { g.sensors i with status := .active }) rfl rfl rfl rfl rfl⟩
  · simp only [if_neg ht, h.lookup_found hs, Program.run_bind, Program.run_call, Program.run_pure, hr]
    have hactive : (g.sensors i).toRecord.status = .active := hst
    rw [if_pos hactive]
    exact ⟨rfl, h⟩
  · have hfull : ¬ m.size < maxSensors := SlotTable.Represents.free_eq_none_iff h |>.mp hf
    simp only [if_neg ht, h.lookup_missing hs, Program.run_bind, Program.run_call,
      Program.run_pure, hr, dif_neg hfull]
    exact ⟨rfl, h⟩
  · have room : m.size < maxSensors := by
      by_contra hfull
      have hnone : g.freeSlot = none := SlotTable.Represents.free_eq_none_iff h |>.mpr hfull
      rw [hf] at hnone
      cases hnone
    have hkey : (newSensor id (sensorTypeFromStr typeStr)).id.text = id :=
      Buffer.copy_text_of_fits hid hz
    simp only [if_neg ht, h.lookup_missing hs, Program.run_bind, Program.run_call,
      Program.run_pure, hr, dif_pos room]
    refine ⟨registerReply_ok hid, ?_⟩
    have hfill := SlotTable.Represents.fill h (r := newSensor id (sensorTypeFromStr typeStr)) room hf
      (by rw [hkey]; exact hs) rfl
    simp only [hkey, toRecord_newSensor] at hfill
    exact hfill

/-! ## METRIC -/

theorem alertsEvaluate_run (hs : g.slotOf id = some i) (value : Double) (type : SensorType)
    (timestamp : Bytes) :
    (((alertsEvaluate id value type timestamp).run g).2.sensors =
      Function.update g.sensors i { g.sensors i with alertLevel := levelOf type value }) ∧
    ((alertsEvaluate id value type timestamp).run g).2.sensorCount = g.sensorCount := by
  unfold alertsEvaluate
  cases han : anomaly type value with
  | none =>
    have hlevel : levelOf type value = .normal := if_neg (anomaly_eq_none_iff.mp han)
    simp only [Program.run_bind, Program.run_call, Program.run_pure, stateSetAlertLevel,
      updateSensor_found hs, hlevel]
    exact ⟨rfl, rfl⟩
  | some crossed =>
    have hlevel : levelOf type value = .alert :=
      if_pos ((anomaly_isSome_iff type value).mp (by rw [han]; rfl))
    have hs' : (stateAddAlert id value crossed.1 timestamp (sensorTypeToStr type) crossed.2
        g).2.slotOf id = some i := hs
    simp only [Program.run_bind, Program.run_call, Program.run_pure, stateSetAlertLevel,
      updateSensor_found hs', hlevel]
    exact ⟨rfl, rfl⟩

theorem recordMetric_run (hs : g.slotOf id = some i) (value : Double) (timestamp : Bytes)
    (type : SensorType) : ((recordMetric id value timestamp type).run g).1 = metricOk ∧
      ((recordMetric id value timestamp type).run g).2.sensors = Function.update g.sensors i
        { g.sensors i with
          lastValue := value, lastTimestamp := safeStrncpy timestamp
          alertLevel := levelOf type value } ∧
      ((recordMetric id value timestamp type).run g).2.sensorCount = g.sensorCount := by
  have hkept : (stateAddMetric id value timestamp (sensorTypeToStr type) g).2.slotOf id =
      some i := by
    rw [stateAddMetric_found hs]
    rw [← hs]
    exact slotOf_setSensor (s := { g.sensors i with
      lastValue := value, lastTimestamp := safeStrncpy timestamp }) rfl rfl rfl
  unfold recordMetric
  simp only [stateAddMetric_found hs, Program.run_bind, Program.run_call, if_true,
    Program.run_pure, true_and] at hkept ⊢
  obtain ⟨hsens, hcount⟩ := alertsEvaluate_run hkept value type timestamp
  refine ⟨?_, hcount⟩
  rw [hsens]
  simp only [setSensor_sensors, Function.update_self, Function.update_idem]

theorem agree_metric (h : Refines g m) (command valueStr timestamp : Bytes)
    (hz : (0 : UInt8) ∉ timestamp) : Agree ((handleMetric [command, id, valueStr, timestamp]).run g)
      (m.metric id valueStr timestamp) := by
  unfold handleMetric Registry.metric
  simp only [Program.run_bind, Program.run_call, stateFindSensor]
  cases hs : g.slotOf id with
  | none =>
    simp only [h.lookup_missing hs, Option.map_none, checkMetric, Program.run_pure]
    exact ⟨rfl, h⟩
  | some i =>
    simp only [h.lookup_found hs, Option.map_some, checkMetric]
    have hstatus : (g.sensors i).toRecord.status = (g.sensors i).status := rfl
    cases hst : (g.sensors i).status with
    | inactive =>
      simp only [hstatus, hst, ne_eq, reduceCtorEq, not_false_eq_true, if_true, Program.run_pure]
      exact ⟨rfl, h⟩
    | active =>
      simp only [hstatus, hst, ne_eq, not_true_eq_false, reduceCtorEq, if_false]
      cases hv : parseDouble valueStr with
      | none => exact ⟨rfl, h⟩
      | some value =>
        cases hts : isValidTimestamp timestamp with
        | false => exact ⟨rfl, h⟩
        | true =>
          simp only [if_true]
          obtain ⟨hreply, hsens, hcount⟩ := recordMetric_run hs value timestamp (g.sensors i).type
          have htext : (safeStrncpy timestamp : Buffer maxTimestampLen).text = timestamp :=
            Buffer.copy_text_of_fits (timestamp_fits hts) hz
          refine ⟨hreply, h.modify hs (s := { g.sensors i with
            lastValue := value, lastTimestamp := safeStrncpy timestamp
            alertLevel := levelOf (g.sensors i).type value }) rfl rfl ?_ hsens hcount⟩
          simp only [Sensor.toRecord, Record.report, htext]

/-! ## STATUS and QUIT -/

theorem agree_status (h : Refines g m) (command : Bytes) :
    Agree ((handleStatus [command, id]).run g) (m.status id) := by
  unfold handleStatus Registry.status
  simp only [Program.run_bind, Program.run_call, Program.run_pure, stateFindSensor]
  cases hs : g.slotOf id with
  | none =>
    simp only [h.lookup_missing hs, Option.map_none]
    exact ⟨rfl, h⟩
  | some i =>
    simp only [h.lookup_found hs, Option.map_some, statusReply_some]
    refine ⟨?_, h⟩
    simp only [statusText, slotOf_id hs, Record.line, Sensor.toRecord]

theorem agree_quit (h : Refines g m) (command : Bytes) :
    Agree (((handleQuit [command, id]).run g).1.1, ((handleQuit [command, id]).run g).2)
      (m.quit id) := by
  unfold handleQuit Registry.quit
  simp only [Program.run_bind, Program.run_call, Program.run_pure, stateDeactivateSensor]
  refine ⟨rfl, ?_⟩
  cases hs : g.slotOf id with
  | none =>
    rw [updateSensor_missing hs, modify_missing (h.lookup_missing hs)]
    exact h
  | some i =>
    rw [updateSensor_found hs]
    exact h.modify hs (s := { g.sensors i with status := .inactive }) rfl rfl rfl rfl rfl

/-! ## Whole lines and sequences of lines -/

theorem run_staying (p : Program GlobalState Bytes) (g : GlobalState) :
    (staying p).run g = (((p.run g).1, false), (p.run g).2) := by
  simp only [staying, Program.run_bind, Program.run_pure]

theorem agree_tokens (h : Refines g m) {ts : List Bytes} (hz : ∀ w ∈ ts, (0 : UInt8) ∉ w)
    (hfits : ∀ c ∈ Command.parse ts, c.id.length < maxIdLen) :
    Agree (((handleTokens ts).run g).1.1, ((handleTokens ts).run g).2)
      (Registry.handle (Command.parse ts) m) := by
  cases ts with
  | nil => exact ⟨rfl, h⟩
  | cons command args =>
    simp only [handleTokens, Command.parse] at hfits ⊢
    by_cases hreg : command = ascii "REGISTER"
    · simp only [if_pos hreg, run_staying] at hfits ⊢
      rcases args with _ | ⟨id, _ | ⟨typeStr, _ | ⟨more, args⟩⟩⟩
      · exact ⟨rfl, h⟩
      · exact ⟨rfl, h⟩
      · exact agree_register h (hfits _ rfl) (hz id (by simp)) command typeStr
      · exact ⟨rfl, h⟩
    by_cases hmet : command = ascii "METRIC"
    · simp only [if_neg hreg, if_pos hmet, run_staying]
      rcases args with _ | ⟨id, _ | ⟨valueStr, _ | ⟨timestamp, _ | ⟨more, args⟩⟩⟩⟩
      · exact ⟨rfl, h⟩
      · exact ⟨rfl, h⟩
      · exact ⟨rfl, h⟩
      · exact agree_metric h command valueStr timestamp (hz timestamp (by simp))
      · exact ⟨rfl, h⟩
    simp only [if_neg hreg, if_neg hmet]
    by_cases hst : command = ascii "STATUS"
    · simp only [if_pos hst, run_staying]
      rcases args with _ | ⟨id, _ | ⟨more, args⟩⟩
      · exact ⟨rfl, h⟩
      · exact agree_status h command
      · exact ⟨rfl, h⟩
    by_cases hping : command = ascii "PING"
    · simp only [if_neg hst, if_pos hping, run_staying]
      rcases args with _ | ⟨id, _ | ⟨more, args⟩⟩
      · exact ⟨rfl, h⟩
      · exact ⟨rfl, h⟩
      · exact ⟨rfl, h⟩
    by_cases hquit : command = ascii "QUIT"
    · simp only [if_neg hst, if_neg hping, if_pos hquit]
      rcases args with _ | ⟨id, _ | ⟨more, args⟩⟩
      · exact ⟨rfl, h⟩
      · exact agree_quit h command
      · exact ⟨rfl, h⟩
    · simp only [if_neg hst, if_neg hping, if_neg hquit]
      rcases args with _ | ⟨id, _ | ⟨more, args⟩⟩
      · exact ⟨rfl, h⟩
      · exact ⟨rfl, h⟩
      · exact ⟨rfl, h⟩

end Steps

/-- One line handled to its end, with the text passed to `send_response`. -/
def serverMachine (line : Bytes) (g : GlobalState) : Bytes × GlobalState :=
  (((handleLine line).run g).1.1, ((handleLine line).run g).2)

def sensorMachine (line : Bytes) (m : Registry) : Bytes × Registry :=
  Registry.handle (Command.parse (tokenize line 8)) m

/-- For every sequence of lines whose ids fit their field the server gives the
replies of the sensor machine. -/
theorem server_refines_sensorMachine (lines : List Bytes)
    (hfits : ∀ line ∈ lines, ∀ c ∈ Command.parse (tokenize line 8), c.id.length < maxIdLen) :
    Runs.outputs serverMachine stateInit lines =
      Runs.outputs sensorMachine BoundedMap.empty lines := by
  refine Runs.outputs_eq_of_simulation Refines
    (fun line => ∀ c ∈ Command.parse (tokenize line 8), c.id.length < maxIdLen)
    ?_ refines_init hfits
  intro g m line h hline
  exact agree_tokens h (fun w hw => tokenize_zero_notMem hw) hline

/-- A session through every kind of reply but the full table. -/
def sampleSession : List Bytes :=
  [ascii "REGISTER s1 TEMP", ascii "REGISTER s1 TEMP", ascii "REGISTER s2 LIGHT",
    ascii "METRIC s1 80.5 2026-03-30T14:05:00Z", ascii "METRIC s1 x 2026-03-30T14:05:00Z",
    ascii "METRIC s1 80.5 now", ascii "METRIC s3 80.5 now", ascii "STATUS s1", ascii "PING s1",
    ascii "QUIT s1", ascii "METRIC s1 x now", ascii "REGISTER s1 VIB", ascii "STATUS s1"]

theorem server_refines_sampleSession :
    Runs.outputs sensorMachine BoundedMap.empty sampleSession =
      [ascii "200 REGISTERED s1", sensorAlreadyExists, invalidSensorType, metricOk, invalidValue,
        badRequest, sensorNotFound, ascii "200 STATUS s1 ACTIVE TEMP 80.50 2026-03-30T14:05:00Z ALERT",
        pong, bye, sensorNotRegistered, ascii "200 REGISTERED s1",
        ascii "200 STATUS s1 ACTIVE TEMP 80.50 2026-03-30T14:05:00Z ALERT"] := by
  rw [← server_refines_sensorMachine sampleSession (by decide +kernel)]
  decide +kernel

end IotMonitoring
