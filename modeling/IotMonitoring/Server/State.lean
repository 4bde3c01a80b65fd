import IotMonitoring.Shared.Binary64
import IotMonitoring.Shared.CircularTables
import IotMonitoring.Shared.SlotTables

/-!
# The shared state of the server

`GlobalState` and the operations of `state.c`. Each operation is one critical
section under `g_state.lock`, so it is a function of the whole state. Fixed
character arrays are `Buffer`s; a return code 0 is `true`, -1 is `false`.
-/

namespace IotMonitoring

open ByteStrings Binary64
set_option autoImplicit false

abbrev bufferSize : Nat := 4096
abbrev maxIdLen : Nat := 64
abbrev maxTimestampLen : Nat := 32
abbrev maxTypeLen : Nat := 8
abbrev maxMessageLen : Nat := 256
abbrev maxSensors : Nat := 64
abbrev maxAlerts : Nat := 256
abbrev maxMetrics : Nat := 512

instance : NeZero maxIdLen := ⟨by decide⟩
instance : NeZero maxTimestampLen := ⟨by decide⟩
instance : NeZero maxTypeLen := ⟨by decide⟩
instance : NeZero maxMessageLen := ⟨by decide⟩

inductive SensorType where
  | temp | vib | power | invalid
deriving DecidableEq

inductive SensorStatus where
  | active | inactive
deriving DecidableEq

inductive AlertLevel where
  | normal | alert
deriving DecidableEq

structure Sensor where
  id : Buffer maxIdLen
  type : SensorType
  status : SensorStatus
  alertLevel : AlertLevel
  lastValue : Double
  lastTimestamp : Buffer maxTimestampLen
  /-- The slot is in use. -/
  active : Bool
deriving DecidableEq

structure Metric where
  sensorId : Buffer maxIdLen
  value : Double
  timestamp : Buffer maxTimestampLen
  typeStr : Buffer maxTypeLen
deriving DecidableEq

structure Alert where
  sensorId : Buffer maxIdLen
  value : Double
  threshold : Double
  timestamp : Buffer maxTimestampLen
  typeStr : Buffer maxTypeLen
  message : Buffer maxMessageLen
deriving DecidableEq

structure GlobalState where
  sensors : Fin maxSensors → Sensor
  sensorCount : Nat
  metrics : CircularTable Metric maxMetrics
  alerts : CircularTable Alert maxAlerts

/-! ## Initial state and conversions -/

def Sensor.zero : Sensor :=
  ⟨Buffer.zero, .temp, .active, .normal, ofNat 0, Buffer.zero, false⟩

def Metric.zero : Metric := ⟨Buffer.zero, ofNat 0, Buffer.zero, Buffer.zero⟩

def Alert.zero : Alert :=
  ⟨Buffer.zero, ofNat 0, ofNat 0, Buffer.zero, Buffer.zero, Buffer.zero⟩

def stateInit : GlobalState where
  sensors := fun _ => Sensor.zero
  sensorCount := 0
  metrics := .cleared Metric.zero
  alerts := .cleared Alert.zero

def sensorTypeFromStr (str : Bytes) : SensorType :=
  if str = ascii "TEMP" then .temp
  else if str = ascii "VIB" then .vib
  else if str = ascii "POWER" then .power
  else .invalid

def sensorTypeToStr : SensorType → Bytes
  | .temp => ascii "TEMP"
  | .vib => ascii "VIB"
  | .power => ascii "POWER"
  | .invalid => ascii "UNKNOWN"

def sensorStatusToStr : SensorStatus → Bytes
  | .active => ascii "ACTIVE"
  | .inactive => ascii "INACTIVE"

def alertLevelToStr : AlertLevel → Bytes
  | .normal => ascii "NORMAL"
  | .alert => ascii "ALERT"

theorem sensorTypeFromStr_toStr {t : SensorType} (h : t ≠ .invalid) :
    sensorTypeFromStr (sensorTypeToStr t) = t := by
  cases t
  · decide
  · decide
  · decide
  · exact absurd rfl h

def safeStrncpy {n : Nat} [NeZero n] (src : Bytes) : Buffer n := Buffer.copy src

/-- Type names fit their field. -/
theorem typeStr_text (t : SensorType) :
    (safeStrncpy (sensorTypeToStr t) : Buffer maxTypeLen).text = sensorTypeToStr t := by
  cases t <;> decide

/-! ## Operations -/

namespace GlobalState

/-- The scan of every operation: the first occupied slot whose id equals the argument. -/
def slotOf (g : GlobalState) (id : Bytes) : Option (Fin maxSensors) :=
  SlotTable.find (·.active) (·.id.text) g.sensors id

def freeSlot (g : GlobalState) : Option (Fin maxSensors) := SlotTable.free (·.active) g.sensors

def setSensor (g : GlobalState) (i : Fin maxSensors) (s : Sensor) : GlobalState :=
  { g with sensors := Function.update g.sensors i s }

/-- Change the first sensor with the id, if there is one. -/
def updateSensor (id : Bytes) (f : Sensor → Sensor) (g : GlobalState) : Bool × GlobalState :=
  match g.slotOf id with
  | some i => (true, g.setSensor i (f (g.sensors i)))
  | none => (false, g)

end GlobalState

/-- The return codes 0, -1, -2 and -3 of `state_register_sensor`. -/
inductive RegisterResult where
  | ok | tableFull | alreadyExists | invalidType
deriving DecidableEq

def newSensor (id : Bytes) (type : SensorType) : Sensor where
  id := safeStrncpy id
  type := type
  status := .active
  alertLevel := .normal
  lastValue := ofNat 0
  lastTimestamp := safeStrncpy (ascii "N/A")
  active := true

def stateRegisterSensor (id : Bytes) (type : SensorType) (g : GlobalState) :
    RegisterResult × GlobalState :=
  if type = .invalid then (.invalidType, g)
  else
    match g.slotOf id with
    | some i =>
      if (g.sensors i).status = .inactive then
        (.ok, g.setSensor i { g.sensors i with status := .active })
      else (.alreadyExists, g)
    | none =>
      match g.freeSlot with
      | none => (.tableFull, g)
      | some slot =>
        (.ok, { g.setSensor slot (newSensor id type) with sensorCount := g.sensorCount + 1 })

/-- The index found and the copy of the sensor made under the lock. -/
def stateFindSensor (id : Bytes) (g : GlobalState) : Option (Fin maxSensors × Sensor) × GlobalState :=
  ((g.slotOf id).map fun i => (i, g.sensors i), g)

def stateAddMetric (sensorId : Bytes) (value : Double) (timestamp typeStr : Bytes)
    (g : GlobalState) : Bool × GlobalState :=
  match g.updateSensor sensorId fun s =>
      { s with lastValue := value, lastTimestamp := safeStrncpy timestamp } with
  | (false, g) => (false, g)
  | (true, g) =>
    (true, { g with
      metrics := g.metrics.push
        ⟨safeStrncpy sensorId, value, safeStrncpy timestamp, safeStrncpy typeStr⟩ })

def stateAddAlert (sensorId : Bytes) (value threshold : Double)
    (timestamp typeStr message : Bytes) (g : GlobalState) : Unit × GlobalState :=
  ((), { g with
    alerts := g.alerts.push
      ⟨safeStrncpy sensorId, value, threshold, safeStrncpy timestamp, safeStrncpy typeStr,
        safeStrncpy message⟩ })

def stateDeactivateSensor (id : Bytes) : GlobalState → Bool × GlobalState :=
  GlobalState.updateSensor id fun s => { s with status := .inactive }

def stateSetAlertLevel (id : Bytes) (level : AlertLevel) : GlobalState → Bool × GlobalState :=
  GlobalState.updateSensor id fun s => { s with alertLevel := level }

def stateGetSensorCount (g : GlobalState) : Nat := g.sensorCount

def stateGetActiveSensorCount (g : GlobalState) : Nat :=
  (List.finRange maxSensors).countP fun i =>
    (g.sensors i).active && decide ((g.sensors i).status = .active)

def stateGetAlertCount (g : GlobalState) : Nat := g.alerts.count

def stateGetMetricCount (g : GlobalState) : Nat := g.metrics.count

/-! ## What each operation does -/

section Operations
variable {g : GlobalState} {id : Bytes} {i : Fin maxSensors}

@[simp] theorem setSensor_sensors (g : GlobalState) (i : Fin maxSensors) (s : Sensor) :
    (g.setSensor i s).sensors = Function.update g.sensors i s := rfl

@[simp] theorem setSensor_sensorCount (g : GlobalState) (i : Fin maxSensors) (s : Sensor) :
    (g.setSensor i s).sensorCount = g.sensorCount := rfl

@[simp] theorem setSensor_metrics (g : GlobalState) (i : Fin maxSensors) (s : Sensor) :
    (g.setSensor i s).metrics = g.metrics := rfl

@[simp] theorem setSensor_alerts (g : GlobalState) (i : Fin maxSensors) (s : Sensor) :
    (g.setSensor i s).alerts = g.alerts := rfl

theorem slotOf_occupied (h : g.slotOf id = some i) : (g.sensors i).active = true :=
  SlotTable.find_occupied h

theorem slotOf_id (h : g.slotOf id = some i) : (g.sensors i).id.text = id := SlotTable.find_key h

/-- Only ids that fit their field are ever found. -/
theorem slotOf_length (h : g.slotOf id = some i) : id.length < maxIdLen := by
  rw [← slotOf_id h]
  exact (g.sensors i).id.length_lt

theorem slotOf_overlong (h : maxIdLen ≤ id.length) : g.slotOf id = none := by
  by_contra hne
  obtain ⟨j, hs⟩ := Option.ne_none_iff_exists'.mp hne
  exact absurd (slotOf_length hs) (Nat.not_lt.mpr h)

theorem safeStrncpy_slotOf (h : g.slotOf id = some i) :
    (safeStrncpy id : Buffer maxIdLen) = (g.sensors i).id := by
  rw [← slotOf_id h]
  exact Buffer.copy_buffer _

theorem updateSensor_found (h : g.slotOf id = some i) (f : Sensor → Sensor) :
    g.updateSensor id f = (true, g.setSensor i (f (g.sensors i))) := by
  simp only [GlobalState.updateSensor, h]

theorem updateSensor_missing (h : g.slotOf id = none) (f : Sensor → Sensor) :
    g.updateSensor id f = (false, g) := by
  simp only [GlobalState.updateSensor, h]

theorem stateAddMetric_found (h : g.slotOf id = some i) (value : Double) (timestamp typeStr : Bytes) :
    stateAddMetric id value timestamp typeStr g =
      (true, { g.setSensor i { g.sensors i with
          lastValue := value, lastTimestamp := safeStrncpy timestamp } with
        metrics := g.metrics.push
          ⟨safeStrncpy id, value, safeStrncpy timestamp, safeStrncpy typeStr⟩ }) := by
  simp only [stateAddMetric, updateSensor_found h, setSensor_metrics]

theorem stateAddMetric_missing (h : g.slotOf id = none) (value : Double)
    (timestamp typeStr : Bytes) : stateAddMetric id value timestamp typeStr g = (false, g) := by
  simp only [stateAddMetric, updateSensor_missing h]

/-- The four outcomes of a registration, each with the state it leaves. -/
theorem stateRegisterSensor_cases (id : Bytes) (type : SensorType) (g : GlobalState) :
    (type = .invalid ∧ stateRegisterSensor id type g = (.invalidType, g)) ∨
    (∃ i, type ≠ .invalid ∧ g.slotOf id = some i ∧ (g.sensors i).status = .inactive ∧
      stateRegisterSensor id type g =
        (.ok, g.setSensor i { g.sensors i with status := .active })) ∨
    (∃ i, type ≠ .invalid ∧ g.slotOf id = some i ∧ (g.sensors i).status = .active ∧
      stateRegisterSensor id type g = (.alreadyExists, g)) ∨
    (type ≠ .invalid ∧ g.slotOf id = none ∧ g.freeSlot = none ∧
      stateRegisterSensor id type g = (.tableFull, g)) ∨
    (∃ i, type ≠ .invalid ∧ g.slotOf id = none ∧ g.freeSlot = some i ∧
      stateRegisterSensor id type g =
        (.ok, { g.setSensor i (newSensor id type) with sensorCount := g.sensorCount + 1 })) := by
  by_cases ht : type = .invalid
  · exact Or.inl ⟨ht, if_pos ht⟩
  · refine Or.inr ?_
    cases hs : g.slotOf id with
    | some i =>
      cases hst : (g.sensors i).status with
      | inactive =>
        refine Or.inl ⟨i, ht, rfl, hst, ?_⟩
        simp only [stateRegisterSensor, if_neg ht, hs, hst, if_true]
      | active =>
        refine Or.inr (Or.inl ⟨i, ht, rfl, hst, ?_⟩)
        simp only [stateRegisterSensor, if_neg ht, hs, hst, reduceCtorEq, if_false]
    | none =>
      cases hf : g.freeSlot with
      | none =>
        refine Or.inr (Or.inr (Or.inl ⟨ht, rfl, rfl, ?_⟩))
        simp only [stateRegisterSensor, if_neg ht, hs, hf]
      | some i =>
        refine Or.inr (Or.inr (Or.inr ⟨i, ht, rfl, rfl, ?_⟩))
        simp only [stateRegisterSensor, if_neg ht, hs, hf]

end Operations

end IotMonitoring
