import Mathlib.Data.Fin.Basic
import IotMonitoring.Shared.Mutexes
import IotMonitoring.Server.Interleaving

/-!
# The critical sections of `state.c`

What each operation does between `pthread_mutex_lock` and
`pthread_mutex_unlock`, as single reads and writes of `g_state`: the scans go
from slot to slot, records are read and written field by field. Run without
interruption, a section is the operation of `State`.
-/

namespace IotMonitoring

open ByteStrings Binary64 Mutexes
set_option autoImplicit false

/-! ## Scans -/

/-- The loop that looks for an occupied slot with the id. -/
def scanFor (id : Bytes) : List (Fin maxSensors) → Accesses GlobalState (Option (Fin maxSensors))
  | [] => pure none
  | i :: rest => do
    let active ← Accesses.get fun g => (g.sensors i).active
    if active then
      let stored ← Accesses.get fun g => (g.sensors i).id.text
      if stored = id then pure (some i) else scanFor id rest
    else scanFor id rest

/-- The loop that looks for a free slot. -/
def scanFree : List (Fin maxSensors) → Accesses GlobalState (Option (Fin maxSensors))
  | [] => pure none
  | i :: rest => do
    let active ← Accesses.get fun g => (g.sensors i).active
    if active then scanFree rest else pure (some i)

theorem scanFor_run (id : Bytes) (is : List (Fin maxSensors)) (g : GlobalState) :
    (scanFor id is).run g =
      (is.find? fun i => (g.sensors i).active && decide ((g.sensors i).id.text = id), g) := by
  induction is with
  | nil => rfl
  | cons i is ih =>
    simp only [scanFor, Accesses.run_get_bind]
    cases ha : (g.sensors i).active with
    | false =>
      rw [List.find?_cons_of_neg (by rw [ha, Bool.false_and]; exact Bool.false_ne_true)]
      exact ih
    | true =>
      by_cases hid : (g.sensors i).id.text = id
      · rw [List.find?_cons_of_pos (by rw [ha, Bool.true_and]; exact decide_eq_true hid)]
        simp only [if_true, Accesses.run_get_bind, if_pos hid, Accesses.run_pure]
      · rw [List.find?_cons_of_neg (by rw [ha, Bool.true_and, decide_eq_true_eq]; exact hid)]
        simp only [if_true, Accesses.run_get_bind, if_neg hid]
        exact ih

theorem scanFree_run (is : List (Fin maxSensors)) (g : GlobalState) :
    (scanFree is).run g = (is.find? fun i => ! (g.sensors i).active, g) := by
  induction is with
  | nil => rfl
  | cons i is ih =>
    simp only [scanFree, Accesses.run_get_bind]
    cases ha : (g.sensors i).active with
    | false =>
      rw [List.find?_cons_of_pos (by rw [ha]; rfl)]
      rfl
    | true =>
      rw [List.find?_cons_of_neg (by rw [ha]; exact Bool.false_ne_true)]
      exact ih

/-- The scan of all slots. -/
def findSlot (id : Bytes) : Accesses GlobalState (Option (Fin maxSensors)) :=
  scanFor id (List.finRange maxSensors)

@[simp] theorem findSlot_run (id : Bytes) (g : GlobalState) :
    (findSlot id).run g = (g.slotOf id, g) := by
  rw [findSlot, scanFor_run, GlobalState.slotOf, SlotTable.find, Fin.find?_eq_find?_finRange]

theorem scanFree_all (g : GlobalState) :
    (scanFree (List.finRange maxSensors)).run g = (g.freeSlot, g) := by
  rw [scanFree_run, GlobalState.freeSlot, SlotTable.free, Fin.find?_eq_find?_finRange]

/-! ## Writes -/

/-- Assign to a field of a sensor. -/
def setField (i : Fin maxSensors) (f : Sensor → Sensor) : Accesses GlobalState Unit :=
  Accesses.set fun g => g.setSensor i (f (g.sensors i))

theorem setSensor_idem (g : GlobalState) (i : Fin maxSensors) (s s' : Sensor) :
    (g.setSensor i s).setSensor i s' = g.setSensor i s' := by
  simp only [GlobalState.setSensor, Function.update_idem]

/-- Assign to a field of the entry at an index of a circular table. -/
def CircularTable.setEntry {α : Type} {N : Nat} (slot : Nat) (f : α → α) (t : CircularTable α N) :
    CircularTable α N :=
  { t with slots := fun i => if i.val = slot then f (t.slots i) else t.slots i }

/-- A circular table of the state. -/
structure TableField (α : Type) (N : Nat) where
  look : GlobalState → CircularTable α N
  put : CircularTable α N → GlobalState → GlobalState
  look_put : ∀ t g, look (put t g) = t
  put_put : ∀ t t' g, put t (put t' g) = put t g

def metricsField : TableField Metric maxMetrics where
  look := (·.metrics)
  put t g := { g with metrics := t }
  look_put _ _ := rfl
  put_put _ _ _ := rfl

def alertsField : TableField Alert maxAlerts where
  look := (·.alerts)
  put t g := { g with alerts := t }
  look_put _ _ := rfl
  put_put _ _ _ := rfl

namespace TableField
variable {α : Type} {N : Nat} (field : TableField α N)

def update (f : CircularTable α N → CircularTable α N) : Accesses GlobalState Unit :=
  Accesses.set fun g => field.put (f (field.look g)) g

/-- The fields of the entry at `slot`, one after the other. -/
def setFields (slot : Nat) : List (α → α) → Accesses GlobalState Unit
  | [] => pure ()
  | f :: fs => do
    field.update (.setEntry slot f)
    setFields slot fs

/-- The end of `state_add_metric` and of `state_add_alert`: fill the entry at the write index, then
move the index and the count. -/
def append (fields : List (α → α)) : Accesses GlobalState Unit := do
  let slot ← Accesses.get fun g => (field.look g).next
  field.setFields slot fields
  let next ← Accesses.get fun g => (field.look g).next
  field.update fun t => { t with next := (next + 1) % N }
  let count ← Accesses.get fun g => (field.look g).count
  if count < N then
    let count ← Accesses.get fun g => (field.look g).count
    field.update fun t => { t with count := count + 1 }
  else pure ()

@[simp] theorem update_run (f : CircularTable α N → CircularTable α N) (g : GlobalState) :
    (field.update f).run g = ((), field.put (f (field.look g)) g) := rfl

theorem setFields_run (slot : Nat) (fields : List (α → α)) (g : GlobalState)
    (hne : fields ≠ []) : (field.setFields slot fields).run g = ((), field.put
      ((field.look g).setEntry slot fun a => fields.foldl (fun b f => f b) a) g) := by
  induction fields generalizing g with
  | nil => exact absurd rfl hne
  | cons f fields ih =>
    simp only [setFields, Accesses.run_bind, update_run]
    cases fields with
    | nil => rfl
    | cons f' fields =>
      rw [ih _ (List.cons_ne_nil f' fields), field.look_put, field.put_put]
      congr 2
      simp only [CircularTable.setEntry, CircularTable.mk.injEq, and_true]
      funext i
      by_cases hi : i.val = slot
      · simp only [if_pos hi, List.foldl_cons]
      · simp only [if_neg hi]

/-- Where the assignments fill the whole entry, it has been pushed. -/
theorem append_run (fields : List (α → α)) (g : GlobalState) (hne : fields ≠ []) {a : α}
    (hfull : ∀ b, fields.foldl (fun b f => f b) b = a) :
    (field.append fields).run g = ((), field.put ((field.look g).push a) g) := by
  have hentry : (field.look g).setEntry (field.look g).next (fun b =>
      fields.foldl (fun b f => f b) b) = ⟨fun i => if i.val = (field.look g).next then a
        else (field.look g).slots i, (field.look g).count, (field.look g).next⟩ := by
    simp only [CircularTable.setEntry, hfull]
  have hfill := field.setFields_run (field.look g).next fields g hne
  rw [hentry] at hfill
  rw [append, Accesses.run_get_bind, Accesses.run_bind_of hfill, Accesses.run_get_bind,
    Accesses.run_bind_of (field.update_run _ _), Accesses.run_get_bind]
  simp only [field.look_put, field.put_put]
  by_cases hcount : (field.look g).count < N
  · rw [if_pos hcount, Accesses.run_get_bind, field.update_run]
    simp only [field.look_put, field.put_put, CircularTable.push, if_pos hcount]
  · rw [if_neg hcount]
    simp only [Accesses.run_pure, CircularTable.push, if_neg hcount]

end TableField

/-! ## The sections -/

def registerSection (id : Bytes) (type : SensorType) : Accesses GlobalState RegisterResult :=
  if type = .invalid then pure .invalidType
  else do
    match ← findSlot id with
    | some i =>
      let status ← Accesses.get fun g => (g.sensors i).status
      if status = .inactive then
        setField i fun s => { s with status := .active }
        pure .ok
      else pure .alreadyExists
    | none =>
      match ← scanFree (List.finRange maxSensors) with
      | none => pure .tableFull
      | some slot =>
        setField slot fun _ => Sensor.zero
        setField slot fun s => { s with id := safeStrncpy id }
        setField slot fun s => { s with type := type }
        setField slot fun s => { s with status := .active }
        setField slot fun s => { s with alertLevel := .normal }
        setField slot fun s => { s with lastValue := ofNat 0 }
        setField slot fun s => { s with active := true }
        setField slot fun s => { s with lastTimestamp := safeStrncpy (ascii "N/A") }
        let count ← Accesses.get (·.sensorCount)
        Accesses.set fun g => { g with sensorCount := count + 1 }
        pure .ok

/-- `*found = g_state.sensors[i]`, field by field. -/
def copySensor (i : Fin maxSensors) : Accesses GlobalState Sensor := do
  let id ← Accesses.get fun g => (g.sensors i).id
  let type ← Accesses.get fun g => (g.sensors i).type
  let status ← Accesses.get fun g => (g.sensors i).status
  let alertLevel ← Accesses.get fun g => (g.sensors i).alertLevel
  let lastValue ← Accesses.get fun g => (g.sensors i).lastValue
  let lastTimestamp ← Accesses.get fun g => (g.sensors i).lastTimestamp
  let active ← Accesses.get fun g => (g.sensors i).active
  pure ⟨id, type, status, alertLevel, lastValue, lastTimestamp, active⟩

def findSection (id : Bytes) : Accesses GlobalState (Option (Fin maxSensors × Sensor)) := do
  match ← findSlot id with
  | none => pure none
  | some i =>
    let found ← copySensor i
    pure (some (i, found))

/-- The assignments that fill the entry of a metric. -/
def metricFields (sensorId : Bytes) (value : Double) (timestamp typeStr : Bytes) :
    List (Metric → Metric) :=
  [fun m => { m with sensorId := safeStrncpy sensorId }, fun m => { m with value := value },
    fun m => { m with timestamp := safeStrncpy timestamp },
    fun m => { m with typeStr := safeStrncpy typeStr }]

/-- The assignments that fill the entry of an alert. -/
def alertFields (sensorId : Bytes) (value threshold : Double) (timestamp typeStr message : Bytes) :
    List (Alert → Alert) :=
  [fun a => { a with sensorId := safeStrncpy sensorId }, fun a => { a with value := value },
    fun a => { a with threshold := threshold },
    fun a => { a with timestamp := safeStrncpy timestamp },
    fun a => { a with typeStr := safeStrncpy typeStr },
    fun a => { a with message := safeStrncpy message }]

def addMetricSection (sensorId : Bytes) (value : Double) (timestamp typeStr : Bytes) :
    Accesses GlobalState Bool := do
  match ← findSlot sensorId with
  | none => pure false
  | some i =>
    setField i fun s => { s with lastValue := value }
    setField i fun s => { s with lastTimestamp := safeStrncpy timestamp }
    metricsField.append (metricFields sensorId value timestamp typeStr)
    pure true

def addAlertSection (sensorId : Bytes) (value threshold : Double)
    (timestamp typeStr message : Bytes) : Accesses GlobalState Unit :=
  alertsField.append (alertFields sensorId value threshold timestamp typeStr message)

/-- `state_deactivate_sensor` and `state_set_alert_level` assign one field of the sensor found. -/
def assignSection (id : Bytes) (f : Sensor → Sensor) : Accesses GlobalState Bool := do
  match ← findSlot id with
  | none => pure false
  | some i =>
    setField i f
    pure true

def deactivateSection (id : Bytes) : Accesses GlobalState Bool :=
  assignSection id fun s => { s with status := .inactive }

def setAlertLevelSection (id : Bytes) (level : AlertLevel) : Accesses GlobalState Bool :=
  assignSection id fun s => { s with alertLevel := level }

/-! ## The sections are the operations -/

section Run
variable (g : GlobalState)

@[simp] theorem setField_run (i : Fin maxSensors) (f : Sensor → Sensor) :
    (setField i f).run g = ((), g.setSensor i (f (g.sensors i))) := rfl

@[simp] theorem copySensor_run (i : Fin maxSensors) : (copySensor i).run g = (g.sensors i, g) := rfl

@[simp] theorem registerSection_run (id : Bytes) (type : SensorType) :
    (registerSection id type).run g = stateRegisterSensor id type g := by
  unfold registerSection stateRegisterSensor
  by_cases ht : type = .invalid
  · simp only [if_pos ht, Accesses.run_pure]
  · simp only [if_neg ht, Accesses.run_bind, findSlot_run]
    cases g.slotOf id with
    | some i =>
      simp only [Accesses.run_get_bind]
      by_cases hs : (g.sensors i).status = .inactive
      · simp only [if_pos hs, Accesses.run_bind, setField_run, Accesses.run_pure]
      · simp only [if_neg hs, Accesses.run_pure]
    | none =>
      simp only [Accesses.run_bind, scanFree_all]
      cases g.freeSlot with
      | none => rfl
      | some slot =>
        -- the assignments are to one record, which they fill
        simp only [Accesses.run_bind, setField_run, Accesses.run_get, Accesses.run_set,
          Accesses.run_pure, setSensor_idem, setSensor_sensors, Function.update_self]
        rfl

@[simp] theorem findSection_run (id : Bytes) :
    (findSection id).run g = stateFindSensor id g := by
  simp only [findSection, stateFindSensor, Accesses.run_bind, findSlot_run]
  cases g.slotOf id with
  | none => rfl
  | some i => rfl

@[simp] theorem addMetricSection_run (sensorId : Bytes) (value : Double)
    (timestamp typeStr : Bytes) : (addMetricSection sensorId value timestamp typeStr).run g =
      stateAddMetric sensorId value timestamp typeStr g := by
  simp only [addMetricSection, Accesses.run_bind, findSlot_run]
  cases hs : g.slotOf sensorId with
  | none =>
    rw [stateAddMetric_missing hs]
    rfl
  | some i =>
    rw [stateAddMetric_found hs]
    have hfill : ∀ g, (metricsField.append (metricFields sensorId value timestamp typeStr)).run g =
        ((), metricsField.put ((metricsField.look g).push ⟨safeStrncpy sensorId, value,
          safeStrncpy timestamp, safeStrncpy typeStr⟩) g) :=
      fun g => metricsField.append_run _ g (List.cons_ne_nil _ _) fun _ => rfl
    simp only [Accesses.run_bind, setField_run, setSensor_idem, setSensor_sensors,
      Function.update_self, hfill, Accesses.run_pure]
    rfl

@[simp] theorem addAlertSection_run (sensorId : Bytes) (value threshold : Double)
    (timestamp typeStr message : Bytes) :
    (addAlertSection sensorId value threshold timestamp typeStr message).run g =
      stateAddAlert sensorId value threshold timestamp typeStr message g :=
  alertsField.append_run (alertFields sensorId value threshold timestamp typeStr message) g
    (List.cons_ne_nil _ _) fun _ => rfl

theorem assignSection_run (id : Bytes) (f : Sensor → Sensor) :
    (assignSection id f).run g = g.updateSensor id f := by
  simp only [assignSection, GlobalState.updateSensor, Accesses.run_bind, findSlot_run]
  cases g.slotOf id with
  | none => rfl
  | some i => rfl

@[simp] theorem deactivateSection_run (id : Bytes) :
    (deactivateSection id).run g = stateDeactivateSensor id g := assignSection_run g id _

@[simp] theorem setAlertLevelSection_run (id : Bytes) (level : AlertLevel) :
    (setAlertLevelSection id level).run g = stateSetAlertLevel id level g := assignSection_run g id _

end Run

/-! ## The sections of the handlers -/

/-- The critical section a phase enters, with the phase it leads to. -/
def Phase.accesses : Phase → Option (Accesses GlobalState Phase)
  | .register id type => some do
    let result ← registerSection id type
    pure (.answered (registerReply id result) false)
  | .findMetric id valueStr timestamp => some do
    let found ← findSection id
    match checkMetric valueStr timestamp found with
    | .error resp => pure (.answered resp false)
    | .ok (value, type) => pure (.addMetric id value timestamp type)
  | .addMetric id value timestamp type => some do
    let added ← addMetricSection id value timestamp (sensorTypeToStr type)
    if added then pure (.evaluate id value timestamp type) else pure (.answered internalError false)
  | .addAlert id value threshold timestamp type message => some do
    addAlertSection id value threshold timestamp (sensorTypeToStr type) message
    pure (.setLevel id .alert)
  | .setLevel id level => some do
    let _ ← setAlertLevelSection id level
    pure (.answered metricOk false)
  | .findStatus id => some do
    let found ← findSection id
    pure (.answered (statusReply found) false)
  | .deactivate id => some do
    let _ ← deactivateSection id
    pure (.answered bye true)
  | .answered _ _ => none

theorem accesses_none {φ : Phase} : φ.accesses = none ↔ φ.call = none := by
  cases φ <;> simp only [Phase.accesses, Phase.call, reduceCtorEq]

/-- Run whole, a section makes the call of its phase and leads to the next one. -/
theorem accesses_run {φ : Phase} {p : Accesses GlobalState Phase} (h : φ.accesses = some p) :
    ∃ call, φ.call = some call ∧ ∀ g, p.run g = (φ.next g, call.exec g) := by
  cases φ with
  | register id type =>
    cases h
    refine ⟨_, rfl, fun g => ?_⟩
    simp only [Accesses.run_bind, registerSection_run, Accesses.run_pure]
    rfl
  | findMetric id valueStr timestamp =>
    cases h
    refine ⟨_, rfl, fun g => ?_⟩
    simp only [Accesses.run_bind, findSection_run, Phase.next]
    cases checkMetric valueStr timestamp (stateFindSensor id g).1 with
    | error resp => rfl
    | ok checked => rfl
  | addMetric id value timestamp type =>
    cases h
    refine ⟨_, rfl, fun g => ?_⟩
    simp only [Accesses.run_bind, addMetricSection_run, Phase.next]
    split <;> rfl
  | addAlert id value threshold timestamp type message =>
    cases h
    refine ⟨_, rfl, fun g => ?_⟩
    simp only [Accesses.run_bind, addAlertSection_run, Accesses.run_pure]
    rfl
  | setLevel id level =>
    cases h
    refine ⟨_, rfl, fun g => ?_⟩
    simp only [Accesses.run_bind, setAlertLevelSection_run, Accesses.run_pure]
    rfl
  | findStatus id =>
    cases h
    refine ⟨_, rfl, fun g => ?_⟩
    simp only [Accesses.run_bind, findSection_run, Accesses.run_pure]
    rfl
  | deactivate id =>
    cases h
    refine ⟨_, rfl, fun g => ?_⟩
    simp only [Accesses.run_bind, deactivateSection_run, Accesses.run_pure]
    rfl
  | answered resp leave => cases h

/-! ## How long the lock is held -/

/-- The longest section: two full scans and a new sensor. -/
def sectionBound : Nat := 3 * maxSensors + 10

section Accesses
variable (g : GlobalState)

theorem scanFor_accesses (id : Bytes) (is : List (Fin maxSensors)) :
    (scanFor id is).accesses g ≤ 2 * is.length := by
  induction is with
  | nil => exact Nat.le_refl 0
  | cons i is ih =>
    simp only [scanFor, Accesses.accesses_get_bind, List.length_cons]
    split
    · rw [Accesses.accesses_get_bind]
      split
      · rw [Accesses.accesses_pure]
        omega
      · omega
    · omega

theorem scanFree_accesses (is : List (Fin maxSensors)) : (scanFree is).accesses g ≤ is.length := by
  induction is with
  | nil => exact Nat.le_refl 0
  | cons i is ih =>
    simp only [scanFree, Accesses.accesses_get_bind, List.length_cons]
    split
    · omega
    · rw [Accesses.accesses_pure]
      omega

theorem findSlot_accesses (id : Bytes) : (findSlot id).accesses g ≤ 2 * maxSensors := by
  have hscan := scanFor_accesses g id (List.finRange maxSensors)
  rw [List.length_finRange] at hscan
  exact hscan

theorem TableField.setFields_accesses {α : Type} {N : Nat} (field : TableField α N) (slot : Nat)
    (fields : List (α → α)) : (field.setFields slot fields).accesses g = fields.length := by
  induction fields generalizing g with
  | nil => rfl
  | cons f fields ih =>
    rw [TableField.setFields, Accesses.accesses_bind, ih, TableField.update, Accesses.accesses_set,
      List.length_cons, Nat.add_comm]

theorem TableField.append_accesses {α : Type} {N : Nat} (field : TableField α N)
    (fields : List (α → α)) : (field.append fields).accesses g ≤ fields.length + 6 := by
  unfold TableField.append
  rw [Accesses.accesses_get_bind, Accesses.accesses_bind, field.setFields_accesses,
    Accesses.accesses_get_bind, Accesses.accesses_bind, Accesses.accesses_get_bind]
  split
  · rw [Accesses.accesses_get_bind]
    simp only [TableField.update, Accesses.accesses_set]
    omega
  · rw [Accesses.accesses_pure, TableField.update, Accesses.accesses_set]
    omega

theorem registerSection_accesses (id : Bytes) (type : SensorType) :
    (registerSection id type).accesses g ≤ sectionBound := by
  have hfind := findSlot_accesses g id
  have hfree := scanFree_accesses g (List.finRange maxSensors)
  rw [List.length_finRange] at hfree
  unfold registerSection sectionBound
  split
  · rw [Accesses.accesses_pure]
    omega
  · rw [Accesses.accesses_bind_of (findSlot_run id g)]
    cases g.slotOf id with
    | some i =>
      simp only [Accesses.accesses_get_bind]
      split
      · simp only [setField, Accesses.accesses_bind, Accesses.accesses_set, Accesses.accesses_pure]
        omega
      · rw [Accesses.accesses_pure]
        omega
    | none =>
      rw [Accesses.accesses_bind_of (scanFree_all g)]
      cases g.freeSlot with
      | none =>
        simp only [Accesses.accesses_pure]
        omega
      | some slot =>
        simp only [setField, Accesses.accesses_bind, Accesses.accesses_set, Accesses.accesses_get,
          Accesses.accesses_pure]
        omega

theorem findSection_accesses (id : Bytes) : (findSection id).accesses g ≤ sectionBound := by
  have hfind := findSlot_accesses g id
  unfold findSection sectionBound
  rw [Accesses.accesses_bind_of (findSlot_run id g)]
  cases g.slotOf id with
  | none =>
    simp only [Accesses.accesses_pure]
    omega
  | some i =>
    simp only [copySensor, Accesses.accesses_bind, Accesses.accesses_get, Accesses.accesses_pure]
    omega

theorem addMetricSection_accesses (sensorId : Bytes) (value : Double) (timestamp typeStr : Bytes) :
    (addMetricSection sensorId value timestamp typeStr).accesses g ≤ sectionBound := by
  have hfind := findSlot_accesses g sensorId
  have happend : ∀ g, (metricsField.append (metricFields sensorId value timestamp typeStr)).accesses g ≤
      10 := fun g => metricsField.append_accesses g _
  unfold addMetricSection sectionBound
  rw [Accesses.accesses_bind_of (findSlot_run sensorId g)]
  cases g.slotOf sensorId with
  | none =>
    simp only [Accesses.accesses_pure]
    omega
  | some i =>
    simp only [setField, Accesses.accesses_bind, Accesses.accesses_set, Accesses.accesses_pure]
    have hlast := happend ((setField i fun s => { s with lastTimestamp := safeStrncpy timestamp }).run
      ((setField i fun s => { s with lastValue := value }).run g).2).2
    have hmax : maxSensors = 64 := rfl
    simp only [setField] at hlast
    omega

theorem addAlertSection_accesses (sensorId : Bytes) (value threshold : Double)
    (timestamp typeStr message : Bytes) :
    (addAlertSection sensorId value threshold timestamp typeStr message).accesses g ≤
      sectionBound := by
  have happend := alertsField.append_accesses g
    (alertFields sensorId value threshold timestamp typeStr message)
  have hlength : (alertFields sensorId value threshold timestamp typeStr message).length = 6 := rfl
  have hmax : maxSensors = 64 := rfl
  unfold addAlertSection sectionBound
  omega

theorem assignSection_accesses (id : Bytes) (f : Sensor → Sensor) :
    (assignSection id f).accesses g ≤ sectionBound := by
  have hfind := findSlot_accesses g id
  unfold assignSection sectionBound
  rw [Accesses.accesses_bind_of (findSlot_run id g)]
  cases g.slotOf id with
  | none =>
    simp only [Accesses.accesses_pure]
    omega
  | some i =>
    simp only [setField, Accesses.accesses_bind, Accesses.accesses_set, Accesses.accesses_pure]
    omega

end Accesses

/-- No section makes more accesses than that. -/
theorem accesses_le {φ : Phase} {p : Accesses GlobalState Phase} (h : φ.accesses = some p)
    (g : GlobalState) : p.accesses g ≤ sectionBound := by
  cases φ with
  | register id type =>
    cases h
    simpa only [Accesses.accesses_bind, Accesses.accesses_pure, Nat.add_zero] using
      registerSection_accesses g id type
  | findMetric id valueStr timestamp =>
    cases h
    rw [Accesses.accesses_bind]
    have hfind := findSection_accesses g id
    split
    · exact hfind
    · exact hfind
  | addMetric id value timestamp type =>
    cases h
    rw [Accesses.accesses_bind]
    have hadd := addMetricSection_accesses g id value timestamp (sensorTypeToStr type)
    split
    · exact hadd
    · exact hadd
  | addAlert id value threshold timestamp type message =>
    cases h
    simpa only [Accesses.accesses_bind, Accesses.accesses_pure, Nat.add_zero] using
      addAlertSection_accesses g id value threshold timestamp (sensorTypeToStr type) message
  | setLevel id level =>
    cases h
    rw [Accesses.accesses_bind]
    exact assignSection_accesses g id _
  | findStatus id =>
    cases h
    simpa only [Accesses.accesses_bind, Accesses.accesses_pure, Nat.add_zero] using
      findSection_accesses g id
  | deactivate id =>
    cases h
    rw [Accesses.accesses_bind]
    exact assignSection_accesses g id _
  | answered resp leave => cases h

end IotMonitoring
