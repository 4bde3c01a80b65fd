import IotMonitoring.Server.Identity
import IotMonitoring.Server.Refinement

/-!
# Sensors do not interfere

What a command about an id can see of the shared state is `sensorOf`, the copy
of the sensor found under it. Commands about the id answer alike and keep the
copies alike in two states that agree on it, and a command about another id
leaves the copy alone, unless it stores that other id, cut to its field, under
this one. Only an id that fills its field exactly can be hit.
-/

namespace IotMonitoring

open ByteStrings Binary64 Program
set_option autoImplicit false

/-- The copy of the sensor found under the id. -/
def sensorOf (id : Bytes) (g : GlobalState) : Option Sensor := (g.slotOf id).map g.sensors

def SameSensor (id : Bytes) (g h : GlobalState) : Prop := sensorOf id g = sensorOf id h

section Views
variable {id id' : Bytes} {g h : GlobalState}

theorem sensorOf_congr (hsens : g.sensors = h.sensors) : sensorOf id g = sensorOf id h := by
  unfold sensorOf GlobalState.slotOf
  rw [hsens]

theorem sensorOf_updateSensor {f : Sensor → Sensor}
    (hf : ∀ s, (f s).active = s.active ∧ (f s).id = s.id) :
    (g.updateSensor id f).1 = (sensorOf id g).isSome ∧
      sensorOf id (g.updateSensor id f).2 = (sensorOf id g).map f := by
  cases hs : g.slotOf id with
  | none =>
    rw [updateSensor_missing hs]
    simp only [sensorOf, hs, Option.map_none, Option.isSome_none, and_self]
  | some i =>
    rw [updateSensor_found hs]
    have hkept : (g.setSensor i (f (g.sensors i))).slotOf id = some i :=
      (slotOf_setSensor (hf _).1 (hf _).2 rfl).trans hs
    simp only [sensorOf, hs, hkept, Option.map_some, Option.isSome_some, setSensor_sensors,
      Function.update_self, and_self]

theorem sensorOf_updateSensor_other (hne : id' ≠ id) {f : Sensor → Sensor}
    (hf : ∀ s, (f s).active = s.active ∧ (f s).id = s.id) :
    sensorOf id (g.updateSensor id' f).2 = sensorOf id g := by
  cases hs : g.slotOf id' with
  | none => rw [updateSensor_missing hs]
  | some j =>
    rw [updateSensor_found hs]
    have hkept : (g.setSensor j (f (g.sensors j))).slotOf id = g.slotOf id :=
      slotOf_setSensor (hf _).1 (hf _).2 rfl
    unfold sensorOf
    rw [hkept]
    cases hid : g.slotOf id with
    | none => rfl
    | some i =>
      have hij : i ≠ j := by
        rintro rfl
        exact hne ((slotOf_id hs).symm.trans (slotOf_id hid))
      simp only [Option.map_some, setSensor_sensors, Function.update_of_ne hij]

theorem stateAddMetric_view (value : Double) (timestamp typeStr : Bytes) :
    (stateAddMetric id value timestamp typeStr g).1 = (g.updateSensor id fun s =>
        { s with lastValue := value, lastTimestamp := safeStrncpy timestamp }).1 ∧
      (stateAddMetric id value timestamp typeStr g).2.sensors = (g.updateSensor id fun s =>
        { s with lastValue := value, lastTimestamp := safeStrncpy timestamp }).2.sensors := by
  cases hs : g.slotOf id with
  | none =>
    rw [stateAddMetric_missing hs, updateSensor_missing hs]
    exact ⟨rfl, rfl⟩
  | some i =>
    rw [stateAddMetric_found hs, updateSensor_found hs]
    exact ⟨rfl, rfl⟩

end Views

/-! ## Commands about the id -/

section Seen
variable {id : Bytes} {g h : GlobalState}

theorem same_updateSensor (hgh : SameSensor id g h) {f : Sensor → Sensor}
    (hf : ∀ s, (f s).active = s.active ∧ (f s).id = s.id) :
    (g.updateSensor id f).1 = (h.updateSensor id f).1 ∧
      SameSensor id (g.updateSensor id f).2 (h.updateSensor id f).2 := by
  unfold SameSensor at hgh ⊢
  rw [(sensorOf_updateSensor hf).1, (sensorOf_updateSensor hf).1, (sensorOf_updateSensor hf).2,
    (sensorOf_updateSensor hf).2, hgh]
  exact ⟨rfl, rfl⟩

theorem alike_setLevel (level : AlertLevel) :
    Alike (SameSensor id) (call (stateSetAlertLevel id level)) :=
  alike_call fun _ _ hgh => same_updateSensor hgh fun _ => ⟨rfl, rfl⟩

theorem alike_evaluate (value : Double) (type : SensorType) (timestamp : Bytes) :
    Alike (SameSensor id) (alertsEvaluate id value type timestamp) := by
  unfold alertsEvaluate
  split
  · apply alike_bind
    · exact alike_call fun _ _ hgh => ⟨rfl, hgh⟩
    · exact fun _ => alike_bind (alike_setLevel .alert) fun _ => alike_pure true
  · exact alike_bind (alike_setLevel .normal) fun _ => alike_pure false

theorem alike_record (value : Double) (timestamp : Bytes) (type : SensorType) :
    Alike (SameSensor id) (recordMetric id value timestamp type) := by
  unfold recordMetric
  apply alike_bind
  · apply alike_call
    intro g h hgh
    have hsame := same_updateSensor hgh (f := fun s =>
      { s with lastValue := value, lastTimestamp := safeStrncpy timestamp }) fun _ => ⟨rfl, rfl⟩
    refine ⟨?_, ?_⟩
    · rw [(stateAddMetric_view value timestamp _).1, (stateAddMetric_view value timestamp _).1]
      exact hsame.1
    · unfold SameSensor
      rw [sensorOf_congr (stateAddMetric_view value timestamp _).2,
        sensorOf_congr (stateAddMetric_view value timestamp _).2]
      exact hsame.2
  · intro stored
    cases stored with
    | false => exact alike_pure internalError
    | true => exact alike_bind (alike_evaluate value type timestamp) fun _ => alike_pure metricOk

/-- A reply that does not use the index found is the same for both states. -/
theorem alike_find {β : Type} {f : Option (Fin maxSensors × Sensor) → Program GlobalState β}
    (hindex : ∀ i j s, f (some (i, s)) = f (some (j, s))) (hf : ∀ a, Alike (SameSensor id) (f a)) :
    Alike (SameSensor id) (call (stateFindSensor id) >>= f) := by
  refine alike_call_bind (fun g h hgh => ⟨?_, hgh⟩) hf
  unfold SameSensor sensorOf at hgh
  simp only [stateFindSensor]
  cases hg : g.slotOf id with
  | none =>
    rw [hg, Option.map_none, eq_comm, Option.map_eq_none_iff] at hgh
    rw [hgh]
    rfl
  | some i =>
    rw [hg, Option.map_some, eq_comm] at hgh
    obtain ⟨j, hj, heq⟩ := Option.map_eq_some_iff.mp hgh
    rw [hj, Option.map_some, Option.map_some, heq]
    exact hindex i j _

theorem alike_metric (command : Bytes) (args : List Bytes) :
    Alike (SameSensor id) (handleMetric (command :: id :: args)) := by
  unfold handleMetric
  split
  · rename_i valueStr timestamp heq
    cases heq
    apply alike_find
    · exact fun _ _ _ => rfl
    · intro found
      cases checkMetric valueStr timestamp found with
      | error resp => exact alike_pure resp
      | ok checked => exact alike_record checked.1 timestamp checked.2
  · exact alike_pure badRequest

theorem alike_status (command : Bytes) (args : List Bytes) :
    Alike (SameSensor id) (handleStatus (command :: id :: args)) := by
  unfold handleStatus
  split
  · rename_i heq
    cases heq
    exact alike_find (fun _ _ _ => rfl) fun found => alike_pure (statusReply found)
  · exact alike_pure badRequest

theorem alike_ping (ts : List Bytes) : Alike (SameSensor id) (handlePing ts) := by
  unfold handlePing
  split
  · exact alike_pure pong
  · exact alike_pure badRequest

theorem alike_quit (command : Bytes) (args : List Bytes) :
    Alike (SameSensor id) (handleQuit (command :: id :: args)) := by
  unfold handleQuit
  split
  · rename_i heq
    cases heq
    apply alike_bind
    · exact alike_call fun _ _ hgh => same_updateSensor hgh fun _ => ⟨rfl, rfl⟩
    · exact fun _ => alike_pure (bye, true)
  · exact alike_pure (badRequest, false)

theorem alike_staying {p : Program GlobalState Bytes} (hp : Alike (SameSensor id) p) :
    Alike (SameSensor id) (staying p) := alike_bind hp fun resp => alike_pure (resp, false)

/-- Only a REGISTER looks at more than the copy. -/
theorem alike_tokens {command : Bytes} (hcommand : command ≠ ascii "REGISTER") (args : List Bytes) :
    Alike (SameSensor id) (handleTokens (command :: id :: args)) := by
  rcases handleTokens_cases command (id :: args) with ⟨hc, -⟩ | ⟨-, hp⟩ | ⟨-, hp⟩ | ⟨-, hp⟩ |
    ⟨-, hp⟩ | ⟨-, hp⟩
  · exact absurd hc hcommand
  · rw [hp]
    exact alike_staying (alike_metric command args)
  · rw [hp]
    exact alike_staying (alike_status command args)
  · rw [hp]
    exact alike_staying (alike_ping _)
  · rw [hp]
    exact alike_quit command args
  · rw [hp]
    exact alike_pure (badRequest, false)

/-- A registration while a slot is free, as seen on the copy. -/
def registeredView (id : Bytes) (type : SensorType) : Option Sensor → RegisterResult × Option Sensor
  | some s =>
    if s.status = .inactive then (.ok, some { s with status := .active })
    else (.alreadyExists, some s)
  | none => (.ok, if id.length < maxIdLen then some (newSensor id type) else none)

theorem newSensor_cut {id : Bytes} (type : SensorType) (hz : (0 : UInt8) ∉ id) :
    (newSensor id type).id.text = id.take (maxIdLen - 1) := by
  change ((cString id).take (maxIdLen - 1)) = _
  rw [cString_eq_self hz]

theorem register_view {type : SensorType} (htype : type ≠ .invalid) (hz : (0 : UInt8) ∉ id)
    (hfree : g.freeSlot ≠ none) : ((stateRegisterSensor id type g).1,
      sensorOf id (stateRegisterSensor id type g).2) = registeredView id type (sensorOf id g) := by
  rcases stateRegisterSensor_cases id type g with ⟨ht, -⟩ | ⟨i, -, hs, hst, hr⟩ |
    ⟨i, -, hs, hst, hr⟩ | ⟨-, -, hf, -⟩ | ⟨i, -, hs, -, hr⟩
  · exact absurd ht htype
  · have hkept : (g.setSensor i { g.sensors i with status := .active }).slotOf id = some i :=
      (slotOf_setSensor (s := { g.sensors i with status := .active }) rfl rfl rfl).trans hs
    rw [hr]
    simp only [sensorOf, hs, hkept, Option.map_some, registeredView, hst, if_true,
      setSensor_sensors, Function.update_self]
  · have hactive : ¬ (g.sensors i).status = .inactive := by
      rw [hst]
      exact nofun
    rw [hr]
    simp only [sensorOf, hs, Option.map_some, registeredView, if_neg hactive]
  · exact absurd hf hfree
  · rw [hr]
    simp only [sensorOf, hs, Option.map_none, registeredView, Prod.mk.injEq, true_and]
    by_cases hfits : id.length < maxIdLen
    · have hfound : ({ g.setSensor i (newSensor id type) with
          sensorCount := g.sensorCount + 1 } : GlobalState).slotOf id = some i :=
        SlotTable.find_update_key hs rfl (newSensor_id type hz hfits)
      rw [if_pos hfits, hfound]
      simp only [Option.map_some, setSensor_sensors, Function.update_self]
    · rw [if_neg hfits, slotOf_overlong (Nat.not_lt.mp hfits), Option.map_none]

/-- What a registration does is decided by the copy, as long as a slot is free. -/
theorem same_register {type : SensorType} (htype : type ≠ .invalid) (hz : (0 : UInt8) ∉ id)
    (hgh : SameSensor id g h) (hg : g.freeSlot ≠ none) (hh : h.freeSlot ≠ none) :
    (stateRegisterSensor id type g).1 = (stateRegisterSensor id type h).1 ∧
      SameSensor id (stateRegisterSensor id type g).2 (stateRegisterSensor id type h).2 := by
  have heq := (register_view htype hz hg).trans
    ((congrArg (registeredView id type) hgh).trans (register_view htype hz hh).symm)
  exact ⟨(Prod.mk.inj heq).1, (Prod.mk.inj heq).2⟩

theorem same_handleRegister (hz : (0 : UInt8) ∉ id) (command : Bytes) {args : List Bytes}
    (hgh : SameSensor id g h) (hg : g.freeSlot ≠ none) (hh : h.freeSlot ≠ none) :
    ((handleRegister (command :: id :: args)).run g).1 =
        ((handleRegister (command :: id :: args)).run h).1 ∧
      SameSensor id ((handleRegister (command :: id :: args)).run g).2
        ((handleRegister (command :: id :: args)).run h).2 := by
  unfold handleRegister
  split
  · rename_i typeStr heq
    cases heq
    split
    · exact ⟨rfl, hgh⟩
    · rename_i htype
      obtain ⟨hresult, hstate⟩ := same_register htype hz hgh hg hh
      simp only [run_bind, run_call, run_pure]
      exact ⟨congrArg (registerReply id) hresult, hstate⟩
  · exact ⟨rfl, hgh⟩

end Seen

/-! ## Commands about other ids -/

section Hidden
variable {id id' : Bytes} {v : Option Sensor}

theorem spared_report (hne : id' ≠ id) (timestamp : Bytes) :
    KeptByReport (fun g => sensorOf id g = v) id' timestamp where
  addMetric value typeStr g hg := by
    have hother : sensorOf id (g.updateSensor id' fun s =>
        { s with lastValue := value, lastTimestamp := safeStrncpy timestamp }).2 = sensorOf id g :=
      sensorOf_updateSensor_other hne fun _ => ⟨rfl, rfl⟩
    rw [sensorOf_congr (stateAddMetric_view value timestamp typeStr).2]
    exact hother.trans hg
  addAlert _ _ _ _ _ hg := hg
  setLevel level g hg := by
    have hother : sensorOf id (stateSetAlertLevel id' level g).2 = sensorOf id g :=
      sensorOf_updateSensor_other hne fun _ => ⟨rfl, rfl⟩
    exact hother.trans hg

theorem spared_metric (hne : id' ≠ id) (command : Bytes) (args : List Bytes) :
    Ensures (fun g => sensorOf id g = v) (fun _ => True) (handleMetric (command :: id' :: args)) := by
  unfold handleMetric
  split
  · rename_i valueStr timestamp heq
    cases heq
    apply ensures_bind (Q := fun _ => True)
    · exact ensures_call fun _ hg => ⟨hg, trivial⟩
    · intro found _
      cases checkMetric valueStr timestamp found with
      | error resp => exact ensures_pure trivial
      | ok checked =>
        exact (spared_report hne timestamp).record trivial trivial checked.1 checked.2
  · exact ensures_pure trivial

theorem spared_status (ts : List Bytes) :
    Ensures (fun g => sensorOf id g = v) (fun _ => True) (handleStatus ts) := by
  unfold handleStatus
  split
  · apply ensures_bind (Q := fun _ => True)
    · exact ensures_call fun _ hg => ⟨hg, trivial⟩
    · exact fun _ _ => ensures_pure trivial
  · exact ensures_pure trivial

theorem spared_ping (ts : List Bytes) :
    Ensures (fun g => sensorOf id g = v) (fun _ => True) (handlePing ts) := by
  unfold handlePing
  split
  · exact ensures_pure trivial
  · exact ensures_pure trivial

theorem spared_quit (hne : id' ≠ id) (command : Bytes) (args : List Bytes) :
    Ensures (fun g => sensorOf id g = v) (fun _ => True) (handleQuit (command :: id' :: args)) := by
  unfold handleQuit
  split
  · rename_i heq
    cases heq
    apply ensures_bind (Q := fun _ => True)
    · apply ensures_call
      intro g hg
      have hkept := sensorOf_updateSensor_other (g := g) hne
        (f := fun s => { s with status := .inactive }) fun _ => ⟨rfl, rfl⟩
      exact ⟨hkept.trans hg, trivial⟩
    · exact fun _ _ => ensures_pure trivial
  · exact ensures_pure trivial

/-- A registration of an id whose first 63 bytes are another text. -/
theorem sensorOf_register_other {type : SensorType} {g : GlobalState} (hne : id' ≠ id)
    (hz : (0 : UInt8) ∉ id') (hcut : type ≠ .invalid → id'.take (maxIdLen - 1) ≠ id) :
    sensorOf id (stateRegisterSensor id' type g).2 = sensorOf id g := by
  rcases stateRegisterSensor_cases id' type g with ⟨-, hr⟩ | ⟨i, -, hs, -, hr⟩ | ⟨i, -, -, -, hr⟩ |
    ⟨-, -, -, hr⟩ | ⟨i, htype, -, hfree, hr⟩
  · rw [hr]
  · have hupd := sensorOf_updateSensor_other (g := g) hne (f := fun s => { s with status := .active })
      fun _ => ⟨rfl, rfl⟩
    rw [updateSensor_found hs] at hupd
    rw [hr]
    exact hupd
  · rw [hr]
  · rw [hr]
  · have hunused := SlotTable.not_occupied_of_free hfree
    have hkey : (newSensor id' type).id.text ≠ id := by
      rw [newSensor_cut type hz]
      exact hcut htype
    have hfind : ({ g.setSensor i (newSensor id' type) with
        sensorCount := g.sensorCount + 1 } : GlobalState).slotOf id = g.slotOf id :=
      SlotTable.find_update_foreign hunused hkey
    rw [hr]
    unfold sensorOf
    rw [hfind]
    cases hs : g.slotOf id with
    | none => rfl
    | some j =>
      have hij : j ≠ i := by
        rintro rfl
        rw [slotOf_occupied hs] at hunused
        cases hunused
      simp only [Option.map_some, setSensor_sensors, Function.update_of_ne hij]

theorem spared_register (hne : id' ≠ id) (hz : (0 : UInt8) ∉ id') (command : Bytes)
    {args : List Bytes} (hcut : ∀ typeStr, args = [typeStr] → sensorTypeFromStr typeStr ≠ .invalid →
      id'.take (maxIdLen - 1) ≠ id) :
    Ensures (fun g => sensorOf id g = v) (fun _ => True)
      (handleRegister (command :: id' :: args)) := by
  unfold handleRegister
  split
  · rename_i typeStr heq
    cases heq
    split
    · exact ensures_pure trivial
    · apply ensures_bind (Q := fun _ => True)
      · apply ensures_call
        intro g hg
        exact ⟨(sensorOf_register_other hne hz (hcut typeStr rfl)).trans hg, trivial⟩
      · exact fun _ _ => ensures_pure trivial
  · exact ensures_pure trivial

/-- A command about another id leaves the copy alone, unless it stores that id cut to this one. -/
theorem spared_tokens (hne : id' ≠ id) (hz : (0 : UInt8) ∉ id') {command : Bytes} {args : List Bytes}
    (hcut : ∀ typeStr, command = ascii "REGISTER" → args = [typeStr] →
      sensorTypeFromStr typeStr ≠ .invalid → id'.take (maxIdLen - 1) ≠ id) :
    Ensures (fun g => sensorOf id g = v) (fun _ => True) (handleTokens (command :: id' :: args)) := by
  rcases handleTokens_cases command (id' :: args) with ⟨hc, hp⟩ | ⟨-, hp⟩ | ⟨-, hp⟩ | ⟨-, hp⟩ |
    ⟨-, hp⟩ | ⟨-, hp⟩
  · rw [hp]
    apply ensures_staying (Q := fun _ => True)
    exact spared_register hne hz command fun typeStr => hcut typeStr hc
  · rw [hp]
    exact ensures_staying (Q := fun _ => True) (spared_metric hne command args)
  · rw [hp]
    exact ensures_staying (Q := fun _ => True) (spared_status _)
  · rw [hp]
    exact ensures_staying (Q := fun _ => True) (spared_ping _)
  · rw [hp]
    exact spared_quit hne command args
  · rw [hp]
    exact ensures_pure trivial

/-- A line of one word or none changes no copy. -/
theorem spared_bare {ts : List Bytes} (hts : ts[1]? = none) :
    Ensures (fun g => sensorOf id g = v) (fun _ => True) (handleTokens ts) := by
  rcases ts with _ | ⟨command, _ | ⟨id', args⟩⟩
  · exact ensures_pure trivial
  · rcases handleTokens_cases command [] with ⟨-, hp⟩ | ⟨-, hp⟩ | ⟨-, hp⟩ | ⟨-, hp⟩ | ⟨-, hp⟩ | ⟨-, hp⟩
    all_goals
      rw [hp]
      exact ensures_pure trivial
  · cases hts

end Hidden

/-! ## Lines -/

def names (id line : Bytes) : Bool := (tokenize line 8)[1]? == some id

/-- The line registers another id that is cut to this one. -/
def Collides (id line : Bytes) : Prop :=
  ∃ id' typeStr, tokenize line 8 = [ascii "REGISTER", id', typeStr] ∧
    sensorTypeFromStr typeStr ≠ .invalid ∧ id' ≠ id ∧ id'.take (maxIdLen - 1) = id

/-- The sensor table is not full, if the line is a REGISTER of the id. -/
def RoomFor (id : Bytes) (g : GlobalState) (line : Bytes) : Prop :=
  (tokenize line 8).head? = some (ascii "REGISTER") → names id line = true → g.freeSlot ≠ none

theorem sensorOf_hidden {id line : Bytes} (g : GlobalState) (hnames : names id line = false)
    (hcollides : ¬ Collides id line) : sensorOf id (serverMachine line g).2 = sensorOf id g := by
  have hz : ∀ w ∈ tokenize line 8, (0 : UInt8) ∉ w := fun w hw => tokenize_zero_notMem hw
  suffices h : Ensures (fun g' => sensorOf id g' = sensorOf id g) (fun _ => True)
      (handleTokens (tokenize line 8)) from h.run_kept rfl
  rcases hts : tokenize line 8 with _ | ⟨command, _ | ⟨id', args⟩⟩
  · exact spared_bare rfl
  · exact spared_bare rfl
  have hne : id' ≠ id := by
    rintro rfl
    simp [names, hts] at hnames
  have hid : (0 : UInt8) ∉ id' := by
    apply hz
    rw [hts]
    exact List.mem_cons_of_mem _ List.mem_cons_self
  apply spared_tokens hne hid
  rintro typeStr rfl rfl htype hcut
  exact hcollides ⟨id', typeStr, hts, htype, hne, hcut⟩

/-- A line that names the id, in two states that agree on its sensor. -/
theorem same_seen {id line : Bytes} {g h : GlobalState} (hgh : SameSensor id g h)
    (hnames : names id line = true) (hg : RoomFor id g line) (hh : RoomFor id h line) :
    (serverMachine line g).1 = (serverMachine line h).1 ∧
      SameSensor id (serverMachine line g).2 (serverMachine line h).2 := by
  have hz : ∀ w ∈ tokenize line 8, (0 : UInt8) ∉ w := fun w hw => tokenize_zero_notMem hw
  have hsecond : (tokenize line 8)[1]? = some id := by simpa [names] using hnames
  unfold RoomFor at hg hh
  unfold serverMachine handleLine
  generalize tokenize line 8 = ts at hz hsecond hg hh ⊢
  rcases ts with _ | ⟨command, _ | ⟨id', args⟩⟩
  · cases hsecond
  · cases hsecond
  cases hsecond
  by_cases hcommand : command = ascii "REGISTER"
  · have hid : (0 : UInt8) ∉ id := hz id (List.mem_cons_of_mem _ List.mem_cons_self)
    have hfirst : (command :: id :: args).head? = some (ascii "REGISTER") := congrArg some hcommand
    have hp : handleTokens (command :: id :: args) = staying (handleRegister (command :: id :: args)) := by
      rw [handleTokens, if_pos hcommand]
    rw [hp, run_staying, run_staying]
    exact same_handleRegister hid command hgh (hg hfirst hnames) (hh hfirst hnames)
  · obtain ⟨hresult, hstate⟩ := (alike_tokens hcommand args).run hgh
    exact ⟨congrArg (fun reply : Bytes × Bool => reply.1) hresult, hstate⟩

/-! ## Two sequences of commands -/

/-- An id as the lines of a connection can name it. -/
structure SensorId (id : Bytes) : Prop where
  word : IsWord isBlank id
  text : ∀ c ∈ id, c ≠ 0 ∧ c ≠ newline ∧ c ≠ carriageReturn

/-- Two sequences of lines handled one at a time from the initial state, with the same lines naming
the id and room in the table at its REGISTERs. -/
structure SameCommands (id : Bytes) (xs ys : List Bytes) : Prop where
  lines : ∀ line ∈ xs ++ ys, IsLine line
  same : xs.filter (names id) = ys.filter (names id)
  room : Runs.Admits serverMachine (RoomFor id) stateInit xs
  room' : Runs.Admits serverMachine (RoomFor id) stateInit ys

def repliesTo (id : Bytes) (lines : List Bytes) : List Bytes :=
  Runs.outputsOn serverMachine (names id) stateInit lines

/-- Whatever is done about other ids, the replies about this one are the same. -/
def Isolated (id : Bytes) : Prop :=
  ∀ xs ys, SameCommands id xs ys → repliesTo id xs = repliesTo id ys

theorem replies_same {id : Bytes} {xs ys : List Bytes} (h : SameCommands id xs ys)
    (hspared : ∀ line ∈ xs ++ ys, ¬ Collides id line) : repliesTo id xs = repliesTo id ys := by
  apply Runs.outputsOn_eq (SameSensor id) (fun line => ¬ Collides id line)
  · exact Eq.symm
  · exact fun hgh hnames hquiet => hgh.trans (sensorOf_hidden _ hnames hquiet).symm
  · exact fun hgh hnames hg hh => same_seen hgh hnames hg hh
  · rfl
  · exact h.same
  · exact fun line hline => hspared line (List.mem_append_left _ hline)
  · exact fun line hline => hspared line (List.mem_append_right _ hline)
  · exact h.room
  · exact h.room'

/-- Only an id that fills its field can be what a longer one is cut to. -/
theorem length_of_collides {id line : Bytes} (h : Collides id line) : id.length = maxIdLen - 1 := by
  obtain ⟨id', typeStr, -, -, hne, rfl⟩ := h
  rw [List.length_take]
  by_contra hshort
  apply hne
  exact (List.take_of_length_le (by omega)).symm

/-! ## The collision -/

def registerCommand (id : Bytes) : Bytes := joinWords space [ascii "REGISTER", id, ascii "TEMP"]

section Collision
variable {id : Bytes}

theorem SensorId.zero_notMem (h : SensorId id) : (0 : UInt8) ∉ id := fun hz => (h.text 0 hz).1 rfl

theorem tokenize_registerCommand (h : SensorId id) :
    tokenize (registerCommand id) 8 = [ascii "REGISTER", id, ascii "TEMP"] := by
  have hcommand : IsWord isBlank (ascii "REGISTER") ∧ (0 : UInt8) ∉ ascii "REGISTER" := by decide
  have htype : IsWord isBlank (ascii "TEMP") ∧ (0 : UInt8) ∉ ascii "TEMP" := by decide
  apply tokenize_words
  · intro w hw
    simp only [List.mem_cons, List.not_mem_nil, or_false] at hw
    rcases hw with rfl | rfl | rfl
    · exact hcommand
    · exact ⟨h.word, h.zero_notMem⟩
    · exact htype
  · simp only [List.length_cons, List.length_nil]
    omega

theorem isLine_registerCommand (h : SensorId id) (hlen : id.length ≤ maxIdLen) :
    IsLine (registerCommand id) := by
  have hcommand : ∀ c ∈ ascii "REGISTER", c ≠ newline ∧ c ≠ carriageReturn := by decide
  have htype : ∀ c ∈ ascii "TEMP", c ≠ newline ∧ c ≠ carriageReturn := by decide
  have hspace : space ≠ newline ∧ space ≠ carriageReturn := by decide
  have hsize : (registerCommand id).length = 14 + id.length := by
    have hcount : (ascii "REGISTER").length = 8 ∧ (ascii "TEMP").length = 4 := by decide
    simp only [registerCommand, joinWords, List.length_append, List.length_cons, hcount]
    omega
  refine ⟨?_, ?_, ?_⟩
  · intro hnil
    rw [hnil, List.length_nil] at hsize
    omega
  · rw [hsize]
    simp only [maxIdLen, bufferSize] at hlen ⊢
    omega
  · intro c hc
    rcases mem_joinWords hc with rfl | ⟨w, hw, hcw⟩
    · exact hspace
    · simp only [List.mem_cons, List.not_mem_nil, or_false] at hw
      rcases hw with rfl | rfl | rfl
      · exact hcommand c hcw
      · exact (h.text c hcw).2
      · exact htype c hcw

theorem names_registerCommand {id' : Bytes} (h : SensorId id') :
    names id (registerCommand id') = true ↔ id' = id := by
  rw [names, tokenize_registerCommand h]
  simp

theorem serverMachine_register (h : SensorId id) (g : GlobalState) :
    serverMachine (registerCommand id) g =
      (registerReply id (stateRegisterSensor id .temp g).1, (stateRegisterSensor id .temp g).2) := by
  unfold serverMachine handleLine
  rw [tokenize_registerCommand h]
  rfl

theorem slotOf_init (id : Bytes) : stateInit.slotOf id = none := by
  apply SlotTable.find_eq_none_iff.mpr
  intro j hj
  cases hj

theorem register_first (id : Bytes) : ∃ i, stateRegisterSensor id .temp stateInit =
    (.ok, { stateInit.setSensor i (newSensor id .temp) with sensorCount := 1 }) := by
  rcases stateRegisterSensor_cases id .temp stateInit with ⟨ht, -⟩ | ⟨i, -, hs, -⟩ | ⟨i, -, hs, -⟩ |
    ⟨-, -, hfree, -⟩ | ⟨i, -, -, -, hr⟩
  · cases ht
  · rw [slotOf_init] at hs
    cases hs
  · rw [slotOf_init] at hs
    cases hs
  · have hfull := (SlotTable.free_eq_none_iff_full tableOk_init.packed).mp hfree
    exact absurd hfull (by decide)
  · exact ⟨i, hr⟩

theorem freeSlot_of_count {g : GlobalState} (ht : TableOk g) (hcount : g.sensorCount < maxSensors) :
    g.freeSlot ≠ none := by
  intro hfree
  have hfull := (SlotTable.free_eq_none_iff_full ht.packed).mp hfree
  exact absurd hcount (Nat.not_lt.mpr hfull)

/-- A longer id, the same in its first 63 bytes. -/
def longer (id : Bytes) : Bytes := id ++ [97]

theorem SensorId.longer (h : SensorId id) : SensorId (longer id) := by
  refine ⟨⟨by simp [IotMonitoring.longer], ?_⟩, ?_⟩
  · intro c hc
    rcases List.mem_append.mp hc with hc | hc
    · exact h.word.clean c hc
    · rw [List.mem_singleton.mp hc]
      rfl
  · intro c hc
    rcases List.mem_append.mp hc with hc | hc
    · exact h.text c hc
    · rw [List.mem_singleton.mp hc]
      decide

/-- After the longer id, an id that fills its field is refused as known. -/
theorem register_after_longer (h : SensorId id) (hlen : id.length = maxIdLen - 1) :
    (stateRegisterSensor id .temp (stateRegisterSensor (longer id) .temp stateInit).2).1 =
      .alreadyExists := by
  obtain ⟨i, hfirst⟩ := register_first (longer id)
  have hcut : (newSensor (longer id) .temp).id.text = id := by
    rw [newSensor_cut .temp h.longer.zero_notMem, ← hlen, longer, List.take_left]
  have hfound : (stateRegisterSensor (longer id) .temp stateInit).2.slotOf id = some i := by
    rw [hfirst]
    exact SlotTable.find_update_key (slotOf_init id) rfl hcut
  rcases stateRegisterSensor_cases id .temp (stateRegisterSensor (longer id) .temp stateInit).2 with
    ⟨ht, -⟩ | ⟨k, -, hs, hst, -⟩ | ⟨k, -, -, -, hr⟩ | ⟨-, hs, -⟩ | ⟨k, -, hs, -⟩
  · cases ht
  · rw [hfound] at hs
    cases hs
    rw [hfirst] at hst
    simp only [setSensor_sensors, Function.update_self, newSensor, reduceCtorEq] at hst
  · rw [hr]
  · rw [hfound] at hs
    cases hs
  · rw [hfound] at hs
    cases hs

theorem names_longer (h : SensorId id) : names id (registerCommand (longer id)) = false := by
  apply Bool.eq_false_iff.mpr
  intro hsame
  have heq : longer id = id := (names_registerCommand h.longer).mp hsame
  simp [longer] at heq

/-- One REGISTER of the id, with the longer id registered before it or not. -/
theorem sameCommands_longer (h : SensorId id) (hlen : id.length = maxIdLen - 1) :
    SameCommands id [registerCommand (longer id), registerCommand id] [registerCommand id] := by
  have hnames : names id (registerCommand id) = true := (names_registerCommand h).mpr rfl
  have hinit : stateInit.freeSlot ≠ none := freeSlot_of_count tableOk_init (by decide)
  refine ⟨?_, ?_, ?_, ?_⟩
  · intro line hline
    simp only [List.cons_append, List.nil_append, List.mem_cons, List.not_mem_nil, or_false,
      or_self] at hline
    rcases hline with rfl | rfl
    · exact isLine_registerCommand h.longer (by rw [longer, List.length_append, hlen]; decide)
    · exact isLine_registerCommand h (by rw [hlen]; decide)
  · simp only [List.filter_cons, names_longer h, hnames, if_true, Bool.false_eq_true, if_false,
      List.filter_nil]
  · refine ⟨fun _ _ => hinit, fun _ _ => freeSlot_of_count ?_ ?_, trivial⟩
    · rw [serverMachine_register h.longer]
      exact tableOk_exec tableOk_init (.register (longer id) .temp)
    · obtain ⟨i, hfirst⟩ := register_first (longer id)
      have hone : 1 < maxSensors := by decide
      rw [serverMachine_register h.longer, hfirst]
      exact hone
  · exact ⟨fun _ _ => hinit, trivial⟩

theorem not_isolated (h : SensorId id) (hlen : id.length = maxIdLen - 1) : ¬ Isolated id := by
  intro hisolated
  have hreplies := hisolated _ _ (sameCommands_longer h hlen)
  have hnames : names id (registerCommand id) = true := (names_registerCommand h).mpr rfl
  obtain ⟨j, halone⟩ := register_first id
  have hfits : id.length < maxIdLen := by
    rw [hlen]
    decide
  simp only [repliesTo, Runs.outputsOn, names_longer h, hnames, if_true, Bool.false_eq_true,
    if_false, serverMachine_register h, serverMachine_register h.longer,
    register_after_longer h hlen, halone, registerReply_ok hfits, List.cons.injEq,
    and_true] at hreplies
  have hrefused : (snprintf bufferSize sensorAlreadyExists).take 3 ≠ ascii "200" := by decide
  exact hrefused (congrArg (List.take 3) hreplies)

end Collision

/-- For every sensor id: the replies about it do not depend on commands about other ids as long as
none of these registers a longer id that is cut to it; and they never do exactly when the id does
not fill its field. -/
theorem isolated_iff {id : Bytes} (h : SensorId id) :
    (∀ xs ys, SameCommands id xs ys → (∀ line ∈ xs ++ ys, ¬ Collides id line) →
      repliesTo id xs = repliesTo id ys) ∧
    (Isolated id ↔ id.length ≠ maxIdLen - 1) := by
  refine ⟨fun xs ys => replies_same, ?_⟩
  constructor
  · exact fun hisolated hlen => not_isolated h hlen hisolated
  · intro hlen xs ys hsame
    exact replies_same hsame fun line _ hcollides => hlen (length_of_collides hcollides)


theorem isolated_s1 : Isolated (ascii "s1") :=
  (isolated_iff ⟨by decide, by decide⟩).2.mpr (by decide)

/-- An id of 63 bytes is not: a REGISTER of it is answered 200 or 409 depending on the other ids. -/
theorem not_isolated_full : SensorId (List.replicate 63 97) ∧ ¬ Isolated (List.replicate 63 97) := by
  have hid : SensorId (List.replicate 63 97) := by
    refine ⟨by decide, ?_⟩
    intro c hc
    rw [List.eq_of_mem_replicate hc]
    decide
  exact ⟨hid, not_isolated hid (by decide)⟩

end IotMonitoring
