import IotMonitoring.Server.Reachable

/-!
# Sensor identity

Lookup compares the whole token, the table stores a copy cut to the id field.
While every id that reaches a free slot fits its field the stored ids are
distinct, a registered id is found, and an id with no later QUIT is refused a
second registration. An id that does not fit is stored under another name, and
is lost at once.
-/

namespace IotMonitoring

open ByteStrings Binary64
set_option autoImplicit false

def Event.registeredId? : Event → Option Bytes
  | .registered id _ _ => some id
  | _ => none

/-- Registered, and no QUIT of the id since. Events are newest first. -/
def standing (id : Bytes) : List Event → Bool
  | [] => false
  | .registered id' _ _ :: es => if id' = id then true else standing id es
  | .deactivated id' _ :: es => if id' = id then false else standing id es
  | _ :: es => standing id es

structure IdsOk (g : GlobalState) (es : List Event) : Prop where
  distinct : SlotTable.Distinct (·.active) (·.id.text) g.sensors
  found : ∀ id ∈ es.filterMap Event.registeredId?, ∃ i, g.slotOf id = some i
  active : ∀ id, standing id es = true →
    ∃ i, g.slotOf id = some i ∧ (g.sensors i).status = .active

theorem idsOk_init : IdsOk stateInit [] where
  distinct := by
    intro i j hi
    simp [stateInit, Sensor.zero] at hi
  found := by simp
  active := by simp [standing]

/-! ## Fresh ids and the status of a slot -/

theorem newSensor_id {id : Bytes} (type : SensorType) (hz : (0 : UInt8) ∉ id)
    (hfits : id.length < maxIdLen) : (newSensor id type).id.text = id :=
  Buffer.copy_text_of_fits hfits hz

theorem distinct_exec {call : StateCall} {g : GlobalState}
    (hd : SlotTable.Distinct (·.active) (·.id.text) g.sensors)
    (hfits : ∀ id type, call = .register id type → g.freeSlot ≠ none →
      (newSensor id type).id.text = id) :
    SlotTable.Distinct (·.active) (·.id.text) (call.exec g).sensors := by
  rw [exec_sensors_event]
  cases he : call.event g with
  | none => exact hd
  | some e =>
    cases hi : e.slot? with
    | none =>
      simp only [hi]
      exact hd
    | some i =>
      simp only [hi]
      rcases event_slot he hi with hocc | ⟨id, type, rfl, rfl, hs, hf⟩
      · have hsame := written_same hocc e
        exact SlotTable.distinct_update_same hd hsame.active (by rw [hsame.id])
      · have hid := hfits id type rfl (by rw [hf]; exact Option.some_ne_none i)
        rw [written_new hf]
        exact SlotTable.distinct_update_new hd (by rw [hid]; exact hs)

/-- A successful registration makes its id found, in an active slot. -/
theorem slotOf_registered {id : Bytes} {type : SensorType} {g : GlobalState}
    {i : Fin maxSensors} (ht : TableOk g)
    (he : (StateCall.register id type).event g = some (.registered id type i))
    (hfits : g.freeSlot ≠ none → (newSensor id type).id.text = id) :
    ((StateCall.register id type).exec g).slotOf id = some i ∧
      (((StateCall.register id type).exec g).sensors i).status = .active := by
  obtain ⟨j, hj, -, hcase, hsens⟩ := event_register he
  cases hj
  have hwritten := exec_sensor_written he (i := i) rfl
  rcases hcase with ⟨hs, -⟩ | ⟨hs, hf⟩
  · refine ⟨slotOf_extends ht (extends_exec _ g) hs, ?_⟩
    rw [hwritten, written_again (slotOf_occupied hs)]
  · constructor
    · have hid := hfits (by rw [hf]; exact Option.some_ne_none i)
      rw [GlobalState.slotOf, StateCall.exec, hsens, written_new hf]
      exact SlotTable.find_update_key hs rfl hid
    · rw [hwritten, written_new hf]
      rfl

/-- Only a QUIT of its own id makes a sensor inactive. -/
theorem status_exec {call : StateCall} {g : GlobalState} {i : Fin maxSensors}
    (hocc : (g.sensors i).active = true) (hst : (g.sensors i).status = .active)
    (hquit : ∀ id, call.event g ≠ some (.deactivated id (some i))) :
    ((call.exec g).sensors i).status = .active := by
  by_cases htouch : ∃ e, call.event g = some e ∧ e.slot? = some i
  · obtain ⟨e, he, hi⟩ := htouch
    rw [exec_sensor_written he hi]
    cases e with
    | registered id type j => rw [written_again hocc]
    | metricAdded j m => exact hst
    | alertAdded a => exact hst
    | deactivated id j =>
      cases hi
      exact absurd he (hquit id)
    | levelSet j level => exact hst
  · rw [exec_sensor_frame fun e he hi => htouch ⟨e, he, hi⟩]
    exact hst

theorem deactivated_call {call : StateCall} {g : GlobalState} {id : Bytes}
    {o : Option (Fin maxSensors)} (he : call.event g = some (.deactivated id o)) :
    call = .deactivate id ∧ o = g.slotOf id := by
  cases call with
  | register id' type =>
    obtain ⟨j, hj, -⟩ := event_register he
    cases hj
  | addMetric id' value timestamp typeStr =>
    obtain ⟨j, -, hj⟩ := Option.map_eq_some_iff.mp he
    cases hj
  | setAlertLevel id' level =>
    obtain ⟨j, -, hj⟩ := Option.map_eq_some_iff.mp he
    cases hj
  | deactivate id' =>
    cases he
    exact ⟨rfl, rfl⟩
  | _ => cases he

theorem registered_call {call : StateCall} {g : GlobalState} {id : Bytes} {type : SensorType}
    {i : Fin maxSensors} (he : call.event g = some (.registered id type i)) :
    call = .register id type := by
  cases call with
  | register id' type' =>
    obtain ⟨j, hj, -⟩ := event_register he
    cases hj
    rfl
  | addMetric id' value timestamp typeStr =>
    obtain ⟨j, -, hj⟩ := Option.map_eq_some_iff.mp he
    cases hj
  | setAlertLevel id' level =>
    obtain ⟨j, -, hj⟩ := Option.map_eq_some_iff.mp he
    cases hj
  | _ => cases he

/-- A call whose new id fits keeps identities. -/
theorem idsOk_exec {call : StateCall} {g : GlobalState} {es : List Event} (ht : TableOk g)
    (h : IdsOk g es) (hfits : ∀ id type, call = .register id type → g.freeSlot ≠ none →
      (newSensor id type).id.text = id) : IdsOk (call.exec g) ((call.event g).toList ++ es) := by
  have hext := extends_exec call g
  have hkept : ∀ id i, g.slotOf id = some i → (call.exec g).slotOf id = some i :=
    fun id i hs => slotOf_extends ht hext hs
  refine ⟨distinct_exec h.distinct hfits, ?_, ?_⟩
  · intro id hid
    rw [List.filterMap_append, List.mem_append] at hid
    rcases hid with hid | hid
    · obtain ⟨e, he, hreg⟩ := List.mem_filterMap.mp hid
      rw [Option.mem_toList] at he
      cases e with
      | registered id' type i =>
        cases hreg
        obtain rfl := registered_call he
        exact ⟨i, (slotOf_registered ht he (hfits id type rfl)).1⟩
      | _ => cases hreg
    · obtain ⟨i, hs⟩ := h.found id hid
      exact ⟨i, hkept id i hs⟩
  · intro id hst
    have hold (hes : standing id es = true) (hquit : ∀ i, call.event g ≠ some (.deactivated id i)) :
        ∃ i, (call.exec g).slotOf id = some i ∧ ((call.exec g).sensors i).status = .active := by
      obtain ⟨i, hs, hact⟩ := h.active id hes
      refine ⟨i, hkept id i hs, status_exec (slotOf_occupied hs) hact ?_⟩
      intro id' he
      have hs' := (deactivated_call he).2.symm
      obtain rfl : id' = id := (slotOf_id hs').symm.trans (slotOf_id hs)
      exact hquit (some i) he
    cases he : call.event g with
    | none =>
      rw [he] at hst
      exact hold hst (by rw [he]; exact fun _ hn => by cases hn)
    | some e =>
      rw [he] at hst
      cases e with
      | registered id' type i =>
        simp only [Option.toList_some, List.singleton_append, standing] at hst
        by_cases hid : id' = id
        · subst hid
          obtain rfl := registered_call he
          exact ⟨i, slotOf_registered ht he (hfits id' type rfl)⟩
        · rw [if_neg hid] at hst
          exact hold hst (by rw [he]; exact fun _ hn => by cases hn)
      | deactivated id' o =>
        simp only [Option.toList_some, List.singleton_append, standing] at hst
        by_cases hid : id' = id
        · rw [if_pos hid] at hst
          cases hst
        · rw [if_neg hid] at hst
          refine hold hst ?_
          rw [he]
          rintro j hj
          cases hj
          exact hid rfl
      | metricAdded i m => exact hold hst (by rw [he]; exact fun _ hn => by cases hn)
      | alertAdded a => exact hold hst (by rw [he]; exact fun _ hn => by cases hn)
      | levelSet i level => exact hold hst (by rw [he]; exact fun _ hn => by cases hn)

namespace System
variable {n : Nat}

def registeredIds (s : System n) : List Bytes := (eventsOf s.log).filterMap Event.registeredId?

/-- Stored ids are distinct, a registered id is found, and a REGISTER of it is
answered 409 as long as no QUIT of it has followed. -/
structure IdentityKept (s : System n) : Prop where
  distinct : SlotTable.Distinct (·.active) (·.id.text) s.g.sensors
  found : ∀ id ∈ s.registeredIds, (stateFindSensor id s.g).1.isSome
  refused : ∀ id ∈ s.registeredIds, standing id (eventsOf s.log) = true → ∀ type, type ≠ .invalid →
    (Phase.register id type).next s.g = .answered sensorAlreadyExists false

/-- A REGISTER with an id too long for its field, about to find a free slot. -/
def Overlong (s : System n) : Action n → Prop
  | .proceed c =>
    match s.conn c with
    | .busy (.register id _) => maxIdLen ≤ id.length ∧ s.g.freeSlot ≠ none
    | _ => False
  | _ => False

instance (s : System n) (a : Action n) : Decidable (s.Overlong a) := by
  unfold Overlong
  split
  · split <;> infer_instance
  · infer_instance

structure IdentityOk (s : System n) : Prop where
  ok : SystemOk s
  ids : IdsOk s.g (eventsOf s.log)

theorem IdentityOk.kept {s : System n} (h : IdentityOk s) : s.IdentityKept where
  distinct := h.ids.distinct
  found := by
    intro id hid
    obtain ⟨i, hs⟩ := h.ids.found id hid
    simp only [stateFindSensor, hs, Option.map_some, Option.isSome_some]
  refused := by
    intro id _ hst type htype
    obtain ⟨i, hs, hact⟩ := h.ids.active id hst
    simp only [Phase.next, stateRegisterSensor, if_neg htype, hs, hact, reduceCtorEq, if_false]
    rfl

theorem identityOk_step {s s' : System n} {a : Action n} (h : IdentityOk s)
    (hgood : ¬ s.Overlong a) (hstep : s.step a = some s') : IdentityOk s' := by
  refine ⟨systemOk_step h.ok hstep, ?_⟩
  cases step_cases hstep with
  | connect c hc => exact h.ids
  | receive c line hc hline =>
    rw [settle_g, eventsOf_settle]
    exact h.ids
  | proceed c φ call hc hcall =>
    rw [settle_g, eventsOf_settle, execute_log, eventsOf_did]
    refine idsOk_exec h.ok.table h.ids ?_
    rintro id type rfl hfree
    cases φ with
    | register id' type' =>
      cases hcall
      have hfits : ¬ maxIdLen ≤ id.length := by
        intro hlong
        exact hgood (by simp only [Overlong, hc]; exact ⟨hlong, hfree⟩)
      exact newSensor_id type (h.ok.phases c _ hc).2 (Nat.lt_of_not_le hfits)
    | _ => cases hcall
  | disconnect c hc => exact h.ids

/-- An over-long registration is recorded and not found. -/
theorem overlong_breaks {s s' : System n} {a : Action n} (h : IdentityOk s)
    (hbad : s.Overlong a) (hstep : s.step a = some s') : ¬ s'.IdentityKept := by
  intro hkept
  unfold Overlong at hbad
  split at hbad
  · rename_i c
    split at hbad
    · rename_i id type hc
      obtain ⟨hlong, hfree⟩ := hbad
      obtain ⟨i, hf⟩ := Option.ne_none_iff_exists'.mp hfree
      have hlost : ∀ g : GlobalState, g.slotOf id = none := fun _ => slotOf_overlong hlong
      cases step_cases hstep with
      | proceed _ φ call hφ hcall =>
        obtain rfl := ConnState.busy.inj (hφ.symm.trans hc)
        cases hcall
        have htype := (h.ok.phases c _ hc).1
        have he : (StateCall.register id type).event s.g = some (.registered id type i) := by
          simp [StateCall.event, stateRegisterSensor, htype, hlost, hf]
        have hmem : id ∈ ((s.execute c (.register id type)).settle c
            ((Phase.register id type).next s.g)).registeredIds := by
          rw [registeredIds, eventsOf_settle, execute_log, eventsOf_did, he]
          exact List.mem_cons_self
        have hfound := hkept.found id hmem
        rw [stateFindSensor, hlost] at hfound
        cases hfound
    · exact hbad
  · exact hbad

/-- Along a run identities are kept in every state exactly when no REGISTER with an id of 64 bytes
or more meets a free slot. -/
theorem identity_kept_iff {s : System n} {actions : List (Action n)}
    (hrun : Runs.run step (init n) actions = some s) :
    Runs.Always step IdentityKept (init n) actions ↔
      Runs.Guarded step (fun s a => ¬ s.Overlong a) (init n) actions :=
  Runs.always_iff_guarded (fun _ h => h.kept) ⟨systemOk_init, idsOk_init⟩ identityOk_step
    (fun h hbad hstep => overlong_breaks h (not_not.mp hbad) hstep) hrun

/-- Two registrations of one id. -/
def registerTwice (id : Bytes) : List (Action 1) :=
  [.connect 0, .receive 0 (ascii "REGISTER " ++ id ++ ascii " TEMP"), .proceed 0,
    .receive 0 (ascii "REGISTER " ++ id ++ ascii " TEMP"), .proceed 0]

theorem identity_kept_registerTwice :
    Runs.Always step IdentityKept (init 1) (registerTwice (List.replicate 63 97)) := by
  have hrun : (Runs.run step (init 1) (registerTwice (List.replicate 63 97))).isSome = true := by
    decide +kernel
  obtain ⟨s, hs⟩ := Option.isSome_iff_exists.mp hrun
  exact (identity_kept_iff hs).mpr (by decide +kernel)

/-- With 64 bytes both registrations are answered 200 and the two slots hold the same id. -/
theorem identity_lost_registerTwice :
    ∃ s, Runs.run step (init 1) (registerTwice (List.replicate 64 97)) = some s ∧
      (s.g.sensors 0).active = true ∧ (s.g.sensors 1).active = true ∧
      (s.g.sensors 0).id = (s.g.sensors 1).id ∧ ¬ s.IdentityKept := by
  have h : (Runs.run step (init 1) (registerTwice (List.replicate 64 97))).map (fun s =>
      ((s.g.sensors 0).active, (s.g.sensors 1).active,
        decide ((s.g.sensors 0).id = (s.g.sensors 1).id))) = some (true, true, true) := by
    decide +kernel
  obtain ⟨s, hs, hc⟩ := Option.map_eq_some_iff.mp h
  simp only [Prod.mk.injEq, decide_eq_true_eq] at hc
  obtain ⟨h0, h1, heq⟩ := hc
  refine ⟨s, hs, h0, h1, heq, fun hkept => ?_⟩
  have hsame := hkept.distinct 0 1 h0 h1 (congrArg Buffer.text heq)
  exact absurd hsame (by decide)

end System

end IotMonitoring
