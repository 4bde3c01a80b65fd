import IotMonitoring.Server.Reachable

/-!
# ACTIVE sensors and open connections

A sensor has a session when some connection that is still open registered it.
A connection that ends takes its sessions with it, but changes no sensor except
the one its QUIT names: the sensors that only it had registered stay ACTIVE.
-/

namespace IotMonitoring

open ByteStrings Binary64
set_option autoImplicit false

def ConnState.isOpen : ConnState → Bool
  | .idle | .busy _ => true
  | .fresh | .closed => false

def Phase.leaves : Phase → Bool
  | .answered _ leave => leave
  | _ => false

def Event.registeredSlot? : Event → Option (Fin maxSensors)
  | .registered _ _ i => some i
  | _ => none

/-- The slot holds a sensor and the sensor is ACTIVE. -/
def Live (g : GlobalState) (i : Fin maxSensors) : Prop :=
  (g.sensors i).active = true ∧ (g.sensors i).status = .active

instance (g : GlobalState) (i : Fin maxSensors) : Decidable (Live g i) :=
  inferInstanceAs (Decidable (_ ∧ _))

/-- The live slots are those the dashboard counts. -/
theorem stateGetActiveSensorCount_eq (g : GlobalState) :
    stateGetActiveSensorCount g = ((List.finRange maxSensors).filter fun i => Live g i).length := by
  rw [stateGetActiveSensorCount, List.countP_eq_length_filter]
  congr 2
  funext i
  rw [Bool.eq_iff_iff, Bool.and_eq_true, decide_eq_true_eq, decide_eq_true_eq]
  exact Iff.rfl

/-- Only a registration makes a slot live. -/
theorem live_exec {call : StateCall} {g : GlobalState} {i : Fin maxSensors}
    (h : Live (call.exec g) i) :
    Live g i ∨ ∃ e, call.event g = some e ∧ e.registeredSlot? = some i := by
  by_cases htouch : ∃ e, call.event g = some e ∧ e.slot? = some i
  · obtain ⟨e, he, hi⟩ := htouch
    rw [Live, exec_sensor_written he hi] at h
    cases e with
    | registered id type j => exact Or.inr ⟨_, he, hi⟩
    | metricAdded j m => exact Or.inl h
    | alertAdded a => exact Or.inl h
    | deactivated id j => cases h.2
    | levelSet j level => exact Or.inl h
  · rw [Live, exec_sensor_frame fun e he hi => htouch ⟨e, he, hi⟩] at h
    exact Or.inl h

theorem leaves_next {φ : Phase} {call : StateCall} (hcall : φ.call = some call) (g : GlobalState)
    (h : (φ.next g).leaves = true) : ∃ id, φ = .deactivate id := by
  cases φ with
  | findMetric id valueStr timestamp =>
    rcases next_findMetric_cases id valueStr timestamp g with ⟨resp, hn, -⟩ | ⟨i, v, -, -, -, -, hn⟩
    · rw [hn] at h
      cases h
    · rw [hn] at h
      cases h
  | addMetric id value timestamp type =>
    simp only [Phase.next] at h
    split at h
    · unfold Phase.evaluate at h
      split at h <;> cases h
    · cases h
  | deactivate id => exact ⟨id, rfl⟩
  | answered resp leave => cases hcall
  | _ => cases h

namespace System
variable {n : Nat}

def RegisteredOn (s : System n) (c : Fin n) (i : Fin maxSensors) : Prop :=
  ∃ e ∈ eventsBy c s.log, e.registeredSlot? = some i

instance (s : System n) (c : Fin n) (i : Fin maxSensors) : Decidable (s.RegisteredOn c i) :=
  inferInstanceAs (Decidable (∃ e ∈ eventsBy c s.log, _))

/-- Every ACTIVE sensor was registered on a connection that is still open. -/
def Sessions (s : System n) : Prop :=
  ∀ i, Live s.g i → ∃ c, (s.conn c).isOpen = true ∧ s.RegisteredOn c i

instance (s : System n) : Decidable s.Sessions :=
  inferInstanceAs (Decidable (∀ i, Live s.g i → ∃ _, _))

/-- The connection an action closes, and the slot of the sensor its QUIT names. -/
def closes (s : System n) : Action n → Option (Fin n × Option (Fin maxSensors))
  | .disconnect c => some (c, none)
  | .proceed c =>
    match s.conn c with
    | .busy (.deactivate id) => some (c, s.g.slotOf id)
    | _ => none
  | _ => none

/-- The action closes a connection and leaves an ACTIVE sensor that no other open one registered. -/
def Orphans (s : System n) (a : Action n) (i : Fin maxSensors) : Prop :=
  match s.closes a with
  | some (c, quit) => quit ≠ some i ∧ Live s.g i ∧
      ∀ c', c' ≠ c → (s.conn c').isOpen = true → ¬ s.RegisteredOn c' i
  | none => False

instance (s : System n) (a : Action n) (i : Fin maxSensors) : Decidable (s.Orphans a i) := by
  unfold Orphans
  split <;> infer_instance

theorem isOpen_settle (s : System n) (c : Fin n) (φ : Phase) :
    ((s.settle c φ).conn c).isOpen = ! φ.leaves := by
  cases φ with
  | answered resp leave =>
    simp only [settle, Function.update_self]
    cases leave <;> rfl
  | _ =>
    simp only [settle, Function.update_self]
    rfl

theorem registeredOn_settle {s : System n} {c c' : Fin n} {φ : Phase} {i : Fin maxSensors} :
    (s.settle c φ).RegisteredOn c' i ↔ s.RegisteredOn c' i := by
  rw [RegisteredOn, eventsBy_settle]
  exact Iff.rfl

theorem registeredOn_execute {s : System n} {c c' : Fin n} {call : StateCall}
    {i : Fin maxSensors} (h : s.RegisteredOn c' i) : (s.execute c call).RegisteredOn c' i := by
  obtain ⟨e, he, hi⟩ := h
  refine ⟨e, ?_, hi⟩
  by_cases hcc : c = c'
  · subst hcc
    rw [execute_log, eventsBy_did_self]
    exact List.mem_append_right _ he
  · rw [execute_log, eventsBy_did_other hcc]
    exact he

theorem leaves_start (ts : List Bytes) : (Phase.start ts).leaves = false := by
  have hfirst := Phase.start_isFirst ts
  cases h : Phase.start ts with
  | answered resp leave =>
    rw [h] at hfirst
    cases leave with
    | false => rfl
    | true => cases hfirst
  | _ => rfl

/-- A session survives unless its connection is the one that closes. -/
theorem sessions_close {s s' : System n} {c : Fin n} (h : s.Sessions)
    (hconn : ∀ c', c' ≠ c → s'.conn c' = s.conn c')
    (hreg : ∀ c' i, s.RegisteredOn c' i → s'.RegisteredOn c' i)
    (hlive : ∀ i, Live s'.g i → Live s.g i ∧
      ((s'.conn c).isOpen = true ∨
        ∃ c', c' ≠ c ∧ (s.conn c').isOpen = true ∧ s.RegisteredOn c' i) ∨
      (s'.conn c).isOpen = true ∧ s'.RegisteredOn c i) : s'.Sessions := by
  intro i hi
  rcases hlive i hi with ⟨hold, hopen | ⟨c', hcc, hopen, hon⟩⟩ | ⟨hopen, hon⟩
  · obtain ⟨c', hopen', hon⟩ := h i hold
    by_cases hcc : c' = c
    · exact ⟨c, hopen, hreg c i (hcc ▸ hon)⟩
    · exact ⟨c', by rw [hconn c' hcc]; exact hopen', hreg c' i hon⟩
  · exact ⟨c', by rw [hconn c' hcc]; exact hopen, hreg c' i hon⟩
  · exact ⟨c, hopen, hon⟩

theorem other_session {s : System n} {a : Action n} {c : Fin n} {quit : Option (Fin maxSensors)}
    {i : Fin maxSensors} (hgood : ¬ s.Orphans a i) (hcl : s.closes a = some (c, quit))
    (hquit : quit ≠ some i) (hlive : Live s.g i) :
    ∃ c', c' ≠ c ∧ (s.conn c').isOpen = true ∧ s.RegisteredOn c' i := by
  by_contra hnone
  apply hgood
  rw [Orphans, hcl]
  exact ⟨hquit, hlive, fun c' hcc hopen hon => hnone ⟨c', hcc, hopen, hon⟩⟩

theorem sessions_step {s s' : System n} {a : Action n} (h : s.Sessions)
    (hgood : ∀ i, ¬ s.Orphans a i) (hstep : s.step a = some s') : s'.Sessions := by
  cases step_cases hstep with
  | connect c hc =>
    refine sessions_close (c := c) h (fun c' hcc => Function.update_of_ne hcc _ _)
      (fun _ _ hon => hon) ?_
    intro i hi
    exact Or.inl ⟨hi, Or.inl (by simp only [Function.update_self]; rfl)⟩
  | receive c line hc hline =>
    refine sessions_close (c := c) h (fun c' hcc => settle_conn_other _ _ _ hcc)
      (fun _ _ hon => registeredOn_settle.mpr hon) ?_
    intro i hi
    rw [settle_g] at hi
    exact Or.inl ⟨hi, Or.inl (by rw [isOpen_settle, leaves_start]; rfl)⟩
  | proceed c φ call hc hcall =>
    refine sessions_close (c := c) h (fun c' hcc => settle_conn_other _ _ _ hcc)
      (fun _ _ hon => registeredOn_settle.mpr (registeredOn_execute hon)) ?_
    intro i hi
    rw [settle_g, execute_g] at hi
    rw [isOpen_settle, registeredOn_settle]
    by_cases hleave : (φ.next s.g).leaves = true
    · obtain ⟨id, rfl⟩ := leaves_next hcall s.g hleave
      cases hcall
      have hcl : s.closes (.proceed c) = some (c, s.g.slotOf id) := by simp only [closes, hc]
      have hquit : s.g.slotOf id ≠ some i := by
        intro hs
        have hwritten := exec_sensor_written (c := .deactivate id) (g := s.g) (i := i) rfl hs
        rw [Live, hwritten] at hi
        cases hi.2
      rcases live_exec hi with hold | ⟨e, he, hr⟩
      · exact Or.inl ⟨hold, Or.inr (other_session (hgood i) hcl hquit hold)⟩
      · cases he
        cases hr
    · have hstay : (! (φ.next s.g).leaves) = true := by simpa using hleave
      rcases live_exec hi with hold | ⟨e, he, hr⟩
      · exact Or.inl ⟨hold, Or.inl hstay⟩
      · refine Or.inr ⟨hstay, e, ?_, hr⟩
        rw [execute_log, eventsBy_did_self, he]
        exact List.mem_cons_self
  | disconnect c hc =>
    refine sessions_close (c := c) h (fun c' hcc => Function.update_of_ne hcc _ _)
      (fun _ _ hon => hon) ?_
    intro i hi
    exact Or.inl ⟨hi, Or.inr (other_session (hgood i) rfl (Option.some_ne_none i).symm hi)⟩

/-- The sensor left behind is ACTIVE without a session in the very next state. -/
theorem sessions_broken {s s' : System n} {a : Action n} {i : Fin maxSensors}
    (hbad : s.Orphans a i) (hstep : s.step a = some s') : ¬ s'.Sessions := by
  intro h
  cases step_cases hstep with
  | connect c hc => exact hbad
  | receive c line hc hline => exact hbad
  | proceed c φ call hc hcall =>
    cases φ with
    | deactivate id =>
      cases hcall
      simp only [Orphans, closes, hc] at hbad
      obtain ⟨hquit, hlive, hnone⟩ := hbad
      have hframe : ((StateCall.deactivate id).exec s.g).sensors i = s.g.sensors i := by
        apply exec_sensor_frame
        rintro e he hi
        cases he
        exact hquit hi
      obtain ⟨c', hopen, hon⟩ := h i (by rw [settle_g, execute_g, Live, hframe]; exact hlive)
      by_cases hcc : c' = c
      · rw [hcc, isOpen_settle] at hopen
        cases hopen
      · rw [settle_conn_other _ _ _ hcc] at hopen
        refine hnone c' hcc hopen ?_
        obtain ⟨e, he, hr⟩ := registeredOn_settle.mp hon
        rw [execute_log, eventsBy_did_other (Ne.symm hcc)] at he
        exact ⟨e, he, hr⟩
    | _ =>
      simp only [Orphans, closes, hc] at hbad
  | disconnect c hc =>
    obtain ⟨-, hlive, hnone⟩ := hbad
    obtain ⟨c', hopen, hon⟩ := h i hlive
    by_cases hcc : c' = c
    · rw [hcc] at hopen
      simp only [Function.update_self] at hopen
      cases hopen
    · simp only [Function.update_of_ne hcc] at hopen
      exact hnone c' hcc hopen hon

theorem sessions_init : (init n).Sessions := by
  rintro i ⟨hact, -⟩
  simp [init, stateInit, Sensor.zero] at hact

/-- Along a run every ACTIVE sensor keeps an open session exactly when no connection ends as the
only open one that registered an ACTIVE sensor other than the one its QUIT names. -/
theorem sessions_iff {s : System n} {actions : List (Action n)}
    (hrun : Runs.run step (init n) actions = some s) :
    Runs.Always step Sessions (init n) actions ↔
      Runs.Guarded step (fun s a => ∀ i, ¬ s.Orphans a i) (init n) actions := by
  refine Runs.always_iff_guarded (I := Sessions) (fun _ h => h) sessions_init sessions_step ?_ hrun
  intro s a s' _ hbad hstep
  obtain ⟨i, hi⟩ := not_forall.mp hbad
  exact sessions_broken (not_not.mp hi) hstep

/-- A sensor that registers, says QUIT and comes back on another connection. -/
theorem sessions_reconnect :
    Runs.Always step Sessions (init 2)
      [.connect 0, .receive 0 (ascii "REGISTER s1 TEMP"), .proceed 0, .receive 0 (ascii "QUIT s1"),
        .proceed 0, .connect 1, .receive 1 (ascii "REGISTER s1 TEMP"), .proceed 1] := by
  have hrun : (Runs.run step (init 2)
      [.connect 0, .receive 0 (ascii "REGISTER s1 TEMP"), .proceed 0, .receive 0 (ascii "QUIT s1"),
        .proceed 0, .connect 1, .receive 1 (ascii "REGISTER s1 TEMP"),
        .proceed 1]).isSome = true := by
    decide +kernel
  obtain ⟨s, hs⟩ := Option.isSome_iff_exists.mp hrun
  exact (sessions_iff hs).mpr (by decide +kernel)

/-- A sensor whose connection drops without QUIT. -/
theorem sessions_lost_disconnect :
    ¬ Runs.Always step Sessions (init 1)
      [.connect 0, .receive 0 (ascii "REGISTER s1 TEMP"), .proceed 0, .disconnect 0] := by
  decide +kernel

end System

end IotMonitoring
