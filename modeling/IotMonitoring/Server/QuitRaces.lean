import IotMonitoring.Server.AlertLevels

/-!
# METRICs overtaken by a QUIT

`handle_metric` checks the status on a copy and appends in a later critical
section that looks at no status. The status of a slot is what the newest
registration or deactivation of it left, so a metric is stored for a sensor
that has quit exactly when a QUIT falls between a METRIC's check and its append
and no REGISTER of the sensor follows before the append.
-/

namespace IotMonitoring

open ByteStrings Binary64
set_option autoImplicit false

/-- The status an event leaves in slot `i`, if it writes one. -/
def Event.status? (i : Fin maxSensors) : Event → Option SensorStatus
  | .registered _ _ j => if j = i then some .active else none
  | .deactivated _ (some j) => if j = i then some .inactive else none
  | _ => none

theorem exec_status (c : StateCall) (g : GlobalState) (i : Fin maxSensors) :
    ((c.exec g).sensors i).status =
      ((c.event g).bind (Event.status? i)).getD (g.sensors i).status := by
  by_cases htouch : ∃ e, c.event g = some e ∧ e.slot? = some i
  · obtain ⟨e, he, hi⟩ := htouch
    rw [exec_sensor_written he hi, he]
    cases e with
    | registered id type j =>
      cases hi
      simp only [Event.written, Option.bind_some, Event.status?, if_true, Option.getD_some]
      split <;> rfl
    | metricAdded j m => rfl
    | alertAdded a => rfl
    | deactivated id j =>
      cases hi
      simp only [Event.written, Option.bind_some, Event.status?, if_true, Option.getD_some]
    | levelSet j level => rfl
  · have hnone : (c.event g).bind (Event.status? i) = none := by
      cases he : c.event g with
      | none => rfl
      | some e =>
        have hi : e.slot? ≠ some i := fun hi => htouch ⟨e, he, hi⟩
        cases e with
        | registered id type j =>
          have hj : j ≠ i := fun hj => hi (congrArg some hj)
          simp only [Option.bind_some, Event.status?, if_neg hj]
        | deactivated id j =>
          cases j with
          | none => rfl
          | some j =>
            have hj : j ≠ i := fun hj => hi (congrArg some hj)
            simp only [Option.bind_some, Event.status?, if_neg hj]
        | _ => rfl
    rw [exec_sensor_frame fun e he hi => htouch ⟨e, he, hi⟩, hnone]
    rfl

/-- The last registration or QUIT of the slot, newest event first, was a QUIT. -/
def hasQuit (i : Fin maxSensors) (es : List Event) : Prop :=
  es.findSome? (Event.status? i) = some .inactive

namespace System
variable {n : Nat}

/-- What the critical section of an action writes to the status of slot `i`. -/
def statusWrite (s : System n) (i : Fin maxSensors) : Action n → Option SensorStatus
  | .proceed c =>
    match s.conn c with
    | .busy φ => (φ.call.bind fun call => call.event s.g).bind (Event.status? i)
    | _ => none
  | _ => none

/-- A METRIC of slot `i` has passed its checks on connection `c` and has not appended yet. -/
def PastCheck (s : System n) (c : Fin n) (i : Fin maxSensors) : Prop :=
  ∃ id value timestamp type, s.conn c = .busy (.addMetric id value timestamp type) ∧
    s.g.slotOf id = some i

/-- A metric is appended to an ACTIVE sensor only. -/
def RecordsActive (s : System n) (a : Action n) : Prop :=
  ∀ i, s.metricWriter a = some i → (s.g.sensors i).status = .active

instance (s : System n) (a : Action n) : Decidable (s.RecordsActive a) :=
  inferInstanceAs (Decidable (∀ _, _ → _))

/-- No metric in the history follows a QUIT of its sensor with no registration between them. -/
def QuitRespected (s : System n) : Prop :=
  ∀ c i m older, .did c (.metricAdded i m) :: older <:+ s.log → ¬ hasQuit i (eventsOf older)

/-- A QUIT is handled while a METRIC of the sensor stands between its check and its append, and the
append comes before any registration of the sensor. -/
def Overtaken (actions : List (Action n)) : Prop :=
  ∃ pre d mid c post s s' i, actions = pre ++ .proceed d :: (mid ++ .proceed c :: post) ∧
    Runs.run step (init n) pre = some s ∧ s.PastCheck c i ∧
    s.statusWrite i (.proceed d) = some .inactive ∧ s.step (.proceed d) = some s' ∧
    Runs.Guarded step (fun t b => b ≠ .proceed c ∧ t.statusWrite i b ≠ some .active) s' mid

/-! ## The status of a slot -/

theorem status_step {s s' : System n} {a : Action n} (hstep : s.step a = some s')
    (i : Fin maxSensors) :
    (s'.g.sensors i).status = (s.statusWrite i a).getD (s.g.sensors i).status := by
  cases step_cases hstep with
  | connect c hc => rfl
  | receive c line hc hline =>
    rw [settle_g]
    rfl
  | proceed c φ call hc hcall =>
    rw [settle_g, execute_g, exec_status]
    simp only [statusWrite, hc, hcall, Option.bind_some]
  | disconnect c hc => rfl

/-- The status of every slot is the one its newest event left. -/
def StatusLogged (s : System n) : Prop :=
  ∀ i, (s.g.sensors i).status = ((eventsOf s.log).findSome? (Event.status? i)).getD .active

theorem statusLogged_step {s s' : System n} {a : Action n} (h : StatusLogged s)
    (hstep : s.step a = some s') : StatusLogged s' := by
  intro i
  rw [status_step hstep, h i]
  cases step_cases hstep with
  | connect c hc => rfl
  | receive c line hc hline =>
    rw [eventsOf_settle]
    rfl
  | proceed c φ call hc hcall =>
    rw [eventsOf_settle, execute_log, eventsOf_did, List.findSome?_append]
    simp only [statusWrite, hc, hcall, Option.bind_some]
    cases call.event s.g with
    | none => rfl
    | some e => cases he : e.status? i <;> simp [he]
  | disconnect c hc => rfl

/-! ## A METRIC between its check and its append -/

theorem pastCheck_kept {s s' : System n} {a : Action n} {c : Fin n} {i : Fin maxSensors}
    (h : SystemOk s) (hstep : s.step a = some s') (hne : a ≠ .proceed c) (hp : s.PastCheck c i) :
    s'.PastCheck c i := by
  obtain ⟨id, value, timestamp, type, hc, hs⟩ := hp
  refine ⟨id, value, timestamp, type, ?_, slotOf_extends h.table (extends_step hstep) hs⟩
  have hother : c ≠ a.conn := by
    rintro rfl
    cases step_cases hstep with
    | connect c hidle =>
      rw [Action.conn, hidle] at hc
      cases hc
    | receive c line hidle hline =>
      rw [Action.conn, hidle] at hc
      cases hc
    | proceed c φ call hφ hcall => exact hne rfl
    | disconnect c hidle =>
      rw [Action.conn, hidle] at hc
      cases hc
  rw [step_conn_other hstep hother]
  exact hc

/-- A METRIC past its check was already past it, or has just found its sensor ACTIVE. -/
theorem pastCheck_origin {s s' : System n} {a : Action n} {c : Fin n} {i : Fin maxSensors}
    (h : SystemOk s) (hstep : s.step a = some s') (hp : s'.PastCheck c i) :
    (s.PastCheck c i ∧ a ≠ .proceed c) ∨ (s'.g.sensors i).status = .active := by
  obtain ⟨id, value, timestamp, type, hc, hs⟩ := hp
  by_cases hown : c = a.conn
  · cases step_cases hstep with
    | connect c' hidle =>
      obtain rfl : c = c' := hown
      simp only [Function.update_self, reduceCtorEq] at hc
    | receive c' line hidle hline =>
      obtain rfl : c = c' := hown
      have hstart := settle_conn_busy _ _ _ hc
      have hfirst := Phase.start_isFirst (tokenize line 8)
      rw [← hstart] at hfirst
      cases hfirst
    | proceed c' φ call hφ hcall =>
      obtain rfl : c = c' := hown
      have hnext := (settle_conn_busy _ _ _ hc).symm
      obtain ⟨hsame, j, hj, hact⟩ := active_of_next_addMetric hcall (h.phases c φ hφ) hnext
      have hg : (s.execute c call).g = s.g := hsame
      rw [settle_g, hg] at hs
      obtain rfl := Option.some.inj (hj.symm.trans hs)
      exact Or.inr (by rw [settle_g, hg]; exact hact)
    | disconnect c' hidle =>
      obtain rfl : c = c' := hown
      simp only [Function.update_self, reduceCtorEq] at hc
  · rw [step_conn_other hstep hown] at hc
    obtain ⟨j, hj, -⟩ := h.phases c _ hc
    have hsame := slotOf_extends h.table (extends_step hstep) hj
    obtain rfl := Option.some.inj (hsame.symm.trans hs)
    refine Or.inl ⟨⟨id, value, timestamp, type, hc, hj⟩, ?_⟩
    rintro rfl
    exact hown rfl

/-- A METRIC past its check whose sensor is INACTIVE has been overtaken by a QUIT. -/
theorem overtaken_of_inactive {pre : List (Action n)} {t : System n} {c : Fin n}
    {i : Fin maxSensors} (hrun : Runs.run step (init n) pre = some t) (hp : t.PastCheck c i)
    (hst : (t.g.sensors i).status = .inactive) :
    ∃ p d mid s s', pre = p ++ .proceed d :: mid ∧ Runs.run step (init n) p = some s ∧
      s.PastCheck c i ∧ s.statusWrite i (.proceed d) = some .inactive ∧
      s.step (.proceed d) = some s' ∧
      Runs.Guarded step (fun u b => b ≠ .proceed c ∧ u.statusWrite i b ≠ some .active) s' mid := by
  induction pre using List.reverseRecOn generalizing t with
  | nil =>
    cases hrun
    obtain ⟨id, value, timestamp, type, hc, -⟩ := hp
    cases hc
  | append_singleton pre a ih =>
    obtain ⟨u, hu, hstep⟩ := Runs.run_concat hrun
    have hok := systemOk_run hu
    rcases pastCheck_origin hok hstep hp with ⟨hpu, hne⟩ | hact
    · have hwrite := status_step hstep i
      rw [hst] at hwrite
      cases hw : u.statusWrite i a with
      | some status =>
        rw [hw] at hwrite
        cases hwrite
        cases a with
        | proceed d => exact ⟨pre, d, [], u, t, rfl, hu, hpu, hw, hstep, trivial⟩
        | _ => cases hw
      | none =>
        rw [hw] at hwrite
        obtain ⟨p, d, mid, s, s', rfl, hs, hps, hquit, hs', hmid⟩ := ih hu hpu hwrite.symm
        refine ⟨p, d, mid ++ [a], s, s', ?_, hs, hps, hquit, hs', ?_⟩
        · rw [List.append_assoc, List.cons_append]
        · rw [Runs.run_append, hs, Option.bind_some, Runs.run, hs', Option.bind_some] at hu
          refine Runs.guarded_concat hmid hu ⟨hne, ?_⟩
          rw [hw]
          intro h
          cases h
    · rw [hact] at hst
      cases hst

/-! ## Whole runs -/

/-- The METRIC that was overtaken appends while its sensor is INACTIVE. -/
theorem inactive_of_overtaken {s s' t : System n} {c d : Fin n} {mid : List (Action n)}
    {i : Fin maxSensors} (h : SystemOk s) (hp : s.PastCheck c i)
    (hquit : s.statusWrite i (.proceed d) = some .inactive) (hs' : s.step (.proceed d) = some s')
    (hmid : Runs.Guarded step (fun u b => b ≠ .proceed c ∧ u.statusWrite i b ≠ some .active) s' mid)
    (hrun : Runs.run step s' mid = some t) :
    t.PastCheck c i ∧ (t.g.sensors i).status = .inactive := by
  have hdc : Action.proceed d ≠ .proceed c := by
    intro hdc
    cases hdc
    obtain ⟨id, value, timestamp, type, hc, -⟩ := hp
    simp only [statusWrite, hc, Phase.call, Option.bind_some, StateCall.event] at hquit
    cases hs : s.g.slotOf id with
    | none =>
      rw [hs] at hquit
      cases hquit
    | some j =>
      rw [hs] at hquit
      cases hquit
  have hstart : SystemOk s' ∧ s'.PastCheck c i ∧ (s'.g.sensors i).status = .inactive := by
    refine ⟨systemOk_step h hs', pastCheck_kept h hs' hdc hp, ?_⟩
    rw [status_step hs', hquit]
    rfl
  refine (Runs.invariant_guarded
    (I := fun u => SystemOk u ∧ u.PastCheck c i ∧ (u.g.sensors i).status = .inactive)
    ?_ hstart hmid hrun).2
  rintro u b u' ⟨hok, hpu, hst⟩ ⟨hne, hw⟩ hub
  refine ⟨systemOk_step hok hub, pastCheck_kept hok hub hne hpu, ?_⟩
  rw [status_step hub]
  cases hwrite : u.statusWrite i b with
  | none => exact hst
  | some status =>
    cases status with
    | active => exact absurd hwrite hw
    | inactive => rfl

theorem suffix_settle {s : System n} {c c' : Fin n} {φ : Phase} {e : Event}
    {older : List (Entry n)} (h : .did c' e :: older <:+ (s.settle c φ).log) :
    .did c' e :: older <:+ s.log := by
  cases φ with
  | answered resp leave =>
    rcases List.suffix_cons_iff.mp h with heq | h
    · cases heq
    · exact h
  | _ => exact h

theorem quitRespected_step {s s' : System n} {a : Action n} (h : StatusLogged s)
    (hq : s.QuitRespected) (hgood : s.RecordsActive a) (hstep : s.step a = some s') :
    s'.QuitRespected := by
  cases step_cases hstep with
  | connect c hc => exact hq
  | receive c line hc hline =>
    intro c' i m older hsuffix
    exact hq c' i m older (suffix_settle hsuffix)
  | proceed c φ call hc hcall =>
    intro c' i m older hsuffix
    have hlog := suffix_settle hsuffix
    rw [execute_log] at hlog
    cases he : call.event s.g with
    | none =>
      rw [he] at hlog
      exact hq c' i m older hlog
    | some e =>
      rw [he] at hlog
      have hlast : .did c' (.metricAdded i m) :: older <:+ .did c e :: s.log := hlog
      rcases List.suffix_cons_iff.mp hlast with heq | hlog
      · cases heq
        obtain ⟨id, value, timestamp, type, j, rfl, hs, hev, -⟩ :=
          metric_of_event (m := m) hcall (by rw [he]; rfl)
        obtain rfl : i = j := by
          rw [he] at hev
          cases hev
          rfl
        have hact := hgood i (by simp only [metricWriter, hc, hs])
        rw [h i] at hact
        intro hquit
        rw [hasQuit] at hquit
        rw [hquit] at hact
        cases hact
      · exact hq c' i m older hlog
  | disconnect c hc => exact hq

theorem metricWriter_of_pastCheck {s : System n} {c : Fin n} {i : Fin maxSensors}
    (hp : s.PastCheck c i) : s.metricWriter (.proceed c) = some i := by
  obtain ⟨id, value, timestamp, type, hc, hs⟩ := hp
  simp only [metricWriter, hc, hs]

/-- Along a run every metric is appended to an ACTIVE sensor, and none after a QUIT of its sensor
without a new registration, exactly when no METRIC is overtaken by a QUIT of its sensor. -/
theorem records_active_iff {s : System n} {actions : List (Action n)}
    (hrun : Runs.run step (init n) actions = some s) :
    (Runs.Guarded step RecordsActive (init n) actions ∧ s.QuitRespected) ↔ ¬ Overtaken actions := by
  constructor
  · rintro ⟨hrec, -⟩ ⟨pre, d, mid, c, post, u, u', i, rfl, hu, hp, hquit, hu', hmid⟩
    have hreach : ∃ t, Runs.run step u' mid = some t := by
      rw [Runs.run_append, hu, Option.bind_some, Runs.run, hu', Option.bind_some,
        Runs.run_append] at hrun
      obtain ⟨t, ht, -⟩ := Option.bind_eq_some_iff.mp hrun
      exact ⟨t, ht⟩
    obtain ⟨t, ht⟩ := hreach
    obtain ⟨hpt, hst⟩ := inactive_of_overtaken (systemOk_run hu) hp hquit hu' hmid ht
    have hat : Runs.run step (init n) (pre ++ .proceed d :: mid) = some t := by
      rw [Runs.run_append, hu, Option.bind_some, Runs.run, hu', Option.bind_some, ht]
    have hact := Runs.guarded_iff_steps.mp hrec (pre ++ .proceed d :: mid) (.proceed c) post
      (by rw [List.append_assoc, List.cons_append]) t hat i (metricWriter_of_pastCheck hpt)
    rw [hst] at hact
    cases hact
  · intro hnone
    have hrec : Runs.Guarded step RecordsActive (init n) actions := by
      apply Runs.guarded_iff_steps.mpr
      intro pre a post hactions t ht i hm
      obtain ⟨c, id, value, timestamp, type, rfl, hc, hs⟩ := metricWriter_eq hm
      cases hst : (t.g.sensors i).status with
      | active => rfl
      | inactive =>
        obtain ⟨p, d, mid, u, u', rfl, hu, hp, hquit, hu', hmid⟩ :=
          overtaken_of_inactive ht ⟨id, value, timestamp, type, hc, hs⟩ hst
        refine absurd ⟨p, d, mid, c, post, u, u', i, ?_, hu, hp, hquit, hu', hmid⟩ hnone
        rw [hactions, List.append_assoc, List.cons_append]
    refine ⟨hrec, ?_⟩
    refine (Runs.invariant_guarded (I := fun t => StatusLogged t ∧ t.QuitRespected) ?_ ?_ hrec
      hrun).2
    · rintro t a t' ⟨hlogged, hq⟩ hgood hstep
      exact ⟨statusLogged_step hlogged hstep, quitRespected_step hlogged hq hgood hstep⟩
    · refine ⟨fun i => rfl, ?_⟩
      intro c i m older hsuffix
      cases List.suffix_nil.mp hsuffix

/-- The QUIT of a second connection falls between the check of a METRIC and its append. -/
def quitBetween (c d : Fin n) : List (Action n) :=
  [.connect c, .connect d, .receive c (ascii "REGISTER s1 TEMP"), .proceed c,
    .receive c (ascii "METRIC s1 20 2026-03-30T14:05:00Z"), .proceed c,
    .receive d (ascii "QUIT s1"), .proceed d, .proceed c]

theorem overtaken_quitBetween : Overtaken (quitBetween (0 : Fin 2) 1) := by
  have hrun : (Runs.run step (init 2) (quitBetween 0 1)).isSome = true := by decide +kernel
  have hbad : ¬ Runs.Guarded step RecordsActive (init 2) (quitBetween 0 1) := by decide +kernel
  obtain ⟨s, hs⟩ := Option.isSome_iff_exists.mp hrun
  by_contra hnone
  exact hbad ((records_active_iff hs).mpr hnone).1

/-- The metric is stored although the sensor is INACTIVE. -/
theorem recorded_after_quit : ¬ Runs.Guarded step RecordsActive (init 2) (quitBetween 0 1) ∧
    (Runs.run step (init 2) (quitBetween 0 1)).map (fun s =>
      ((s.g.sensors 0).status, s.g.metrics.count)) = some (.inactive, 1) := by
  constructor <;> decide +kernel

end System

end IotMonitoring
