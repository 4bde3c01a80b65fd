import IotMonitoring.Server.Clients

/-!
# Fleets that are always served

Nothing frees a slot, a REGISTER of an ACTIVE id is refused, and a QUIT takes the
sensor from whoever is registered under its id. So a fleet is certain to have
all its requests accepted, in every order, exactly when its clients have ids of
one line that are heard as different and the table has a slot for each:
`fleet_served_iff`.
-/

namespace IotMonitoring

open ByteStrings Binary64
set_option autoImplicit false

/-- What a call that is no REGISTER leaves in an occupied slot was there before. -/
theorem slot_before {call : StateCall} {g : GlobalState} {i : Fin maxSensors}
    (hcall : ∀ id type, call ≠ .register id type)
    (h : ((call.exec g).sensors i).active = true) : (g.sensors i).active = true ∧
      ((call.exec g).sensors i).id = (g.sensors i).id := by
  by_cases hwritten : ∃ e, call.event g = some e ∧ e.slot? = some i
  · obtain ⟨e, he, hi⟩ := hwritten
    rcases event_slot he hi with hocc | ⟨id, type, hregister, -⟩
    · rw [exec_sensor_written he hi]
      exact ⟨hocc, (written_same hocc e).id⟩
    · exact absurd hregister (hcall id type)
  · have hsame : (call.exec g).sensors i = g.sensors i :=
      exec_sensor_frame fun e he hi => hwritten ⟨e, he, hi⟩
    rw [hsame] at h ⊢
    exact ⟨h, rfl⟩

/-- With every slot occupied there is no free one, and only then. -/
theorem occupied_of_full {g : GlobalState} (h : TableOk g) (hfull : g.freeSlot = none)
    (i : Fin maxSensors) : (g.sensors i).active = true := by
  apply (h.packed i).mpr
  exact Nat.lt_of_lt_of_le i.isLt ((SlotTable.free_eq_none_iff_full h.packed).mp hfull)

namespace Fleet
variable {n : Nat} {client : Fin n → Client}

/-- Every reply so far begins with 200. -/
def Served (f : Fleet n) : Prop :=
  ∀ c resp, Entry.answered c resp ∈ f.sys.log → accepted resp = true

/-- Each client is heard under an id of its own, and has a slot. -/
structure Roomy (client : Fin n → Client) : Prop where
  lines : ∀ c, newline ∉ (client c).id
  named : ∀ c, (client c).heard.id ≠ []
  own : Function.Injective fun c => (client c).heard.id
  room : n ≤ maxSensors

/-- What a fleet with room keeps: the occupied slots belong to clients that have registered. -/
structure Provided (client : Fin n → Client) (f : Fleet n) : Prop where
  ok : FleetOk client f
  distinct : SlotTable.Distinct (·.active) (·.id.text) f.sys.g.sensors
  owned : ∀ i, (f.sys.g.sensors i).active = true → ∃ c,
    (f.sys.g.sensors i).id.text = (client c).heard.id ∧
      (f.phase c = .registered ∨ f.phase c = .leaving)
  served : f.Served

theorem absent_of_phase {f : Fleet n} {c : Fin n} {p : ClientPhase} (hp : f.phase c = p)
    (hne : p ≠ .registered ∧ p ≠ .leaving) :
    ¬ (f.phase c = .registered ∨ f.phase c = .leaving) := by
  rw [hp]
  exact not_or.mpr hne

theorem provided_init : Provided client (init n) where
  ok := fleetOk_init
  distinct := fun i _ hi _ _ => (by cases hi)
  owned := fun i hi => by cases hi
  served := fun c resp h => by cases h

/-- A client that awaits its reply finds no sensor of its id and a free slot. -/
theorem Provided.register_ok {f : Fleet n} (h : Provided client f) (hroomy : Roomy client)
    {c : Fin n} (hc : f.phase c = .awaiting) :
    (stateRegisterSensor (client c).heard.id (client c).heard.type f.sys.g).1 = .ok := by
  have hnobody : ∀ i, (f.sys.g.sensors i).active = true → ∃ c', c' ≠ c ∧
      (f.sys.g.sensors i).id.text = (client c').heard.id := by
    intro i hi
    obtain ⟨c', hid, hphase⟩ := h.owned i hi
    refine ⟨c', ?_, hid⟩
    rintro rfl
    exact absent_of_phase hc (by decide) hphase
  rcases stateRegisterSensor_cases (client c).heard.id (client c).heard.type f.sys.g with
    ⟨hinvalid, -⟩ | ⟨i, -, -, -, hresult⟩ | ⟨i, -, hs, -, -⟩ | ⟨-, -, hfull, -⟩ | ⟨i, -, -, -, hresult⟩
  · exact absurd hinvalid (client c).heard.valid
  · rw [hresult]
  · obtain ⟨c', hne, hid⟩ := hnobody i (slotOf_occupied hs)
    exact absurd (hroomy.own (hid.symm.trans (slotOf_id hs))) hne
  · -- every slot belongs to another client, and there are more slots than those
    have howner : ∀ i, ∃ c', c' ≠ c ∧ (f.sys.g.sensors i).id.text = (client c').heard.id :=
      fun i => hnobody i (occupied_of_full h.ok.ok.table hfull i)
    choose owner hother hid using howner
    have hinjective : Function.Injective fun o : Option (Fin maxSensors) => o.elim c owner := by
      intro o o' heq
      cases o with
      | none =>
        cases o' with
        | none => rfl
        | some j => exact absurd heq.symm (hother j)
      | some i =>
        cases o' with
        | none => exact absurd heq (hother i)
        | some j =>
          have hsame : owner i = owner j := heq
          have hkeys : (f.sys.g.sensors i).id.text = (f.sys.g.sensors j).id.text := by
            rw [hid i, hid j, hsame]
          exact congrArg some (h.distinct i j (occupied_of_full h.ok.ok.table hfull i)
            (occupied_of_full h.ok.ok.table hfull j) hkeys)
    have hcard := Fintype.card_le_of_injective _ hinjective
    rw [Fintype.card_option, Fintype.card_fin, Fintype.card_fin] at hcard
    have hroom := hroomy.room
    omega
  · rw [hresult]

/-! ## Steps of a fleet with room -/

/-- A reply in the history was there before or is the one just given. -/
theorem answered_settle {s : System n} {c c' : Fin n} {φ : Phase} {resp : Bytes}
    (h : Entry.answered c' resp ∈ (s.settle c φ).log) :
    Entry.answered c' resp ∈ s.log ∨ ∃ leave, φ = .answered resp leave := by
  cases φ with
  | answered resp' leave =>
    rcases List.mem_cons.mp h with heq | h
    · cases heq
      exact Or.inr ⟨leave, rfl⟩
    · exact Or.inl h
  | _ => exact Or.inl h

theorem answered_execute {s : System n} {c c' : Fin n} {call : StateCall} {resp : Bytes}
    (h : Entry.answered c' resp ∈ (s.execute c call).log) : Entry.answered c' resp ∈ s.log := by
  rw [System.execute_log] at h
  rcases List.mem_append.mp h with h | h
  · obtain ⟨e, -, he⟩ := List.mem_map.mp h
    cases he
  · exact h

/-- What a step must do to keep a fleet provided: every occupied slot was occupied before, or holds
the id of the client that moved and is now registered, and a new reply is accepted. -/
theorem provided_setClient {f : Fleet n} {c : Fin n} {r : System n × Bytes} {p : ClientPhase}
    (h : Provided client f) (hok : FleetOk client (f.setClient c p r))
    (hdistinct : SlotTable.Distinct (·.active) (·.id.text) r.1.g.sensors)
    (howned : ∀ i, (r.1.g.sensors i).active = true →
      ((f.sys.g.sensors i).active = true ∧ (r.1.g.sensors i).id = (f.sys.g.sensors i).id) ∨
        ((r.1.g.sensors i).id.text = (client c).heard.id ∧ p = .registered))
    (hphase : f.phase c = .registered ∨ f.phase c = .leaving → p = .registered ∨ p = .leaving)
    (hlog : ∀ c' resp, Entry.answered c' resp ∈ r.1.log →
      Entry.answered c' resp ∈ f.sys.log ∨ accepted resp = true) :
    Provided client (f.setClient c p r) where
  ok := hok
  distinct := hdistinct
  owned := by
    have hself : (f.setClient c p r).phase c = p := Function.update_self _ _ _
    intro i hi
    rcases howned i hi with ⟨hbefore, hid⟩ | ⟨hid, hp⟩
    · obtain ⟨c', hc', hold⟩ := h.owned i hbefore
      refine ⟨c', ?_, ?_⟩
      · rw [← hc', ← hid]
        rfl
      · by_cases hne : c' = c
        · subst hne
          rw [hself]
          exact hphase hold
        · rw [show (f.setClient c p r).phase c' = f.phase c' from Function.update_of_ne hne _ _]
          exact hold
    · exact ⟨c, hid, Or.inl (hself.trans hp)⟩
  served := by
    intro c' resp hresp
    rcases hlog c' resp hresp with hresp | hresp
    · exact h.served c' resp hresp
    · exact hresp

/-- A step that leaves the shared state alone and answers nothing. -/
theorem provided_quiet {f : Fleet n} {c : Fin n} {r : System n × Bytes} {p : ClientPhase}
    (h : Provided client f) (hok : FleetOk client (f.setClient c p r)) (hg : r.1.g = f.sys.g)
    (hphase : f.phase c = .registered ∨ f.phase c = .leaving → p = .registered ∨ p = .leaving)
    (hlog : r.1.log = f.sys.log) : Provided client (f.setClient c p r) := by
  refine provided_setClient h hok ?_ ?_ hphase fun c' resp hresp => Or.inl (hlog ▸ hresp)
  · rw [hg]
    exact h.distinct
  · intro i hi
    rw [hg] at hi ⊢
    exact Or.inl ⟨hi, rfl⟩

/-- The server runs a section of a command that registers nothing. -/
theorem provided_proceed {f : Fleet n} {c : Fin n} {φ : Phase} {call : StateCall} {p : ClientPhase}
    (h : Provided client f) (hok : FleetOk client
      (f.setClient c p ((f.sys.execute c call).settle c (φ.next f.sys.g), f.unread c)))
    (hcall : ∀ id type, call ≠ .register id type)
    (hphase : f.phase c = .registered ∨ f.phase c = .leaving → p = .registered ∨ p = .leaving)
    (hnext : ∀ resp leave, φ.next f.sys.g = .answered resp leave → accepted resp = true) :
    Provided client
      (f.setClient c p ((f.sys.execute c call).settle c (φ.next f.sys.g), f.unread c)) := by
  refine provided_setClient h hok ?_ ?_ hphase fun c' resp hresp => ?_
  · rw [System.settle_g, System.execute_g]
    exact distinct_exec h.distinct fun id type heq => absurd heq (hcall id type)
  · intro i hi
    rw [System.settle_g, System.execute_g] at hi ⊢
    exact Or.inl (slot_before hcall hi)
  · rcases answered_settle hresp with hresp | ⟨leave, hresp⟩
    · exact Or.inl (answered_execute hresp)
    · exact Or.inr (hnext resp leave hresp)

theorem provided_answer {f : Fleet n} {c : Fin n} {s : System n} (h : Provided client f)
    (hroomy : Roomy client) (hp : f.phase c = .awaiting) (hstep : f.sys.step (.proceed c) = some s) :
    Provided client (f.setClient c (judge s c .awaiting) (s, f.unread c)) := by
  have hok := fleetOk_answer h.ok hp hstep
  have hregister := h.register_ok hroomy hp
  have hcoh := h.ok.coherent c
  rw [hp] at hcoh
  obtain ⟨k, hk⟩ : ∃ k, k = (client c).heard := ⟨_, rfl⟩
  rw [← hk] at hregister
  have hcoh : f.sys.conn c = .busy (.register k.id k.type) := hk ▸ hcoh
  cases System.step_cases hstep with
  | proceed _ φ call hc hcall =>
    obtain rfl := ConnState.busy.inj (hc.symm.trans hcoh)
    cases hcall
    have haccepted : accepted (registerReply k.id
        (stateRegisterSensor k.id k.type f.sys.g).1) = true := by
      rw [accepted_registerReply, hregister]
      rfl
    have hjudge : judge ((f.sys.execute c (.register k.id k.type)).settle c
        ((Phase.register k.id k.type).next f.sys.g)) c .awaiting = .registered := by
      simp only [judge, Phase.next, System.settle, Function.update_self, Bool.false_eq_true, if_false,
        haccepted, if_true]
    have hnew := newSensor_id k.type k.zero_notMem_id k.fits
    refine provided_setClient h hok ?_ ?_ ?_ fun c' resp hresp => ?_
    · rw [System.settle_g, System.execute_g]
      apply distinct_exec h.distinct
      intro id type heq hfree
      cases heq
      exact hnew
    · intro i hi
      rw [System.settle_g, System.execute_g] at hi ⊢
      rw [hjudge, ← hk]
      obtain ⟨e, he⟩ := Option.isSome_iff_exists.mp ((event_register_isSome _ _ _).mpr hregister)
      obtain ⟨j, rfl, -, hslot, hsensors⟩ := event_register he
      rw [StateCall.exec, hsensors] at hi ⊢
      by_cases hij : i = j
      · subst hij
        rw [Function.update_self] at hi ⊢
        rcases hslot with ⟨hs, -⟩ | ⟨-, hfree⟩
        · rw [written_again (slotOf_occupied hs)]
          exact Or.inl ⟨slotOf_occupied hs, rfl⟩
        · rw [written_new hfree]
          exact Or.inr ⟨hnew, rfl⟩
      · rw [Function.update_of_ne hij] at hi ⊢
        exact Or.inl ⟨hi, rfl⟩
    · exact fun hold => absurd hold (absent_of_phase hp (by decide))
    · rcases answered_settle hresp with hresp | ⟨leave, hresp⟩
      · exact Or.inl (answered_execute hresp)
      · cases hresp
        exact Or.inr haccepted

theorem provided_serve {f : Fleet n} {c : Fin n} {s : System n} (hroomy : Roomy client)
    (h : Provided client f) (hs : f.sys.step (.proceed c) = some s)
    (hok : FleetOk client (f.setClient c (judge s c (f.phase c)) (s, f.unread c))) :
    Provided client (f.setClient c (judge s c (f.phase c)) (s, f.unread c)) := by
  have hcoh := h.ok.coherent c
  obtain ⟨ψ, hψ⟩ := busy_of_proceed hs
  cases hp : f.phase c with
  | awaiting => exact provided_answer h hroomy hp hs
  | registered =>
    rw [hp] at hcoh hok
    have hact := h.ok.active c hp
    cases System.step_cases hs with
    | proceed _ φ call hc hcall =>
      rcases hcoh with hcoh | ⟨ψ, hψ, hrep⟩
      · rw [hc] at hcoh
        cases hcoh
      · obtain rfl := ConnState.busy.inj (hc.symm.trans hψ)
        refine provided_proceed h hok ?_ (fun _ => Or.inl rfl) ?_
        · rintro id type rfl
          cases φ with
          | register id' type' => exact hrep
          | _ => cases hcall
        · intro resp leave hresp
          rcases next_reporting (h.ok.ok.phases c φ hc) hrep hact with hnext | hnext
          · rw [hnext] at hresp
            cases hresp
            decide
          · rw [hresp] at hnext
            cases hnext
  | leaving =>
    rw [hp] at hcoh hok
    cases System.step_cases hs with
    | proceed _ φ call hc hcall =>
      rcases hcoh (hroomy.lines c) with hcoh | hcoh | hcoh
      · rw [hc] at hcoh
        cases hcoh
      · rw [hc] at hcoh
        cases hcoh
      · obtain rfl := ConnState.busy.inj (hc.symm.trans hcoh)
        cases hcall
        refine provided_proceed h hok (fun id type heq => by cases heq) (fun _ => Or.inr rfl) ?_
        intro resp leave hresp
        cases hresp
        decide
  | off =>
    rw [hp, hψ] at hcoh
    cases hcoh
  | started =>
    rw [hp, hψ] at hcoh
    cases hcoh
  | refused =>
    rw [hp, hψ] at hcoh
    cases hcoh (hroomy.lines c)

theorem provided_step {f f' : Fleet n} {r : Request n} (hroomy : Roomy client)
    (h : Provided client f) (hstep : f.step client r = some f') : Provided client f' := by
  have hok := fleetOk_step h.ok (h.ok.noForeignQuit hroomy.lines hroomy.own r) hstep
  cases r with
  | connect c =>
    simp only [step] at hstep
    split at hstep
    · rename_i hp
      obtain ⟨s, hs, rfl⟩ := Option.map_eq_some_iff.mp hstep
      cases System.step_cases hs with
      | connect _ hc =>
        refine provided_quiet h hok rfl ?_ rfl
        exact fun hold => absurd hold (absent_of_phase hp (by decide))
    · cases hstep
  | register c =>
    simp only [step] at hstep
    split at hstep
    · rename_i hp
      obtain ⟨r, hr, rfl⟩ := Option.map_eq_some_iff.mp hstep
      obtain ⟨line, hs, ⟨-, rfl, -⟩ | ⟨hnot, -⟩⟩ := hear_register hr
      · have hstart := (client c).heard.start_registerLine
        rw [if_neg (hroomy.named c)] at hstart
        have hsettled := step_receive hs
        rw [hstart] at hsettled
        refine provided_quiet h hok (by rw [hsettled, System.settle_g]) ?_ (by rw [hsettled]; rfl)
        exact fun hold => absurd hold (absent_of_phase hp (by decide))
      · exact absurd hnot (hroomy.lines c)
    · cases hstep
  | metric c value timestamp =>
    simp only [step] at hstep
    split at hstep
    · rename_i hp
      obtain ⟨-, hvalid, hroom⟩ := hp
      obtain ⟨r, hr, rfl⟩ := Option.map_eq_some_iff.mp hstep
      rw [hear_metric (hroomy.lines c) hvalid hroom] at hr
      obtain ⟨s, hs, rfl⟩ := Option.map_eq_some_iff.mp hr
      have hsettled := step_receive hs
      rw [(client c).heard.start_metricLine (hroomy.named c) hvalid] at hsettled
      subst hsettled
      exact provided_quiet h hok rfl (fun _ => Or.inl rfl) rfl
    · cases hstep
  | quit c =>
    simp only [step] at hstep
    split at hstep
    · obtain ⟨r, hr, rfl⟩ := Option.map_eq_some_iff.mp hstep
      rw [hear_quit (hroomy.lines c)] at hr
      obtain ⟨s, hs, rfl⟩ := Option.map_eq_some_iff.mp hr
      have hsettled := step_receive hs
      rw [(client c).heard.start_quitLine, if_neg (hroomy.named c)] at hsettled
      subst hsettled
      exact provided_quiet h hok rfl (fun _ => Or.inr rfl) rfl
    · cases hstep
  | read c =>
    simp only [step] at hstep
    split at hstep
    · cases hstep
    · exact absurd (h.ok.drained c (Or.inl (hroomy.lines c))) ‹_›
  | serve c =>
    obtain ⟨s, hs, rfl⟩ := Option.map_eq_some_iff.mp hstep
    exact provided_serve hroomy h hs hok
  | hangUp c =>
    simp only [step] at hstep
    split at hstep
    · obtain ⟨s, hs, rfl⟩ := Option.map_eq_some_iff.mp hstep
      cases System.step_cases hs with
      | disconnect _ hc => exact provided_quiet h hok rfl (fun _ => Or.inr rfl) rfl
    · cases hstep

theorem served_of_roomy (hroomy : Roomy client) {f : Fleet n} {requests : List (Request n)}
    (hrun : Runs.run (step client) (init n) requests = some f) : f.Served :=
  (Runs.invariant_run (fun h hstep => provided_step hroomy h hstep) provided_init hrun).served

/-! ## Fleets without room -/

/-- A client that has connected is read. -/
theorem hear_idle {s : System n} {c : Fin n} (hidle : s.conn c = .idle) (bytes : Bytes) :
    ∃ r, hear s c bytes = some r := by
  unfold hear
  simp only
  split
  · exact ⟨_, by rw [System.step, hidle]; rfl⟩
  · rename_i hret
    have hline := recvLine_isLine hret
    exact ⟨_, by rw [System.step, hidle]; simp only [if_pos hline, Option.map_some]; rfl⟩

section Enrolling
variable (hserved : ∀ requests f, Runs.run (step client) (init n) requests = some f → f.Served)
include hserved

/-- A client that starts reads its REGISTER's reply: its id is one line, and not empty. -/
theorem named_of_served (c : Fin n) : newline ∉ (client c).id ∧ (client c).heard.id ≠ [] := by
  obtain ⟨s, hconnect⟩ : ∃ s, s = { System.init n with
    conn := Function.update (System.init n).conn c .idle } := ⟨_, rfl⟩
  have hidle : s.conn c = .idle := by simp only [hconnect, Function.update_self]
  obtain ⟨f, hf⟩ : ∃ f, f = (init n).setClient c .started (s, (init n).unread c) := ⟨_, rfl⟩
  have hfirst : (init n).step client (.connect c) = some f := by
    rw [hf, hconnect]
    rfl
  have hphase : f.phase c = .started := by simp only [hf, setClient, Function.update_self]
  have hsys : f.sys = s := by rw [hf]; rfl
  obtain ⟨r, hr⟩ := hear_idle hidle (Client.payload (client c).registerLine)
  have hsecond : f.step client (.register c) = some (f.setClient c (judge r.1 c .awaiting) r) := by
    simp only [step, hphase, if_true, hsys, hr, Option.map_some]
  have hrun : Runs.run (step client) (init n) [.connect c, .register c] =
      some (f.setClient c (judge r.1 c .awaiting) r) := by
    rw [Runs.run_step hfirst, Runs.run_step hsecond]
    rfl
  obtain ⟨line, hs, hheard⟩ := hear_register hr
  have hsettled := step_receive hs
  -- it would be answered 400 otherwise
  by_contra hno
  have hstart : Phase.start (tokenize line 8) = .answered badRequest false := by
    rcases hheard with ⟨hid, rfl, -⟩ | ⟨-, hstart⟩
    · rw [(client c).heard.start_registerLine, if_pos]
      by_contra hname
      exact hno ⟨hid, hname⟩
    · exact hstart
  rw [hstart] at hsettled
  have hbad := hserved _ _ hrun c badRequest (by
    rw [show (f.setClient c (judge r.1 c .awaiting) r).sys = r.1 from rfl, hsettled]
    exact List.mem_cons_self)
  exact absurd hbad (by decide)

/-- A client that is off can register: nobody else is registered under its id then. -/
theorem enroll {requests : List (Request n)} {f : Fleet n}
    (hrun : Runs.run (step client) (init n) requests = some f) (hok : FleetOk client f) {c : Fin n}
    (hoff : f.phase c = .off) : ∃ f', (∃ more, Runs.run (step client) (init n) more = some f') ∧
      FleetOk client f' ∧ f'.phase = Function.update f.phase c .registered ∧
      ∀ i, f.sys.g.slotOf (client c).heard.id = some i → (f.sys.g.sensors i).status ≠ .active := by
  obtain ⟨hid, hname⟩ := named_of_served hserved c
  obtain ⟨k, hk⟩ : ∃ k, k = (client c).heard := ⟨_, rfl⟩
  rw [← hk] at hname
  -- the connection
  have hfresh := hok.coherent c
  rw [hoff] at hfresh
  have hfresh : f.sys.conn c = .fresh := hfresh
  obtain ⟨f₁, hf₁⟩ : ∃ f₁, f₁ = f.setClient c .started
    ({ f.sys with conn := Function.update f.sys.conn c .idle }, f.unread c) := ⟨_, rfl⟩
  have hconnect : f.step client (.connect c) = some f₁ := by
    simp only [step, hoff, if_true, System.step, hfresh, Option.map_some, hf₁]
  have hok₁ := fleetOk_step (r := .connect c) hok (by unfold NoForeignQuit; trivial) hconnect
  have hphase₁ : f₁.phase c = .started := by simp only [hf₁, setClient, Function.update_self]
  have hidle : f₁.sys.conn c = .idle := by simp only [hf₁, setClient, Function.update_self]
  -- the REGISTER
  obtain ⟨r, hr⟩ := hear_idle hidle (Client.payload (client c).registerLine)
  have hsettled : r.1 = f₁.sys.settle c (.register k.id k.type) := by
    obtain ⟨line, hs, ⟨-, rfl, -⟩ | ⟨hnot, -⟩⟩ := hear_register hr
    · rw [step_receive hs, ← hk, k.start_registerLine, if_neg hname]
    · exact absurd hnot hid
  obtain ⟨f₂, hf₂⟩ : ∃ f₂, f₂ = f₁.setClient c .awaiting r := ⟨_, rfl⟩
  have hregister : f₁.step client (.register c) = some f₂ := by
    have hjudge : judge r.1 c .awaiting = .awaiting := by
      simp only [hsettled, judge, System.settle, Function.update_self]
    simp only [step, hphase₁, if_true, hr, Option.map_some, hjudge, hf₂]
  have hok₂ := fleetOk_step (r := .register c) hok₁ (by unfold NoForeignQuit; trivial) hregister
  have hphase₂ : f₂.phase c = .awaiting := by simp only [hf₂, setClient, Function.update_self]
  have hbusy : f₂.sys.conn c = .busy (.register k.id k.type) := by
    simp only [hf₂, setClient, hsettled, System.settle, Function.update_self]
  have hg₂ : f₂.sys.g = f.sys.g := by
    rw [hf₂, show (f₁.setClient c .awaiting r).sys = r.1 from rfl, hsettled, hf₁]
    rfl
  -- the reply
  obtain ⟨s, hs⟩ : ∃ s, s = (f₂.sys.execute c (.register k.id k.type)).settle c
    ((Phase.register k.id k.type).next f₂.sys.g) := ⟨_, rfl⟩
  have hserve : f₂.step client (.serve c) =
      some (f₂.setClient c (judge s c .awaiting) (s, f₂.unread c)) := by
    have hproceed : f₂.sys.step (.proceed c) = some s := by
      simp only [System.step, hbusy, Phase.call, hs]
    simp only [step, hproceed, Option.map_some, hphase₂]
  have hquiet : f₂.NoForeignQuit client (.serve c) := by
    simp only [NoForeignQuit, hbusy]
  have hok₃ := fleetOk_step hok₂ hquiet hserve
  have hrun₃ : Runs.run (step client) (init n) (requests ++ [.connect c, .register c, .serve c]) =
      some (f₂.setClient c (judge s c .awaiting) (s, f₂.unread c)) := by
    apply Runs.run_trans hrun
    rw [Runs.run_step hconnect, Runs.run_step hregister, Runs.run_step hserve]
    rfl
  have haccepted := hserved _ _ hrun₃ c
    (registerReply k.id (stateRegisterSensor k.id k.type f₂.sys.g).1) (by
      rw [show (f₂.setClient c (judge s c .awaiting) (s, f₂.unread c)).sys = s from rfl, hs]
      exact List.mem_cons_self)
  have hresult : (stateRegisterSensor k.id k.type f.sys.g).1 = .ok := by
    rw [accepted_registerReply, decide_eq_true_iff, hg₂] at haccepted
    exact haccepted
  have hjudge : judge s c .awaiting = .registered := by
    simp only [hs, judge, Phase.next, System.settle, Function.update_self, Bool.false_eq_true,
      if_false, haccepted, if_true]
  refine ⟨_, ⟨_, hrun₃⟩, hok₃, ?_, ?_⟩
  · rw [hjudge, hf₂, hf₁]
    simp only [setClient, Function.update_idem]
  · intro i hi hactive
    rw [← hk] at hi
    have hrefused : (stateRegisterSensor k.id k.type f.sys.g).1 = .alreadyExists := by
      simp only [stateRegisterSensor, if_neg k.valid, hi, hactive, reduceCtorEq, if_false]
    rw [hresult] at hrefused
    cases hrefused

/-- The first clients register one after the other; their ids are then different. -/
theorem enrolled {k : Nat} (hk : k ≤ n) : ∃ requests f,
    Runs.run (step client) (init n) requests = some f ∧ FleetOk client f ∧
      (∀ c, f.phase c = if c.val < k then .registered else .off) ∧
      ∀ c c' : Fin n, c.val < k → c'.val < k → (client c).heard.id = (client c').heard.id → c = c' := by
  induction k with
  | zero =>
    refine ⟨[], init n, rfl, fleetOk_init, fun c => rfl, ?_⟩
    intro c c' hc
    exact absurd hc (Nat.not_lt_zero _)
  | succ k ih =>
    obtain ⟨requests, f, hrun, hok, hphase, hdifferent⟩ := ih (Nat.le_of_succ_le hk)
    have hoff : f.phase ⟨k, hk⟩ = .off := by rw [hphase, if_neg (Nat.lt_irrefl k)]
    obtain ⟨f', ⟨more, hrun'⟩, hok', hphase', hfree⟩ := enroll hserved hrun hok hoff
    -- the newest id is nobody's: a registered client's sensor is ACTIVE
    have hnew : ∀ c : Fin n, c.val < k → (client c).heard.id ≠ (client ⟨k, hk⟩).heard.id := by
      intro c hc heq
      obtain ⟨i, hi, hactive⟩ := hok.active c (by rw [hphase, if_pos hc])
      rw [heq] at hi
      exact hfree i hi hactive
    refine ⟨more, f', hrun', hok', ?_, ?_⟩
    · intro c
      rw [hphase']
      by_cases hc : c = ⟨k, hk⟩
      · subst hc
        rw [Function.update_self, if_pos (Nat.lt_succ_self k)]
      · have hval : c.val ≠ k := fun h => hc (Fin.ext h)
        rw [Function.update_of_ne hc, hphase]
        by_cases hlt : c.val < k
        · rw [if_pos hlt, if_pos (Nat.lt_succ_of_lt hlt)]
        · rw [if_neg hlt, if_neg (by omega)]
    · intro c c' hc hc' heq
      rcases Nat.lt_succ_iff_lt_or_eq.mp hc with hc | hc
      · rcases Nat.lt_succ_iff_lt_or_eq.mp hc' with hc' | hc'
        · exact hdifferent c c' hc hc' heq
        · obtain rfl : c' = ⟨k, hk⟩ := Fin.ext hc'
          exact absurd heq (hnew c hc)
      · obtain rfl : c = ⟨k, hk⟩ := Fin.ext hc
        rcases Nat.lt_succ_iff_lt_or_eq.mp hc' with hc' | hc'
        · exact absurd heq.symm (hnew c' hc')
        · exact Fin.ext hc'.symm

theorem roomy_of_served : Roomy client := by
  obtain ⟨requests, f, -, hok, hphase, hdifferent⟩ :=
    enrolled hserved (Nat.le_refl n)
  have hregistered : ∀ c, f.phase c = .registered := fun c => by rw [hphase, if_pos c.isLt]
  have hown : Function.Injective fun c => (client c).heard.id :=
    fun c c' heq => hdifferent c c' c.isLt c'.isLt heq
  refine ⟨fun c => (named_of_served hserved c).1, fun c => (named_of_served hserved c).2, hown, ?_⟩
  -- each client's sensor is in a slot of its own
  choose slot hslot _ using fun c => hok.active c (hregistered c)
  have hinjective : Function.Injective slot := by
    intro c c' heq
    apply hown
    have hid : (f.sys.g.sensors (slot c')).id.text = (client c').heard.id := slotOf_id (hslot c')
    rw [← heq] at hid
    exact (slotOf_id (hslot c)).symm.trans hid
  have hcard := Fintype.card_le_of_injective slot hinjective
  rwa [Fintype.card_fin, Fintype.card_fin] at hcard

end Enrolling

/-- All replies of a fleet begin with 200, however its requests are ordered and interleaved,
exactly when its clients' ids are of one line, not empty and different as they are heard, and the
table has a slot for each. -/
theorem fleet_served_iff :
    (∀ requests f, Runs.run (step client) (init n) requests = some f → f.Served) ↔
      Roomy client :=
  ⟨fun hserved => roomy_of_served hserved, fun hroomy _ _ hrun => served_of_roomy hroomy hrun⟩

/-- `DEFAULT_SENSORS` of the launcher. -/
def defaultSensor : Fin 5 → Bytes × SensorType
  | 0 => (ascii "sensor01", .temp)
  | 1 => (ascii "sensor02", .temp)
  | 2 => (ascii "sensor03", .vib)
  | 3 => (ascii "sensor04", .vib)
  | 4 => (ascii "sensor05", .power)

theorem defaultSensor_fits (c : Fin 5) : (defaultSensor c).1.length < maxIdLen := by
  revert c
  decide

theorem defaultSensor_clean (c : Fin 5) : ∀ b ∈ (defaultSensor c).1, isBlank b = false ∧ b ≠ 0 := by
  revert c
  decide

theorem defaultSensor_valid (c : Fin 5) : (defaultSensor c).2 ≠ .invalid := by
  revert c
  decide

def defaultSensors (c : Fin 5) : Client where
  id := (defaultSensor c).1
  type := (defaultSensor c).2
  fits := defaultSensor_fits c
  clean := defaultSensor_clean c
  valid := defaultSensor_valid c

theorem fleet_served_defaultSensors : Roomy defaultSensors ∧ ∀ requests f,
    Runs.run (step defaultSensors) (init 5) requests = some f → f.Served := by
  have hroomy : Roomy defaultSensors := ⟨by decide, by decide, by decide, by decide⟩
  exact ⟨hroomy, fleet_served_iff.mpr hroomy⟩

end Fleet

end IotMonitoring
