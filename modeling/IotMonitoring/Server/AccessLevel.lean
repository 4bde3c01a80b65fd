import IotMonitoring.Server.CriticalSections
import IotMonitoring.Server.Linearization

/-!
# The server, access by access

The connections of `System` with their critical sections taken apart: a thread
takes `g_state.lock`, reads and writes `g_state` one access at a time while the
others move, gives the lock back, and only then hands its reply to the socket.
What clients see of this server they can see of `System` too, with some replies
delayed.
-/

namespace IotMonitoring

open ByteStrings Binary64 Mutexes AtomicObjects
set_option autoImplicit false

/-- What a connection does without the lock. -/
inductive ConnInput where
  | connect
  | receive (line : Bytes)
  | send
  | disconnect

namespace ConnState

def move : ConnState → ConnInput → Option ConnState
  | .fresh, .connect => some .idle
  | .idle, .receive line =>
    if IsLine line then some (.busy (.start (tokenize line 8))) else none
  | .idle, .disconnect => some .closed
  | .busy (.answered _ leave), .send => some (if leave then .closed else .idle)
  | _, _ => none

/-- The critical section a connection is about to enter. -/
def body : ConnState → Option (Accesses GlobalState ConnState)
  | .busy φ => φ.accesses.map fun p => p >>= fun φ' => pure (.busy φ')
  | _ => none

/-- Where the connection stands once its reply is out. -/
def settled : ConnState → ConnState
  | .busy (.answered _ leave) => if leave then .closed else .idle
  | conn => conn

end ConnState

def threads : Machine GlobalState ConnState ConnInput := ⟨ConnState.body, ConnState.move⟩

/-- What a client sees of a step of its connection. -/
def shows {n : Nat} (c : Fin n) : ConnState → Option ConnInput → ConnState →
    List (Visible (Fin n) Bytes Bytes)
  | _, some (.receive line), _ => [.call c line]
  | .busy (.answered resp _), some .send, _ => [.answer c resp]
  | _, _, _ => []

abbrev AccessState (n : Nat) := Mutexes.State (Fin n) GlobalState ConnState

abbrev SectionState (n : Nat) := Mutexes.Whole (Fin n) GlobalState ConnState

/-- The server right after `state_init`. -/
def accessInit (n : Nat) : AccessState n := Machine.start stateInit fun _ => .fresh

theorem body_run {φ : Phase} {p : Accesses GlobalState ConnState}
    (h : (ConnState.busy φ).body = some p) :
    ∃ call, φ.call = some call ∧ ∀ g, p.run g = (.busy (φ.next g), call.exec g) := by
  obtain ⟨q, hq, rfl⟩ := Option.map_eq_some_iff.mp h
  obtain ⟨call, hcall, hrun⟩ := accesses_run hq
  refine ⟨call, hcall, fun g => ?_⟩
  rw [Accesses.run_bind_of (hrun g)]
  rfl

theorem body_accesses {conn : ConnState} {p : Accesses GlobalState ConnState}
    (h : conn.body = some p) (g : GlobalState) : p.accesses g ≤ sectionBound := by
  cases conn with
  | busy φ =>
    obtain ⟨q, hq, rfl⟩ := Option.map_eq_some_iff.mp h
    rw [Accesses.accesses_bind]
    exact accesses_le hq g
  | _ => cases h

/-- A step without the lock. -/
inductive Moved : ConnState → ConnInput → ConnState → Prop where
  | connect : Moved .fresh .connect .idle
  | receive (line : Bytes) (hline : IsLine line) :
      Moved .idle (.receive line) (.busy (.start (tokenize line 8)))
  | send (resp : Bytes) (leave : Bool) :
      Moved (.busy (.answered resp leave)) .send (if leave then .closed else .idle)
  | disconnect : Moved .idle .disconnect .closed

theorem move_cases {conn conn' : ConnState} {i : ConnInput} (h : conn.move i = some conn') :
    Moved conn i conn' := by
  unfold ConnState.move at h
  split at h
  · cases h
    exact .connect
  · split at h
    · cases h
      exact .receive _ ‹_›
    · cases h
  · cases h
    exact .disconnect
  · cases h
    exact .send _ _
  · cases h

namespace System
variable {n : Nat} {s s' : System n} {w w' : SectionState n}

theorem settle_conn (s : System n) (c : Fin n) (φ : Phase) :
    (s.settle c φ).conn = Function.update s.conn c (ConnState.busy φ).settled := by
  cases φ <;> rfl

/-! ## Replies on their way -/

/-- The system has come as far as the threads, except for the replies still to be sent. -/
structure Ahead (s : System n) (w : SectionState n) (pending : List (Visible (Fin n) Bytes Bytes)) :
    Prop where
  g : s.g = w.memory
  conn : ∀ c, s.conn c = (w.control c).settled
  waiting : ∀ c resp leave, w.control c = .busy (.answered resp leave) → .answer c resp ∈ pending
  answers : ∀ a ∈ pending, ∃ c resp leave, a = .answer c resp ∧ w.control c = .busy (.answered resp leave)
  once : pending.Pairwise fun a b => a.process ≠ b.process

variable {pending : List (Visible (Fin n) Bytes Bytes)}

theorem ahead_init (n : Nat) : Ahead (init n) ⟨stateInit, fun _ => .fresh⟩ [] where
  g := rfl
  conn _ := rfl
  waiting c resp leave h := by cases h
  answers a ha := by cases ha
  once := List.Pairwise.nil

/-- Nothing waits to be sent to a connection that is not about to send. -/
theorem Ahead.not_pending (h : Ahead s w pending) {c : Fin n}
    (hc : ∀ resp leave, w.control c ≠ .busy (.answered resp leave)) :
    ∀ a ∈ pending, ∃ p res, a = .answer p res ∧ c ≠ p := by
  intro a ha
  obtain ⟨p, resp, leave, rfl, hp⟩ := h.answers a ha
  refine ⟨p, resp, rfl, ?_⟩
  rintro rfl
  exact hc resp leave hp

/-- A connection is put into a phase, in the state `g` of the tables. -/
theorem ahead_settle (h : Ahead s w pending) {c : Fin n} (φ : Phase) {u : System n}
    (hc : ∀ resp leave, w.control c ≠ .busy (.answered resp leave)) (hconn : u.conn = s.conn) :
    Ahead (u.settle c φ) ⟨u.g, Function.update w.control c (.busy φ)⟩ (pending ++ answerOf c φ) := by
  have hother : ∀ a ∈ pending, ∃ p resp leave, a = .answer p resp ∧ p ≠ c ∧
      w.control p = .busy (.answered resp leave) := by
    intro a ha
    obtain ⟨p, resp, leave, rfl, hp⟩ := h.answers a ha
    refine ⟨p, resp, leave, rfl, ?_, hp⟩
    rintro rfl
    exact hc resp leave hp
  refine ⟨settle_g u c φ, fun c' => ?_, fun c' resp leave hc' => ?_, fun a ha => ?_, ?_⟩
  · rw [settle_conn, hconn]
    by_cases hcc : c' = c
    · simp only [hcc, Function.update_self]
    · simp only [Function.update_of_ne hcc]
      exact h.conn c'
  · by_cases hcc : c' = c
    · simp only [hcc, Function.update_self, ConnState.busy.injEq] at hc'
      rw [hc', hcc]
      exact List.mem_append_right _ List.mem_cons_self
    · simp only [Function.update_of_ne hcc] at hc'
      exact List.mem_append_left _ (h.waiting c' resp leave hc')
  · rcases List.mem_append.mp ha with ha | ha
    · obtain ⟨p, resp, leave, rfl, hne, hp⟩ := hother a ha
      refine ⟨p, resp, leave, rfl, ?_⟩
      simp only [Function.update_of_ne hne]
      exact hp
    · cases φ with
      | answered resp leave =>
        obtain rfl := List.mem_singleton.mp ha
        exact ⟨c, resp, leave, rfl, Function.update_self _ _ _⟩
      | _ => cases ha
  · refine List.pairwise_append.mpr ⟨h.once, ?_, fun a ha b hb => ?_⟩
    · cases φ with
      | answered resp leave => exact List.pairwise_singleton _ _
      | _ => exact List.Pairwise.nil
    · obtain ⟨p, resp, leave, rfl, hne, -⟩ := hother a ha
      cases φ with
      | answered resp leave =>
        obtain rfl := List.mem_singleton.mp hb
        exact hne
      | _ => cases hb

/-- A connection comes or goes. -/
theorem ahead_moved (h : Ahead s w pending) {c : Fin n} {conn : ConnState}
    (hc : ∀ resp leave, w.control c ≠ .busy (.answered resp leave))
    (hconn : ∀ φ, conn ≠ .busy φ) : Ahead { s with conn := Function.update s.conn c conn }
      { w with control := Function.update w.control c conn } pending := by
  have hsettled : conn.settled = conn := by
    cases conn with
    | busy φ => exact absurd rfl (hconn φ)
    | _ => rfl
  refine ⟨h.g, fun c' => ?_, fun c' resp leave hc' => ?_, fun a ha => ?_, h.once⟩
  · by_cases hcc : c' = c
    · simp only [hcc, Function.update_self]
      exact hsettled.symm
    · simp only [Function.update_of_ne hcc]
      exact h.conn c'
  · by_cases hcc : c' = c
    · simp only [hcc, Function.update_self] at hc'
      exact absurd hc' (hconn _)
    · simp only [Function.update_of_ne hcc] at hc'
      exact h.waiting c' resp leave hc'
  · obtain ⟨p, resp, leave, rfl, hp⟩ := h.answers a ha
    refine ⟨p, resp, leave, rfl, ?_⟩
    have hne : p ≠ c := by
      rintro rfl
      exact hc resp leave hp
    simp only [Function.update_of_ne hne]
    exact hp

/-- What a step of the threads shows, and what the system shows for it. -/
def Keeps (s : System n) (w' : SectionState n) (pending shown : List (Visible (Fin n) Bytes Bytes)) :
    Prop :=
  ∃ actions s' pending', Runs.run step s actions = some s' ∧ Ahead s' w' pending' ∧
    Delayed (pending ++ Runs.trace step visible s actions) (shown ++ pending')

theorem keeps_move (h : Ahead s w pending) {c : Fin n} {i : ConnInput} {conn : ConnState}
    (hmove : (w.control c).move i = some conn) :
    Keeps s { w with control := Function.update w.control c conn } pending
      (shows c (w.control c) (some i) conn) := by
  have hconn := h.conn c
  generalize hw : w.control c = before at hmove hconn
  cases move_cases hmove with
  | connect =>
    have hstep : s.step (.connect c) = some { s with conn := Function.update s.conn c .idle } := by
      have hfresh : s.conn c = .fresh := hconn
      simp only [step, hfresh]
    refine ⟨[.connect c], _, pending, (Runs.run_step hstep _).trans rfl,
      ahead_moved h (by rw [hw]; exact fun _ _ h => by cases h) (fun φ h => by cases h), ?_⟩
    rw [Runs.trace_step hstep]
    simp only [visible, Runs.trace, List.append_nil, shows, List.nil_append]
    exact .refl
  | receive line hline =>
    have hidle : s.conn c = .idle := hconn
    have hstep : s.step (.receive c line) = some (s.settle c (.start (tokenize line 8))) := by
      simp only [step, hidle, if_pos hline]
    have hquiet : ∀ resp leave, w.control c ≠ .busy (.answered resp leave) := by
      rw [hw]
      exact fun _ _ h => by cases h
    have hahead := ahead_settle h (.start (tokenize line 8)) hquiet (u := s) rfl
    rw [h.g] at hahead
    refine ⟨[.receive c line], _, _, (Runs.run_step hstep _).trans rfl, hahead, ?_⟩
    rw [Runs.trace_step hstep]
    simp only [visible, Runs.trace, List.append_nil, shows]
    exact Delayed.past (v := .call c line) (h.not_pending hquiet) []
  | send resp leave =>
    obtain ⟨before, after, hpending⟩ := List.append_of_mem (h.waiting c resp leave hw)
    have honce := h.once
    rw [hpending, List.pairwise_append, List.pairwise_cons] at honce
    have hothers : ∀ a ∈ before ++ after, a.process ≠ c := by
      intro a ha
      rcases List.mem_append.mp ha with ha | ha
      · exact honce.2.2 a ha _ List.mem_cons_self
      · exact fun heq => honce.2.1.1 a ha heq.symm
    have hanswers : ∀ a ∈ before ++ after, ∃ p res leave', a = .answer p res ∧ p ≠ c ∧
        w.control p = .busy (.answered res leave') := by
      intro a ha
      have hmem : a ∈ pending := by
        rw [hpending]
        rcases List.mem_append.mp ha with ha | ha
        · exact List.mem_append_left _ ha
        · exact List.mem_append_right _ (List.mem_cons_of_mem _ ha)
      obtain ⟨p, res, leave', rfl, hp⟩ := h.answers a hmem
      exact ⟨p, res, leave', rfl, hothers _ ha, hp⟩
    refine ⟨[], s, before ++ after, rfl, ⟨h.g, fun c' => ?_, fun c' res leave' hc' => ?_,
      fun a ha => ?_, ?_⟩, ?_⟩
    · by_cases hcc : c' = c
      · simp only [hcc, Function.update_self]
        rw [hconn]
        cases leave <;> rfl
      · simp only [Function.update_of_ne hcc]
        exact h.conn c'
    · by_cases hcc : c' = c
      · simp only [hcc, Function.update_self] at hc'
        cases leave <;> cases hc'
      · simp only [Function.update_of_ne hcc] at hc'
        have hmem := h.waiting c' res leave' hc'
        rw [hpending] at hmem
        rcases List.mem_append.mp hmem with hmem | hmem
        · exact List.mem_append_left _ hmem
        rcases List.mem_cons.mp hmem with heq | hmem
        · cases heq
          exact absurd rfl hcc
        · exact List.mem_append_right _ hmem
    · obtain ⟨p, res, leave', rfl, hne, hp⟩ := hanswers a ha
      refine ⟨p, res, leave', rfl, ?_⟩
      simp only [Function.update_of_ne hne]
      exact hp
    · exact List.pairwise_append.mpr ⟨honce.1, honce.2.1.2, fun a ha b hb =>
        honce.2.2 a ha b (List.mem_cons_of_mem _ hb)⟩
    · rw [hpending]
      simp only [Runs.trace, List.append_nil, shows]
      refine Delayed.past (fun a ha => ?_) []
      obtain ⟨p, res, -, rfl, hne, -⟩ := hanswers a (List.mem_append_left _ ha)
      exact ⟨p, res, rfl, hne.symm⟩
  | disconnect =>
    have hstep : s.step (.disconnect c) = some { s with conn := Function.update s.conn c .closed } := by
      have hidle : s.conn c = .idle := hconn
      simp only [step, hidle]
    refine ⟨[.disconnect c], _, pending, (Runs.run_step hstep _).trans rfl,
      ahead_moved h (by rw [hw]; exact fun _ _ h => by cases h) (fun φ h => by cases h), ?_⟩
    rw [Runs.trace_step hstep]
    simp only [visible, Runs.trace, List.append_nil, shows, List.nil_append]
    exact .refl

theorem keeps_enter (h : Ahead s w pending) {c : Fin n} {p : Accesses GlobalState ConnState}
    (hbody : (w.control c).body = some p) :
    Keeps s ⟨(p.run w.memory).2, Function.update w.control c (p.run w.memory).1⟩ pending [] := by
  cases hw : w.control c with
  | busy φ =>
    rw [hw] at hbody
    obtain ⟨call, hcall, hrun⟩ := body_run hbody
    have hanswered : ∀ resp leave, ConnState.busy φ ≠ .busy (.answered resp leave) := by
      rintro resp leave heq
      cases heq
      cases hcall
    have hbusy : s.conn c = .busy φ := by
      rw [h.conn c, hw]
      cases φ with
      | answered resp leave => cases hcall
      | _ => rfl
    have hstep := step_proceed hbusy hcall
    have hahead := ahead_settle h (φ.next s.g) (u := s.execute c call)
      (by rw [hw]; exact hanswered) rfl
    rw [hrun w.memory, ← h.g]
    refine ⟨[.proceed c], _, _, (Runs.run_step hstep _).trans rfl, hahead, ?_⟩
    rw [Runs.trace_step hstep]
    simp only [visible, hbusy, Runs.trace, List.append_nil, List.nil_append]
    exact .refl
  | _ =>
    rw [hw] at hbody
    cases hbody

theorem keeps_run (h : Ahead s w pending) {ls : List (WholeLabel (Fin n) ConnInput)}
    (hrun : Runs.run threads.stepWhole w ls = some w') :
    Keeps s w' pending (Runs.trace threads.stepWhole (threads.visibleWhole shows) w ls) := by
  induction ls generalizing s w pending with
  | nil =>
    obtain rfl := Option.some.inj hrun
    refine ⟨[], s, pending, rfl, h, ?_⟩
    rw [Runs.trace, Runs.trace, List.append_nil]
    exact .refl
  | cons l ls ih =>
    obtain ⟨u, hu, hrun⟩ := Option.bind_eq_some_iff.mp hrun
    have hfirst : Keeps s u pending (threads.visibleWhole shows w l) := by
      cases l with
      | move c i =>
        obtain ⟨conn, hmove, rfl⟩ := Option.map_eq_some_iff.mp hu
        have hshown : threads.visibleWhole shows w (.move c i) =
            shows c (w.control c) (some i) conn := by
          simp only [Machine.visibleWhole, hmove, Option.elim_some]
        rw [hshown]
        exact keeps_move h hmove
      | enter c =>
        obtain ⟨p, hbody, rfl⟩ := Option.map_eq_some_iff.mp hu
        have hshown : threads.visibleWhole shows w (.enter c : WholeLabel (Fin n) ConnInput) = [] := by
          simp only [Machine.visibleWhole, hbody, Option.elim_some, shows]
        rw [hshown]
        exact keeps_enter h hbody
    obtain ⟨actions, t, pending', hactions, hahead, hdelayed⟩ := hfirst
    obtain ⟨more, t', pending'', hmore, hahead', hdelayed'⟩ := ih hahead hrun
    refine ⟨actions ++ more, t', pending'', Runs.run_trans hactions hmore, hahead', ?_⟩
    rw [Runs.trace_append hactions, Runs.trace_step hu, ← List.append_assoc]
    refine (hdelayed.append _).trans ?_
    rw [List.append_assoc, List.append_assoc]
    exact hdelayed'.prepend _

/-! ## Runs of the system, access by access -/

/-- The steps of the threads that put a connection into a phase and send what it answers. -/
def settling (c : Fin n) (first : WholeLabel (Fin n) ConnInput) :
    Phase → List (WholeLabel (Fin n) ConnInput)
  | .answered _ _ => [first, .move c .send]
  | _ => [first]

theorem whole_settling {c : Fin n} {φ : Phase} {g : GlobalState}
    {first : WholeLabel (Fin n) ConnInput}
    (hfirst : threads.stepWhole w first = some ⟨g, Function.update w.control c (.busy φ)⟩)
    {u : System n} (hg : u.g = g) (hconn : u.conn = w.control) :
    Runs.run threads.stepWhole w (settling c first φ) =
        some ⟨(u.settle c φ).g, (u.settle c φ).conn⟩ ∧
      Runs.trace threads.stepWhole (threads.visibleWhole shows) w (settling c first φ) =
        threads.visibleWhole shows w first ++ answerOf c φ := by
  subst hg
  rw [settle_conn, settle_g, hconn]
  cases φ with
  | answered resp leave =>
    have hsend : threads.stepWhole
        (⟨u.g, Function.update w.control c (.busy (.answered resp leave))⟩ : SectionState n)
        (.move c .send) = some ⟨u.g, Function.update w.control c
          (ConnState.busy (.answered resp leave)).settled⟩ := by
      simp only [Machine.stepWhole, threads, Function.update_self, ConnState.move, Option.map_some,
        Function.update_idem, ConnState.settled]
    constructor
    · rw [settling, Runs.run_step hfirst, Runs.run_step hsend]
      rfl
    · rw [settling, Runs.trace_step hfirst, Runs.trace_step hsend]
      simp only [Machine.visibleWhole, threads, Function.update_self, ConnState.move,
        Option.elim_some, shows, answerOf, Runs.trace, List.append_nil]
  | _ =>
    constructor
    · exact (Runs.run_step hfirst _).trans rfl
    · exact (Runs.trace_step hfirst _).trans rfl

/-- Every run of the system is one of the threads, with each reply sent at once. -/
theorem whole_of_step {a : Action n} (hstep : s.step a = some s') :
    ∃ ls, Runs.run threads.stepWhole (⟨s.g, s.conn⟩ : SectionState n) ls = some ⟨s'.g, s'.conn⟩ ∧
      Runs.trace threads.stepWhole (threads.visibleWhole shows) ⟨s.g, s.conn⟩ ls = s.visible a := by
  cases step_cases hstep with
  | connect c hc =>
    have hmove : threads.stepWhole (⟨s.g, s.conn⟩ : SectionState n) (.move c .connect) =
        some ⟨s.g, Function.update s.conn c .idle⟩ := by
      simp only [Machine.stepWhole, threads, hc, ConnState.move, Option.map_some]
    refine ⟨[.move c .connect], (Runs.run_step hmove _).trans rfl, ?_⟩
    rw [Runs.trace_step hmove]
    simp only [Machine.visibleWhole, threads, hc, ConnState.move, Option.elim_some, shows, visible,
      Runs.trace, List.append_nil]
  | receive c line hc hline =>
    have hmove : threads.stepWhole (⟨s.g, s.conn⟩ : SectionState n) (.move c (.receive line)) =
        some ⟨s.g, Function.update s.conn c (.busy (.start (tokenize line 8)))⟩ := by
      simp only [Machine.stepWhole, threads, hc, ConnState.move, if_pos hline, Option.map_some]
    obtain ⟨hrun, htrace⟩ := whole_settling hmove (u := s) rfl rfl
    refine ⟨_, hrun, htrace.trans ?_⟩
    simp only [Machine.visibleWhole, threads, hc, ConnState.move, if_pos hline, Option.elim_some,
      shows, visible, List.cons_append, List.nil_append]
  | proceed c φ call hc hcall =>
    obtain ⟨p, hp⟩ := Option.ne_none_iff_exists'.mp fun hnone => by
      rw [accesses_none.mp hnone] at hcall
      cases hcall
    have hbody : (ConnState.busy φ).body = some (p >>= fun φ' => pure (.busy φ')) := by
      simp only [ConnState.body, hp, Option.map_some]
    obtain ⟨call', hcall', hresult⟩ := body_run hbody
    obtain rfl : call = call' := Option.some.inj (hcall.symm.trans hcall')
    have henter : threads.stepWhole (⟨s.g, s.conn⟩ : SectionState n) (.enter c) =
        some ⟨call.exec s.g, Function.update s.conn c (.busy (φ.next s.g))⟩ := by
      simp only [Machine.stepWhole, threads, hc, hbody, Option.map_some, hresult]
    obtain ⟨hrun, htrace⟩ := whole_settling henter (u := s.execute c call) rfl rfl
    refine ⟨_, hrun, htrace.trans ?_⟩
    simp only [Machine.visibleWhole, threads, hc, hbody, Option.elim_some, shows, visible,
      List.nil_append]
  | disconnect c hc =>
    have hmove : threads.stepWhole (⟨s.g, s.conn⟩ : SectionState n) (.move c .disconnect) =
        some ⟨s.g, Function.update s.conn c .closed⟩ := by
      simp only [Machine.stepWhole, threads, hc, ConnState.move, Option.map_some]
    refine ⟨[.move c .disconnect], (Runs.run_step hmove _).trans rfl, ?_⟩
    rw [Runs.trace_step hmove]
    simp only [Machine.visibleWhole, threads, hc, ConnState.move, Option.elim_some, shows, visible,
      Runs.trace, List.append_nil]

theorem whole_of_run {actions : List (Action n)} (hrun : Runs.run step s actions = some s') :
    ∃ ls, Runs.run threads.stepWhole (⟨s.g, s.conn⟩ : SectionState n) ls = some ⟨s'.g, s'.conn⟩ ∧
      Runs.trace threads.stepWhole (threads.visibleWhole shows) ⟨s.g, s.conn⟩ ls =
        Runs.trace step visible s actions := by
  induction actions generalizing s with
  | nil =>
    obtain rfl := Option.some.inj hrun
    exact ⟨[], rfl, rfl⟩
  | cons a actions ih =>
    obtain ⟨t, ht, hrun⟩ := Option.bind_eq_some_iff.mp hrun
    obtain ⟨ls, hls, hshown⟩ := whole_of_step ht
    obtain ⟨more, hmore, hrest⟩ := ih hrun
    refine ⟨ls ++ more, Runs.run_trans hls hmore, ?_⟩
    rw [Runs.trace_append hls, hshown, hrest, Runs.trace_step ht]

/-! ## The two levels -/

theorem refines_accessInit (n : Nat) :
    Machine.Refines threads (accessInit n) ⟨stateInit, fun _ => .fresh⟩ :=
  Machine.refines_start stateInit fun _ => ConnState.fresh

/-- A run of single accesses, as a run of the system that is ahead of it by some replies. -/
theorem accesses_ahead {labels : List (Mutexes.Label (Fin n) ConnInput)} {x : AccessState n}
    (hrun : Runs.run threads.step (accessInit n) labels = some x) :
    ∃ actions t w pending, Runs.run step (init n) actions = some t ∧ Machine.Refines threads x w ∧
      Ahead t w pending ∧ Delayed (Runs.trace step visible (init n) actions)
        (Runs.trace threads.step (threads.visible shows) (accessInit n) labels ++ pending) := by
  obtain ⟨ms, w, hwhole, htrace, hrefines⟩ := Machine.refines_run (refines_accessInit n) hrun
  obtain ⟨actions, t, pending, hactions, hahead, hdelayed⟩ := keeps_run (ahead_init n) hwhole
  rw [htrace, List.nil_append] at hdelayed
  exact ⟨actions, t, w, pending, hactions, hrefines, hahead, hdelayed⟩

/-- Whatever clients see of the server that takes its lock and makes its accesses one by one, they
can see of the system whose critical sections are single steps, if replies may be delayed; and the
other way round, with no delay. -/
theorem sections_atomic (n : Nat) :
    (∀ labels x, Runs.run threads.step (accessInit n) labels = some x →
      ∃ actions t pending, Runs.run step (init n) actions = some t ∧
        Delayed (Runs.trace step visible (init n) actions)
          (Runs.trace threads.step (threads.visible shows) (accessInit n) labels ++ pending) ∧
        (∀ a ∈ pending, ∃ c resp leave, a = .answer c resp ∧
          x.control c = .outside (.busy (.answered resp leave))) ∧
        (x.owner = none → x.memory = t.g)) ∧
    ∀ actions t, Runs.run step (init n) actions = some t →
      ∃ labels, Runs.run threads.step (accessInit n) labels = some (Machine.start t.g t.conn) ∧
        Runs.trace threads.step (threads.visible shows) (accessInit n) labels =
          Runs.trace step visible (init n) actions := by
  constructor
  · intro labels x hrun
    obtain ⟨actions, t, w, pending, hactions, hrefines, hahead, hdelayed⟩ := accesses_ahead hrun
    refine ⟨actions, t, pending, hactions, hdelayed, fun a ha => ?_, fun hfree => ?_⟩
    · obtain ⟨c, resp, leave, rfl, hc⟩ := hahead.answers a ha
      refine ⟨c, resp, leave, rfl, ?_⟩
      cases hx : x.control c with
      | outside q => rw [← hrefines.outside c q hx, hc]
      | inside q rest =>
        -- a connection with its reply enters no section
        obtain ⟨hq, p, hp, -⟩ := hrefines.inside c q rest hx
        rw [← hq, hc] at hp
        cases hp
    · rw [hahead.g, hrefines.free hfree]
  · intro actions t hrun
    obtain ⟨ms, hms, hshown⟩ := whole_of_run hrun
    obtain ⟨labels, hlabels, htrace⟩ := Machine.run_whole hms
    exact ⟨labels, hlabels, htrace.trans hshown⟩

/-- One connection is answered while another scans the table under the lock. -/
def scanningStatus (a b : Fin n) : List (Mutexes.Label (Fin n) ConnInput) :=
  [.move a .connect, .move b .connect, .move a (.receive (ascii "STATUS s1")), .lock a, .access a,
    .move b (.receive (ascii "PING s2")), .access a, .move b .send, .access a]

def scanningSeen (a b : Fin n) : List (Visible (Fin n) Bytes Bytes) :=
  [.call a (ascii "STATUS s1"), .call b (ascii "PING s2"), .answer b pong]

theorem scanningStatus_run : ∃ x rest,
    Runs.run threads.step (accessInit 2) (scanningStatus 0 1) = some x ∧
    x.control 0 = .inside (.busy (.findStatus (ascii "s1"))) rest := ⟨_, _, rfl, rfl⟩

theorem scanningStatus_trace :
    Runs.trace threads.step (threads.visible shows) (accessInit 2) (scanningStatus 0 1) =
      scanningSeen 0 1 := by
  rfl

theorem sections_atomic_scanning : ∃ actions t pending, Runs.run step (init 2) actions = some t ∧
    Delayed (Runs.trace step visible (init 2) actions) (scanningSeen 0 1 ++ pending) := by
  obtain ⟨x, -, hx, -⟩ := scanningStatus_run
  obtain ⟨actions, t, pending, hrun, hdelayed, -⟩ := (sections_atomic 2).1 _ x hx
  rw [scanningStatus_trace] at hdelayed
  exact ⟨actions, t, pending, hrun, hdelayed⟩

/-! ## The lock -/

theorem exclusive_run {labels : List (Mutexes.Label (Fin n) ConnInput)} {x : AccessState n}
    (hrun : Runs.run threads.step (accessInit n) labels = some x) :
    Machine.Exclusive x ∧ Machine.Bounded sectionBound x := by
  refine Runs.invariant_run (I := fun x => Machine.Exclusive x ∧ Machine.Bounded sectionBound x) ?_
    ⟨Machine.exclusive_start _ _, fun c q rest h => by cases h⟩ hrun
  intro x l x' h hstep
  exact ⟨Machine.exclusive_step h.1 hstep,
    Machine.bounded_step (fun q p hp => body_accesses hp) h.1 h.2 hstep⟩

/-- In every state the server reaches at most one connection is inside a critical section, left
alone it gives the lock back after at most 202 accesses, and every connection that waits for the
lock can still get it. -/
theorem lock_exclusive_and_released {labels : List (Mutexes.Label (Fin n) ConnInput)}
    {x : AccessState n} (hrun : Runs.run threads.step (accessInit n) labels = some x) :
    (∀ c c' q q' rest rest', x.control c = .inside q rest → x.control c' = .inside q' rest' → c = c') ∧
    (∀ c q rest, x.control c = .inside q rest → x.owner = some c ∧ ∃ k ≤ 202, ∃ x',
      Runs.run threads.step x (List.replicate k (.access c) ++ [.unlock c]) = some x' ∧
        x'.owner = none) ∧
    (∀ c φ, x.control c = .outside (.busy φ) → φ.call ≠ none → ∃ more x' q rest,
      Runs.run threads.step x more = some x' ∧ x'.owner = some c ∧ x'.control c = .inside q rest) := by
  obtain ⟨hexclusive, hbounded⟩ := exclusive_run hrun
  refine ⟨fun c c' q q' rest rest' hc hc' => hexclusive.inside_unique hc hc', ?_, ?_⟩
  · intro c q rest hc
    have hfinish := (Machine.run_finish threads shows hc).1
    exact ⟨(hexclusive c).mpr ⟨q, rest, hc⟩, rest.accesses x.memory, hbounded c q rest hc, _, hfinish,
      rfl⟩
  · intro c φ hc hcall
    obtain ⟨p, hp⟩ := Option.ne_none_iff_exists'.mp fun hnone => hcall (accesses_none.mp hnone)
    have hbody : threads.body (.busy φ) = some (p >>= fun φ' => pure (.busy φ')) := by
      simp only [threads, ConnState.body, hp, Option.map_some]
    obtain ⟨more, x', hmore, howner, hinside⟩ := Machine.run_lock hexclusive hc hbody
    exact ⟨more, x', _, _, hmore, howner, hinside⟩

theorem lock_released_scanning : ∃ x k, k ≤ 202 ∧
    Runs.run threads.step (accessInit 2) (scanningStatus 0 1) = some x ∧
    ∃ x', Runs.run threads.step x (List.replicate k (.access 0) ++ [.unlock 0]) = some x' ∧
      x'.owner = none := by
  obtain ⟨x, rest, hx, hinside⟩ := scanningStatus_run
  obtain ⟨-, k, hk, x', hrun, hfree⟩ := (lock_exclusive_and_released hx).2.1 0 _ _ hinside
  exact ⟨x, k, hk, hx, x', hrun, hfree⟩

/-! ## Linearizable access by access -/

/-- An action that was taken shows the line it received. -/
theorem call_mem_trace {actions : List (Action n)} (hrun : Runs.run step s actions = some s')
    {c : Fin n} {line : Bytes} (ha : Action.receive c line ∈ actions) :
    Visible.call c line ∈ Runs.trace step visible s actions := by
  induction actions generalizing s with
  | nil => cases ha
  | cons a actions ih =>
    obtain ⟨t, ht, hrun⟩ := Option.bind_eq_some_iff.mp hrun
    rw [Runs.trace_step ht]
    rcases List.mem_cons.mp ha with rfl | ha
    · exact List.mem_append_left _ List.mem_cons_self
    · exact List.mem_append_right _ (ih hrun ha)

/-- Where every line that names a sensor comes from the connection that owns it, the replies that
clients receive from the server, its threads interleaved access by access, are those of one sensor
machine, each command taking effect between its line and its reply. -/
theorem accesses_linearizable (owner : Bytes → Fin n)
    {labels : List (Mutexes.Label (Fin n) ConnInput)} {x : AccessState n}
    (hrun : Runs.run threads.step (accessInit n) labels = some x)
    (hown : ∀ c line, Visible.call c line ∈
        Runs.trace threads.step (threads.visible shows) (accessInit n) labels →
      OwnLine owner (.receive c line)) :
    ∃ order, Linearization sensorMachine BoundedMap.empty
      (Runs.trace threads.step (threads.visible shows) (accessInit n) labels) order := by
  obtain ⟨actions, t, w, pending, hactions, -, hahead, hdelayed⟩ := accesses_ahead hrun
  have hlines : ∀ a ∈ actions, OwnLine owner a := by
    intro a ha
    cases a with
    | receive c line =>
      have hseen := hdelayed.mem.mp (call_mem_trace hactions ha)
      rcases List.mem_append.mp hseen with hseen | hseen
      · exact hown c line hseen
      · obtain ⟨p, resp, leave, heq, -⟩ := hahead.answers _ hseen
        cases heq
    | _ => trivial
  obtain ⟨ls, u, hls, htrace, -⟩ := Runs.trace_simulation
    (fun h hok hstep => follows_step h hok hstep) (follows_init n)
    (undivided_of_owners (fun c φ id h => by cases h) hlines) hactions
  obtain ⟨order, horder, -⟩ := linearization_of_run hls
  rw [htrace] at horder
  exact ⟨order, (horder.delayed hdelayed).of_append⟩

theorem accesses_linearizable_scanning :
    ∃ order, Linearization sensorMachine BoundedMap.empty (scanningSeen (0 : Fin 2) 1) order := by
  obtain ⟨x, -, hx, -⟩ := scanningStatus_run
  have howned := accesses_linearizable (fun id => if id = ascii "s1" then (0 : Fin 2) else 1) hx
  rw [scanningStatus_trace] at howned
  apply howned
  intro c line hline
  have hlines : Action.receive c line = .receive (0 : Fin 2) (ascii "STATUS s1") ∨
      Action.receive c line = .receive 1 (ascii "PING s2") := by
    rcases List.mem_cons.mp hline with heq | hline
    · cases heq
      exact Or.inl rfl
    rcases List.mem_cons.mp hline with heq | hline
    · cases heq
      exact Or.inr rfl
    · obtain heq := List.mem_singleton.mp hline
      cases heq
  rcases hlines with heq | heq
  · rw [heq]
    decide
  · rw [heq]
    decide

end System

end IotMonitoring
