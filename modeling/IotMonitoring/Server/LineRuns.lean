import IotMonitoring.Server.Interleaving
import IotMonitoring.Server.Refinement

/-!
# Lines handled one at a time

A connection that is never interrupted runs each of its lines to the end, so
what `serverMachine` says of a sequence of lines holds in a state the system
reaches: the runs of the interleaved system include the sequential ones.
-/

namespace IotMonitoring

open ByteStrings Binary64
set_option autoImplicit false

namespace System
variable {n : Nat}

/-- A phase that has a critical section is entered by `proceed`. -/
theorem step_settle {φ : Phase} {call : StateCall} (hcall : φ.call = some call) (s : System n)
    (c : Fin n) : (s.settle c φ).step (.proceed c) =
      some (((s.settle c φ).execute c call).settle c (φ.next s.g)) := by
  have hbusy : (s.settle c φ).conn c = .busy φ := by
    cases φ with
    | answered resp leave => cases hcall
    | _ => exact Function.update_self _ _ _
  simp only [step, hbusy, hcall, settle_g]

/-- Left alone, a connection runs the rest of its command. -/
theorem run_program {p : Program GlobalState (Bytes × Bool)} {φ : Phase} (hp : φ.program = p)
    (s : System n) (c : Fin n) : ∃ actions s', Runs.run step (s.settle c φ) actions = some s' ∧
      s'.g = (p.run s.g).2 ∧ (s'.conn c = if (p.run s.g).1.2 then .closed else .idle) ∧
      ∀ c', c' ≠ c → s'.conn c' = s.conn c' := by
  induction p generalizing φ s with
  | done reply =>
    cases hcall : φ.call with
    | some call =>
      rw [Phase.program_eq_locked hcall] at hp
      cases hp
    | none =>
      cases φ with
      | answered resp leave =>
        cases hp
        refine ⟨[], _, rfl, rfl, Function.update_self _ _ _, fun c' hne => ?_⟩
        exact settle_conn_other s c _ hne
      | _ => cases hcall
  | locked update next ih =>
    cases hcall : φ.call with
    | none =>
      cases φ with
      | answered resp leave => cases hp
      | _ => cases hcall
    | some call =>
      rw [Phase.program_eq_locked hcall] at hp
      cases hp
      obtain ⟨actions, s', hrun, hg, hconn, hframe⟩ :=
        ih s.g (φ := φ.next s.g) rfl ((s.settle c φ).execute c call)
      have hstate : ((s.settle c φ).execute c call).g = call.exec s.g := by
        rw [execute_g, settle_g]
      rw [hstate] at hg hconn
      refine ⟨.proceed c :: actions, s', ?_, hg, hconn, fun c' hne => ?_⟩
      · rw [Runs.run, step_settle hcall]
        exact hrun
      · rw [hframe c' hne, execute_conn, settle_conn_other s c φ hne]

/-- A line received on an idle connection and handled without interruption. -/
theorem run_line {s : System n} {c : Fin n} (hidle : s.conn c = .idle) {line : Bytes}
    (hline : IsLine line) : ∃ actions s', Runs.run step s actions = some s' ∧
      s'.g = (serverMachine line s.g).2 ∧
      (s'.conn c = if ((handleLine line).run s.g).1.2 then .closed else .idle) ∧
      ∀ c', c' ≠ c → s'.conn c' = s.conn c' := by
  obtain ⟨actions, s', hrun, hg, hconn, hframe⟩ :=
    run_program (Phase.start_program (tokenize line 8)) s c
  refine ⟨.receive c line :: actions, s', ?_, hg, hconn, hframe⟩
  have hstep : s.step (.receive c line) = some (s.settle c (.start (tokenize line 8))) := by
    simp only [step, hidle, if_pos hline]
  rw [Runs.run, hstep]
  exact hrun

/-- The lines of a connection, none of which ends it, are a run of the system. -/
theorem run_lines {s : System n} {c : Fin n} (hidle : s.conn c = .idle) {lines : List Bytes}
    (hlines : ∀ line ∈ lines, IsLine line ∧ ∀ g, ((handleLine line).run g).1.2 = false) :
    ∃ actions s', Runs.run step s actions = some s' ∧ s'.conn c = .idle ∧
      s'.g = Runs.reach serverMachine s.g lines := by
  induction lines generalizing s with
  | nil => exact ⟨[], s, rfl, hidle, rfl⟩
  | cons line lines ih =>
    obtain ⟨hline, hstays⟩ := hlines line List.mem_cons_self
    obtain ⟨first, t, hfirst, hg, hconn, -⟩ := run_line hidle hline
    rw [hstays s.g, if_neg Bool.false_ne_true] at hconn
    obtain ⟨rest, s', hrest, hconn', hg'⟩ :=
      ih hconn fun l hl => hlines l (List.mem_cons_of_mem line hl)
    refine ⟨first ++ rest, s', ?_, hconn', ?_⟩
    · rw [Runs.run_append, hfirst]
      exact hrest
    · rw [hg', hg]
      rfl

/-- Lines that do not end their connection, received one after the other by a fresh server. -/
theorem init_lines {lines : List Bytes}
    (hlines : ∀ line ∈ lines, IsLine line ∧ ∀ g, ((handleLine line).run g).1.2 = false) :
    ∃ actions, ∃ s : System 1, Runs.run step (init 1) actions = some s ∧ s.conn 0 = .idle ∧
      s.g = Runs.reach serverMachine stateInit lines := by
  let s₀ : System 1 := { init 1 with conn := Function.update (init 1).conn 0 .idle }
  have hconnect : (init 1).step (.connect 0) = some s₀ := rfl
  have hinit : s₀.g = stateInit := rfl
  have hidle : s₀.conn 0 = .idle := rfl
  obtain ⟨actions, s, hrun, hconn, hg⟩ := run_lines hidle hlines
  refine ⟨.connect 0 :: actions, s, ?_, hconn, ?_⟩
  · rw [Runs.run, hconnect]
    exact hrun
  · rw [hg, hinit]

/-- Lines that are each sent over a connection of their own. -/
theorem run_lines_fresh {lines : List Bytes} (hlines : ∀ line ∈ lines, IsLine line) {s : System n}
    {conns : List (Fin n)} (hlength : conns.length = lines.length) (hnodup : conns.Nodup)
    (hfresh : ∀ c ∈ conns, s.conn c = .fresh) :
    ∃ actions s', Runs.run step s actions = some s' ∧
      s'.g = Runs.reach serverMachine s.g lines := by
  induction lines generalizing s conns with
  | nil => exact ⟨[], s, rfl, rfl⟩
  | cons line lines ih =>
    obtain ⟨c, conns, rfl⟩ := List.exists_cons_of_length_eq_add_one hlength
    obtain ⟨hnotmem, hnodup⟩ := List.nodup_cons.mp hnodup
    have hconnect : s.step (.connect c) =
        some { s with conn := Function.update s.conn c .idle } := by
      simp only [step, hfresh c List.mem_cons_self]
    obtain ⟨first, t, hfirst, hg, -, hframe⟩ :=
      run_line (s := { s with conn := Function.update s.conn c .idle }) (Function.update_self _ _ _)
        (hlines line List.mem_cons_self)
    have hrest : ∀ c' ∈ conns, t.conn c' = .fresh := by
      intro c' hc'
      have hne : c' ≠ c := fun h => hnotmem (h ▸ hc')
      rw [hframe c' hne]
      exact (Function.update_of_ne hne _ _).trans (hfresh c' (List.mem_cons_of_mem c hc'))
    obtain ⟨rest, s', hrun, hg'⟩ :=
      ih (fun l hl => hlines l (List.mem_cons_of_mem line hl)) (Nat.succ.inj hlength) hnodup hrest
    refine ⟨.connect c :: (first ++ rest), s', ?_, ?_⟩
    · rw [Runs.run, hconnect]
      exact Runs.run_trans hfirst hrun
    · rw [hg', hg]
      rfl

/-- Whatever lines are handled one after the other, some run of a server handles them. -/
theorem lines_reachable {lines : List Bytes} (hlines : ∀ line ∈ lines, IsLine line) :
    ∃ actions, ∃ s : System lines.length,
      Runs.run step (init lines.length) actions = some s ∧
        s.g = Runs.reach serverMachine stateInit lines :=
  run_lines_fresh hlines List.length_finRange (List.nodup_finRange _) fun _ _ => rfl

end System

end IotMonitoring
