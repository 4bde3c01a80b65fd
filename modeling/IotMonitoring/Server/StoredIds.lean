import IotMonitoring.Server.Reachable

/-!
# What holds of every stored id

An id gets into the table from a token of a line, cut to its field. A property
of tokens that survives the cut therefore holds of every id in every reachable
state, whatever the connections do.
-/

namespace IotMonitoring

open ByteStrings Binary64
set_option autoImplicit false

/-- The property holds of the ids of all occupied slots. -/
def StoredIds (P : Bytes → Prop) (g : GlobalState) : Prop :=
  ∀ i, (g.sensors i).active = true → P (g.sensors i).id.text

/-- The property holds of an id about to be registered. -/
def Phase.Registers (P : Bytes → Prop) : Phase → Prop
  | .register id _ => P id
  | _ => True

section
variable {P : Bytes → Prop}

theorem storedIds_exec (hcut : ∀ w, P w → P (w.take (maxIdLen - 1))) {call : StateCall}
    {g : GlobalState} (h : StoredIds P g)
    (hnew : ∀ id type, call = .register id type → P id ∧ (0 : UInt8) ∉ id) :
    StoredIds P (call.exec g) := by
  intro i hi
  by_cases htouch : ∃ e, call.event g = some e ∧ e.slot? = some i
  · obtain ⟨e, he, hslot⟩ := htouch
    rw [exec_sensor_written he hslot]
    rcases event_slot he hslot with hocc | ⟨id, type, rfl, rfl, -, hf⟩
    · rw [(written_same hocc e).id]
      exact h i hocc
    · obtain ⟨hid, hz⟩ := hnew id type rfl
      rw [written_new hf, newSensor, safeStrncpy, Buffer.copy_text, cString_eq_self hz]
      exact hcut id hid
  · have hframe := exec_sensor_frame fun e he hslot => htouch ⟨e, he, hslot⟩
    rw [hframe] at hi ⊢
    exact h i hi

theorem registers_start {ts : List Bytes} (hts : ∀ w ∈ ts, P w) : (Phase.start ts).Registers P := by
  cases ts with
  | nil => trivial
  | cons command args =>
    simp only [Phase.start]
    split
    · unfold Phase.startRegister
      split
      · rename_i id typeStr heq
        split
        · trivial
        · exact hts id (by simp [heq])
      · trivial
    split
    · unfold Phase.startMetric
      split <;> trivial
    split
    · unfold Phase.startStatus
      split <;> trivial
    split
    · unfold Phase.startPing
      split <;> trivial
    split
    · unfold Phase.startQuit
      split <;> trivial
    · trivial

theorem registers_next (g : GlobalState) {φ : Phase} {call : StateCall} (hcall : φ.call = some call) :
    (φ.next g).Registers P := by
  cases φ with
  | findMetric id valueStr timestamp =>
    rcases next_findMetric_cases id valueStr timestamp g with ⟨resp, hn, -⟩ | ⟨i, v, -, -, -, -, hn⟩
    · rw [hn]
      trivial
    · rw [hn]
      trivial
  | addMetric id value timestamp type =>
    simp only [Phase.next]
    split
    · unfold Phase.evaluate
      split <;> trivial
    · trivial
  | answered resp leave => cases hcall
  | _ => trivial

namespace System
variable {n : Nat}

structure StoredIdsOk (P : Bytes → Prop) (s : System n) : Prop where
  ok : SystemOk s
  ids : StoredIds P s.g
  phases : ∀ c φ, s.conn c = .busy φ → φ.Registers P

theorem storedIdsOk_init : StoredIdsOk P (init n) where
  ok := systemOk_init
  ids := by
    intro i h
    cases h
  phases := by
    intro c φ h
    cases h

variable (hcut : ∀ w, P w → P (w.take (maxIdLen - 1)))
variable (hline : ∀ line, IsLine line → ∀ w ∈ tokenize line 8, P w)
include hcut hline

theorem storedIdsOk_step {s s' : System n} {a : Action n} (h : StoredIdsOk P s)
    (hstep : s.step a = some s') : StoredIdsOk P s' := by
  have hrest : StoredIds P s'.g ∧ ∀ c φ, s'.conn c = .busy φ → φ.Registers P := by
    cases step_cases hstep with
    | connect c hc => exact ⟨h.ids, phases_update h.phases c fun φ hb => (by cases hb)⟩
    | receive c line hc hreceived =>
      refine ⟨by rw [settle_g]; exact h.ids, phases_settle h.phases c ?_⟩
      exact registers_start (hline line hreceived)
    | proceed c φ call hc hcall =>
      have hold : ∀ c' ψ, (s.execute c call).conn c' = .busy ψ → ψ.Registers P := h.phases
      refine ⟨?_, phases_settle hold c (registers_next s.g hcall)⟩
      rw [settle_g]
      refine storedIds_exec hcut h.ids ?_
      rintro id type rfl
      cases φ with
      | register id' type' =>
        cases hcall
        exact ⟨h.phases c _ hc, (h.ok.phases c _ hc).2⟩
      | _ => cases hcall
    | disconnect c hc => exact ⟨h.ids, phases_update h.phases c fun φ hb => (by cases hb)⟩
  exact ⟨systemOk_step h.ok hstep, hrest.1, hrest.2⟩

theorem storedIdsOk_run {s : System n} {actions : List (Action n)}
    (hrun : Runs.run step (init n) actions = some s) : StoredIdsOk P s :=
  Runs.invariant_run (storedIdsOk_step hcut hline) storedIdsOk_init hrun

end System

end

end IotMonitoring
