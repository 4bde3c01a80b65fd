import Mathlib.Data.Prod.Basic
import Mathlib.Tactic.Common

/-!
# Programs over a state behind one lock

A program is a chain of critical sections: each updates the shared state in
one piece and hands what it read to the rest of the program. `run` is the
uninterrupted execution. `disturbed env` is the same program with an arbitrary
change of the shared state before each of its sections, so a fact about every
disturbed run holds whatever other threads do between the sections. `Ensures`
is the triple for an invariant of the shared state that all threads keep,
`Alike` compares the runs of a program from two related states, and `sections`
lists what the program's own sections did in a disturbed run. `ReadOnly` programs
leave the shared state as it is.
-/

namespace IotMonitoring

set_option autoImplicit false

/-- `next` receives the state the section started from. -/
inductive Program (σ α : Type) where
  | done (result : α)
  | locked (update : σ → σ) (next : σ → Program σ α)

namespace Program
variable {σ α β : Type}

def bind : Program σ α → (α → Program σ β) → Program σ β
  | done a, f => f a
  | locked update next, f => locked update fun s => (next s).bind f

instance : Monad (Program σ) where
  pure := done
  bind := bind

/-- One critical section around an operation that returns a result and the new state. -/
def call (op : σ → α × σ) : Program σ α := locked (fun s => (op s).2) fun s => done (op s).1

def run : Program σ α → σ → α × σ
  | done a, s => (a, s)
  | locked update next, s => (next s).run (update s)

@[simp] theorem run_pure (a : α) (s : σ) : (pure a : Program σ α).run s = (a, s) := rfl

@[simp] theorem run_call (op : σ → α × σ) (s : σ) : (call op).run s = op s := rfl

@[simp] theorem run_bind (p : Program σ α) (f : α → Program σ β) (s : σ) :
    (p >>= f).run s = (f (p.run s).1).run (p.run s).2 := by
  change (p.bind f).run s = _
  induction p generalizing s with
  | done a => rfl
  | locked update next ih => exact ih s (update s)

/-- Before its `i`-th section the program finds the state changed by `env i`. -/
def disturbed (env : Nat → σ → σ) : Program σ α → Program (Nat × σ) α
  | done a => done a
  | locked update next =>
    locked (fun s => (s.1 + 1, update (env s.1 s.2))) fun s => (next (env s.1 s.2)).disturbed env

@[simp] theorem disturbed_pure (env : Nat → σ → σ) (a : α) :
    (pure a : Program σ α).disturbed env = pure a := rfl

@[simp] theorem disturbed_bind (env : Nat → σ → σ) (p : Program σ α) (f : α → Program σ β) :
    (p >>= f).disturbed env = p.disturbed env >>= fun a => (f a).disturbed env := by
  change (p.bind f).disturbed env = (p.disturbed env).bind _
  induction p with
  | done a => rfl
  | locked update next ih =>
    simp only [bind, disturbed]
    congr 1
    funext s
    exact ih (env s.1 s.2)

@[simp] theorem run_disturbed_call (env : Nat → σ → σ) (op : σ → α × σ) (s : Nat × σ) :
    ((call op).disturbed env).run s = ((op (env s.1 s.2)).1, s.1 + 1, (op (env s.1 s.2)).2) := rfl

/-! ## Invariants of the shared state -/

section Ensures
variable {I : σ → Prop} {Q : α → Prop} {R : β → Prop}

/-- Every section keeps `I`, in whatever state with `I` it finds, and the result satisfies `Q`. -/
def Ensures (I : σ → Prop) (Q : α → Prop) : Program σ α → Prop
  | done a => Q a
  | locked update next => ∀ s, I s → I (update s) ∧ Ensures I Q (next s)

theorem ensures_pure {a : α} (h : Q a) : Ensures I Q (pure a : Program σ α) := h

theorem ensures_call {op : σ → α × σ} (h : ∀ s, I s → I (op s).2 ∧ Q (op s).1) :
    Ensures I Q (call op) := h

theorem ensures_bind {p : Program σ α} {f : α → Program σ β} (hp : Ensures I Q p)
    (hf : ∀ a, Q a → Ensures I R (f a)) : Ensures I R (p >>= f) := by
  change Ensures I R (p.bind f)
  induction p with
  | done a => exact hf a hp
  | locked update next ih =>
    intro s hs
    obtain ⟨hkept, hnext⟩ := hp s hs
    exact ⟨hkept, ih s hnext⟩

theorem Ensures.mono {Q' : α → Prop} {p : Program σ α} (h : Ensures I Q p)
    (hQ : ∀ a, Q a → Q' a) : Ensures I Q' p := by
  induction p with
  | done a => exact hQ a h
  | locked update next ih => exact fun s hs => ⟨(h s hs).1, ih s (h s hs).2⟩

/-- Whatever the others do that keeps `I`, the run keeps `I` and returns a result with `Q`. -/
theorem Ensures.run {p : Program σ α} (h : Ensures I Q p) {env : Nat → σ → σ}
    (henv : ∀ k s, I s → I (env k s)) {st : Nat × σ} (hst : I st.2) :
    Q ((p.disturbed env).run st).1 ∧ I ((p.disturbed env).run st).2.2 := by
  induction p generalizing st with
  | done a => exact ⟨h, hst⟩
  | locked update next ih =>
    obtain ⟨hkept, hnext⟩ := h (env st.1 st.2) (henv st.1 st.2 hst)
    exact ih (env st.1 st.2) hnext hkept

theorem Ensures.run_kept {p : Program σ α} (h : Ensures I Q p) {s : σ} (hs : I s) :
    I (p.run s).2 := by
  induction p generalizing s with
  | done a => exact hs
  | locked update next ih => exact ih s (h s hs).2 (h s hs).1

end Ensures

/-! ## Two runs -/

section Alike
variable {R : σ → σ → Prop}

/-- From related states every section leads to related states and to the same continuation. -/
def Alike (R : σ → σ → Prop) : Program σ α → Prop
  | done _ => True
  | locked update next => ∀ s t, R s t → R (update s) (update t) ∧ next s = next t ∧ Alike R (next s)

theorem alike_pure (a : α) : Alike R (pure a : Program σ α) := trivial

theorem alike_call {op : σ → α × σ}
    (h : ∀ s t, R s t → (op s).1 = (op t).1 ∧ R (op s).2 (op t).2) : Alike R (call op) := by
  intro s t hst
  obtain ⟨hresult, hstate⟩ := h s t hst
  exact ⟨hstate, congrArg done hresult, trivial⟩

theorem alike_bind {p : Program σ α} {f : α → Program σ β} (hp : Alike R p)
    (hf : ∀ a, Alike R (f a)) : Alike R (p >>= f) := by
  change Alike R (p.bind f)
  induction p with
  | done a => exact hf a
  | locked update next ih =>
    intro s t hst
    obtain ⟨hstate, hnext, hrest⟩ := hp s t hst
    exact ⟨hstate, congrArg (fun q => q.bind f) hnext, ih s hrest⟩

/-- The results of a section may differ as long as the continuation does not tell them apart. -/
theorem alike_call_bind {op : σ → α × σ} {f : α → Program σ β}
    (h : ∀ s t, R s t → f (op s).1 = f (op t).1 ∧ R (op s).2 (op t).2) (hf : ∀ a, Alike R (f a)) :
    Alike R (call op >>= f) :=
  fun s t hst => ⟨(h s t hst).2, (h s t hst).1, hf (op s).1⟩

theorem Alike.run {p : Program σ α} (h : Alike R p) {s t : σ} (hst : R s t) :
    (p.run s).1 = (p.run t).1 ∧ R (p.run s).2 (p.run t).2 := by
  induction p generalizing s t with
  | done a => exact ⟨rfl, hst⟩
  | locked update next ih =>
    obtain ⟨hstate, hnext, hrest⟩ := h s t hst
    have hrun := ih s hrest hstate
    simp only [Program.run]
    rw [← hnext]
    exact hrun

end Alike

/-! ## The sections of a run -/

section Sections
variable {env : Nat → σ → σ}

/-- The states before and after each of the program's own sections, in the disturbed run. -/
def sections (env : Nat → σ → σ) : Program σ α → Nat × σ → List (σ × σ)
  | done _, _ => []
  | locked update next, st =>
    (env st.1 st.2, update (env st.1 st.2)) ::
      (next (env st.1 st.2)).sections env (st.1 + 1, update (env st.1 st.2))

@[simp] theorem sections_pure (a : α) (st : Nat × σ) :
    (pure a : Program σ α).sections env st = [] := rfl

@[simp] theorem sections_call (op : σ → α × σ) (st : Nat × σ) :
    (call op).sections env st = [(env st.1 st.2, (op (env st.1 st.2)).2)] := rfl

@[simp] theorem sections_bind (p : Program σ α) (f : α → Program σ β) (st : Nat × σ) :
    (p >>= f).sections env st = p.sections env st ++
      (f ((p.disturbed env).run st).1).sections env ((p.disturbed env).run st).2 := by
  change (p.bind f).sections env st = _
  induction p generalizing st with
  | done a => rfl
  | locked update next ih =>
    simp only [bind, sections, List.cons_append, List.cons.injEq, true_and]
    exact ih (env st.1 st.2) (st.1 + 1, update (env st.1 st.2))

/-- What all threads keep holds around every section. -/
theorem Ensures.sections {I : σ → Prop} {Q : α → Prop} {p : Program σ α} (h : Ensures I Q p)
    (henv : ∀ k s, I s → I (env k s)) {st : Nat × σ} (hst : I st.2) :
    ∀ q ∈ p.sections env st, I q.1 ∧ I q.2 := by
  induction p generalizing st with
  | done a => exact fun q hq => (by cases hq)
  | locked update next ih =>
    have hbefore := henv st.1 st.2 hst
    obtain ⟨hkept, hnext⟩ := h (env st.1 st.2) hbefore
    intro q hq
    rcases List.mem_cons.mp hq with rfl | hq
    · exact ⟨hbefore, hkept⟩
    · exact ih (env st.1 st.2) hnext hkept q hq

end Sections

/-! ## Readers -/

section Readers

/-- No section changes the state, whatever it reads. -/
def ReadOnly : Program σ α → Prop
  | done _ => True
  | locked update next => ∀ s, update s = s ∧ ReadOnly (next s)

theorem readOnly_pure (a : α) : ReadOnly (pure a : Program σ α) := trivial

theorem readOnly_call {op : σ → α × σ} (h : ∀ s, (op s).2 = s) : ReadOnly (call op) :=
  fun s => ⟨h s, trivial⟩

theorem readOnly_bind {p : Program σ α} {f : α → Program σ β} (hp : ReadOnly p)
    (hf : ∀ a, ReadOnly (f a)) : ReadOnly (p >>= f) := by
  change ReadOnly (p.bind f)
  induction p with
  | done a => exact hf a
  | locked update next ih => exact fun s => ⟨(hp s).1, ih s (hp s).2⟩

theorem ReadOnly.sections {p : Program σ α} (h : ReadOnly p) {env : Nat → σ → σ} (st : Nat × σ) :
    ∀ q ∈ p.sections env st, q.2 = q.1 := by
  induction p generalizing st with
  | done a => exact fun q hq => (by cases hq)
  | locked update next ih =>
    obtain ⟨hsame, hnext⟩ := h (env st.1 st.2)
    intro q hq
    rcases List.mem_cons.mp hq with rfl | hq
    · exact hsame
    · exact ih (env st.1 st.2) hnext _ q hq

end Readers

end Program

end IotMonitoring
