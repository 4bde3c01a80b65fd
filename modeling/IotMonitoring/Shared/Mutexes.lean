import Mathlib.Logic.Function.Basic
import IotMonitoring.Shared.Runs

/-!
# Memory behind a mutex

Threads share a memory that they read and write one access at a time. Each
works outside the lock, or has taken it and is somewhere in a critical section.
`Accesses` is such a section, `Machine.step` interleaves the single accesses of
all threads, and `Machine.stepWhole` runs a section in one piece. Both show the
same, because only the owner of the lock is inside a section. Threads whose
sections are commands leave the memory as their commands, one after the other
and each thread's in its order, leave it.
-/

namespace IotMonitoring.Mutexes

set_option autoImplicit false

/-- A critical section: what it does to the memory, access by access. -/
inductive Accesses (σ α : Type) where
  | done (result : α)
  | read (next : σ → Accesses σ α)
  | write (update : σ → σ) (next : Accesses σ α)

namespace Accesses
variable {σ α β : Type}

def bind : Accesses σ α → (α → Accesses σ β) → Accesses σ β
  | done a, f => f a
  | read next, f => read fun m => (next m).bind f
  | write update next, f => write update (next.bind f)

instance : Monad (Accesses σ) where
  pure := done
  bind := bind

/-- Read one thing. -/
def get (look : σ → α) : Accesses σ α := read fun m => done (look m)

/-- Write one thing. -/
def set (update : σ → σ) : Accesses σ Unit := write update (done ())

/-- The whole section, undisturbed. -/
def run : Accesses σ α → σ → α × σ
  | done a, m => (a, m)
  | read next, m => (next m).run m
  | write update next, m => next.run (update m)

/-- How many accesses the whole section makes. -/
def accesses : Accesses σ α → σ → Nat
  | done _, _ => 0
  | read next, m => (next m).accesses m + 1
  | write update next, m => next.accesses (update m) + 1

/-- The next access, if there is one. -/
def step : Accesses σ α → σ → Option (Accesses σ α × σ)
  | done _, _ => none
  | read next, m => some (next m, m)
  | write update next, m => some (next, update m)

@[simp] theorem run_pure (a : α) (m : σ) : (pure a : Accesses σ α).run m = (a, m) := rfl

@[simp] theorem run_get (look : σ → α) (m : σ) : (get look).run m = (look m, m) := rfl

@[simp] theorem run_set (update : σ → σ) (m : σ) : (set update).run m = ((), update m) := rfl

@[simp] theorem run_bind (p : Accesses σ α) (f : α → Accesses σ β) (m : σ) :
    (p >>= f).run m = (f (p.run m).1).run (p.run m).2 := by
  change (p.bind f).run m = _
  induction p generalizing m with
  | done a => rfl
  | read next ih => exact ih m m
  | write update next ih => exact ih (update m)

theorem run_get_bind (look : σ → α) (f : α → Accesses σ β) (m : σ) :
    (get look >>= f).run m = (f (look m)).run m := rfl

theorem run_bind_of {p : Accesses σ α} {m m' : σ} {a : α} (h : p.run m = (a, m'))
    (f : α → Accesses σ β) : (p >>= f).run m = (f a).run m' := by
  rw [run_bind, h]

@[simp] theorem accesses_pure (a : α) (m : σ) : (pure a : Accesses σ α).accesses m = 0 := rfl

@[simp] theorem accesses_get (look : σ → α) (m : σ) : (get look).accesses m = 1 := rfl

@[simp] theorem accesses_set (update : σ → σ) (m : σ) : (set update).accesses m = 1 := rfl

@[simp] theorem accesses_bind (p : Accesses σ α) (f : α → Accesses σ β) (m : σ) :
    (p >>= f).accesses m = p.accesses m + (f (p.run m).1).accesses (p.run m).2 := by
  change (p.bind f).accesses m = _
  induction p generalizing m with
  | done a => exact (Nat.zero_add _).symm
  | read next ih =>
    simp only [bind, accesses, run, ih]
    omega
  | write update next ih =>
    simp only [bind, accesses, run, ih]
    omega

theorem accesses_get_bind (look : σ → α) (f : α → Accesses σ β) (m : σ) :
    (get look >>= f).accesses m = (f (look m)).accesses m + 1 := rfl

theorem accesses_bind_of {p : Accesses σ α} {m m' : σ} {a : α} (h : p.run m = (a, m'))
    (f : α → Accesses σ β) : (p >>= f).accesses m = p.accesses m + (f a).accesses m' := by
  rw [accesses_bind, h]

theorem accesses_step {p p' : Accesses σ α} {m m' : σ} (h : p.step m = some (p', m')) :
    p'.accesses m' + 1 = p.accesses m := by
  cases p with
  | done a => cases h
  | read next =>
    cases h
    rfl
  | write update next =>
    cases h
    rfl

theorem run_step {p p' : Accesses σ α} {m m' : σ} (h : p.step m = some (p', m')) :
    p'.run m' = p.run m := by
  cases p with
  | done a => cases h
  | read next =>
    cases h
    rfl
  | write update next =>
    cases h
    rfl

end Accesses

/-! ## Threads -/

/-- What threads do, apart from the lock: where a thread wants the lock, the section it then runs,
and the moves it makes without it. -/
structure Machine (σ Q I : Type) where
  body : Q → Option (Accesses σ Q)
  move : Q → I → Option Q

inductive Control (σ Q : Type) where
  | outside (q : Q)
  /-- Entered from `q`, with these accesses left. -/
  | inside (q : Q) (rest : Accesses σ Q)

structure State (T σ Q : Type) where
  memory : σ
  owner : Option T
  control : T → Control σ Q

inductive Label (T I : Type) where
  | move (t : T) (i : I)
  | lock (t : T)
  | access (t : T)
  | unlock (t : T)

/-- The same threads, whose sections are single steps. -/
structure Whole (T σ Q : Type) where
  memory : σ
  control : T → Q

inductive WholeLabel (T I : Type) where
  | move (t : T) (i : I)
  | enter (t : T)

namespace Machine
variable {T σ Q I V : Type} [DecidableEq T] (machine : Machine σ Q I)

def step (s : State T σ Q) : Label T I → Option (State T σ Q)
  | .move t i =>
    match s.control t with
    | .outside q => (machine.move q i).map fun q' =>
        { s with control := Function.update s.control t (.outside q') }
    | .inside _ _ => none
  | .lock t =>
    match s.control t, s.owner with
    | .outside q, none => (machine.body q).map fun p =>
        { s with owner := some t, control := Function.update s.control t (.inside q p) }
    | _, _ => none
  | .access t =>
    match s.control t with
    | .inside q rest => (rest.step s.memory).map fun next =>
        { s with memory := next.2, control := Function.update s.control t (.inside q next.1) }
    | .outside _ => none
  | .unlock t =>
    match s.control t with
    | .inside _ (.done q') =>
      some { s with owner := none, control := Function.update s.control t (.outside q') }
    | _ => none

def stepWhole (w : Whole T σ Q) : WholeLabel T I → Option (Whole T σ Q)
  | .move t i => (machine.move (w.control t) i).map fun q' =>
      { w with control := Function.update w.control t q' }
  | .enter t => (machine.body (w.control t)).map fun p =>
      ⟨(p.run w.memory).2, Function.update w.control t (p.run w.memory).1⟩

/-- `shows t q i q'` is what thread `t` shows when it goes from `q` to `q'`, by the move `i` or
through a critical section. -/
def visible (shows : T → Q → Option I → Q → List V) (s : State T σ Q) : Label T I → List V
  | .move t i =>
    match s.control t with
    | .outside q => (machine.move q i).elim [] (shows t q (some i))
    | .inside _ _ => []
  | .unlock t =>
    match s.control t with
    | .inside q (.done q') => shows t q none q'
    | _ => []
  | _ => []

def visibleWhole (shows : T → Q → Option I → Q → List V) (w : Whole T σ Q) :
    WholeLabel T I → List V
  | .move t i => (machine.move (w.control t) i).elim [] (shows t (w.control t) (some i))
  | .enter t => (machine.body (w.control t)).elim [] fun p =>
      shows t (w.control t) none (p.run w.memory).1

/-- The four kinds of step, with what each requires. -/
inductive Stepped (s : State T σ Q) : Label T I → State T σ Q → Prop where
  | move (t : T) (i : I) (q q' : Q) (hc : s.control t = .outside q)
      (hmove : machine.move q i = some q') :
      Stepped s (.move t i) { s with control := Function.update s.control t (.outside q') }
  | lock (t : T) (q : Q) (p : Accesses σ Q) (hc : s.control t = .outside q) (hfree : s.owner = none)
      (hbody : machine.body q = some p) : Stepped s (.lock t)
        { s with owner := some t, control := Function.update s.control t (.inside q p) }
  | access (t : T) (q : Q) (rest rest' : Accesses σ Q) (m : σ) (hc : s.control t = .inside q rest)
      (hrest : rest.step s.memory = some (rest', m)) : Stepped s (.access t)
        { s with memory := m, control := Function.update s.control t (.inside q rest') }
  | unlock (t : T) (q q' : Q) (hc : s.control t = .inside q (.done q')) : Stepped s (.unlock t)
      { s with owner := none, control := Function.update s.control t (.outside q') }

variable {machine} {s s' : State T σ Q} {w w' : Whole T σ Q}

theorem step_cases {l : Label T I} (h : machine.step s l = some s') : machine.Stepped s l s' := by
  cases l with
  | move t i =>
    simp only [step] at h
    split at h
    · obtain ⟨q', hmove, rfl⟩ := Option.map_eq_some_iff.mp h
      exact .move t i _ q' ‹_› hmove
    · cases h
  | lock t =>
    simp only [step] at h
    split at h
    · obtain ⟨p, hbody, rfl⟩ := Option.map_eq_some_iff.mp h
      exact .lock t _ p ‹_› ‹_› hbody
    · cases h
  | access t =>
    simp only [step] at h
    split at h
    · obtain ⟨next, hrest, rfl⟩ := Option.map_eq_some_iff.mp h
      exact .access t _ _ next.1 next.2 ‹_› hrest
    · cases h
  | unlock t =>
    simp only [step] at h
    split at h
    · cases h
      exact .unlock t _ _ ‹_›
    · cases h

/-! ## Mutual exclusion -/

/-- Who is inside a section owns the lock, and the other way round. -/
def Exclusive (s : State T σ Q) : Prop :=
  ∀ t, s.owner = some t ↔ ∃ q rest, s.control t = .inside q rest

theorem exclusive_step {l : Label T I} (h : Exclusive s) (hstep : machine.step s l = some s') :
    Exclusive s' := by
  have hupdate : ∀ (t t' : T) (c : Control σ Q), t' ≠ t →
      Function.update s.control t c t' = s.control t' := fun t t' c hne => Function.update_of_ne hne _ _
  intro t'
  cases step_cases hstep with
  | move t i q q' hc hmove =>
    by_cases ht : t' = t
    · subst ht
      simp only [Function.update_self, reduceCtorEq, exists_false, iff_false]
      intro howner
      obtain ⟨q₀, rest, hinside⟩ := (h t').mp howner
      rw [hc] at hinside
      cases hinside
    · simp only [hupdate t t' _ ht]
      exact h t'
  | lock t q p hc hfree hbody =>
    by_cases ht : t' = t
    · subst ht
      simp only [Function.update_self, true_iff]
      exact ⟨q, p, rfl⟩
    · simp only [hupdate t t' _ ht, ← h t', hfree, Option.some.injEq, reduceCtorEq, iff_false]
      exact fun heq => ht heq.symm
  | access t q rest rest' m hc hrest =>
    by_cases ht : t' = t
    · subst ht
      simp only [Function.update_self]
      exact ⟨fun _ => ⟨q, rest', rfl⟩, fun _ => (h t').mpr ⟨q, rest, hc⟩⟩
    · simp only [hupdate t t' _ ht]
      exact h t'
  | unlock t q q' hc =>
    have howner : s.owner = some t := (h t).mpr ⟨q, _, hc⟩
    by_cases ht : t' = t
    · subst ht
      simp only [Function.update_self, reduceCtorEq, exists_false]
    · simp only [hupdate t t' _ ht, ← h t', howner, Option.some.injEq, reduceCtorEq, false_iff]
      exact fun heq => ht heq.symm

/-- At the start everybody is outside. -/
def start (m : σ) (control : T → Q) : State T σ Q := ⟨m, none, fun t => .outside (control t)⟩

omit [DecidableEq T] in
theorem exclusive_start (m : σ) (control : T → Q) : Exclusive (start m control) := by
  intro t
  simp only [start, reduceCtorEq, exists_false]

/-! ## Sections are atomic -/

/-- The threads stand where they stand in `w`, and the one inside a section will leave the memory
and itself as the section run whole does. -/
structure Refines (machine : Machine σ Q I) (s : State T σ Q) (w : Whole T σ Q) : Prop where
  exclusive : Exclusive s
  outside : ∀ t q, s.control t = .outside q → w.control t = q
  inside : ∀ t q rest, s.control t = .inside q rest → w.control t = q ∧
    ∃ p, machine.body q = some p ∧ rest.run s.memory = p.run w.memory
  free : s.owner = none → s.memory = w.memory

omit [DecidableEq T] in
theorem refines_start (m : σ) (control : T → Q) :
    Refines machine (start m control) ⟨m, control⟩ where
  exclusive := exclusive_start m control
  outside t q h := by
    cases h
    rfl
  inside t q rest h := by cases h
  free _ := rfl

omit [DecidableEq T] in
/-- Nobody else is inside a section. -/
theorem Exclusive.inside_unique (h : Exclusive s) {t t' : T} {q q' : Q} {rest rest' : Accesses σ Q}
    (ht : s.control t = .inside q rest) (ht' : s.control t' = .inside q' rest') : t = t' := by
  have howner := (h t).mpr ⟨q, rest, ht⟩
  rw [(h t').mpr ⟨q', rest', ht'⟩] at howner
  exact (Option.some.inj howner).symm

variable {shows : T → Q → Option I → Q → List V}

/-- Each access leaves the section's outcome as it is, and the section counts when it ends. -/
theorem refines_step (h : Refines machine s w) {l : Label T I} (hstep : machine.step s l = some s') :
    ∃ ls w', Runs.run machine.stepWhole w ls = some w' ∧
      Runs.trace machine.stepWhole (machine.visibleWhole shows) w ls = machine.visible shows s l ∧
      Refines machine s' w' := by
  have hexclusive := exclusive_step h.exclusive hstep
  cases step_cases hstep with
  | move t i q q' hc hmove =>
    have hw := h.outside t q hc
    have hwhole : machine.stepWhole w (.move t i) =
        some { w with control := Function.update w.control t q' } := by
      simp only [stepWhole, hw, hmove, Option.map_some]
    refine ⟨[.move t i], _, (Runs.run_step hwhole _).trans rfl, ?_, hexclusive, ?_, ?_, h.free⟩
    · rw [Runs.trace_step hwhole]
      simp only [Runs.trace, List.append_nil, visibleWhole, visible, hw, hc]
    · intro t' r ht'
      by_cases htt : t' = t
      · subst htt
        simp only [Function.update_self, Control.outside.injEq] at ht' ⊢
        exact ht'
      · simp only [Function.update_of_ne htt] at ht' ⊢
        exact h.outside t' r ht'
    · intro t' r rest ht'
      by_cases htt : t' = t
      · subst htt
        simp only [Function.update_self, reduceCtorEq] at ht'
      · simp only [Function.update_of_ne htt] at ht' ⊢
        exact h.inside t' r rest ht'
  | lock t q p hc hfree hbody =>
    refine ⟨[], w, rfl, rfl, hexclusive, ?_, ?_, fun hnone => by cases hnone⟩
    · intro t' r ht'
      by_cases htt : t' = t
      · subst htt
        simp only [Function.update_self, reduceCtorEq] at ht'
      · simp only [Function.update_of_ne htt] at ht'
        exact h.outside t' r ht'
    · intro t' r rest ht'
      by_cases htt : t' = t
      · subst htt
        simp only [Function.update_self, Control.inside.injEq] at ht'
        obtain ⟨rfl, rfl⟩ := ht'
        exact ⟨h.outside t' q hc, p, hbody, by rw [h.free hfree]⟩
      · simp only [Function.update_of_ne htt] at ht'
        exact h.inside t' r rest ht'
  | access t q rest rest' m hc hrest =>
    obtain ⟨hw, p, hbody, hrun⟩ := h.inside t q rest hc
    have howner := (h.exclusive t).mpr ⟨q, rest, hc⟩
    refine ⟨[], w, rfl, rfl, hexclusive, ?_, ?_, fun hnone => ?_⟩
    · intro t' r ht'
      by_cases htt : t' = t
      · subst htt
        simp only [Function.update_self, reduceCtorEq] at ht'
      · simp only [Function.update_of_ne htt] at ht'
        exact h.outside t' r ht'
    · intro t' r rest₀ ht'
      by_cases htt : t' = t
      · subst htt
        simp only [Function.update_self, Control.inside.injEq] at ht'
        obtain ⟨rfl, rfl⟩ := ht'
        exact ⟨hw, p, hbody, (Accesses.run_step hrest).trans hrun⟩
      · simp only [Function.update_of_ne htt] at ht'
        exact absurd (h.exclusive.inside_unique ht' hc) htt
    · rw [howner] at hnone
      cases hnone
  | unlock t q q' hc =>
    obtain ⟨hw, p, hbody, hrun⟩ := h.inside t q _ hc
    have hresult : p.run w.memory = (q', s.memory) := hrun.symm
    have hwhole : machine.stepWhole w (.enter t) =
        some ⟨s.memory, Function.update w.control t q'⟩ := by
      simp only [stepWhole, hw, hbody, Option.map_some, hresult]
    refine ⟨[.enter t], _, (Runs.run_step hwhole _).trans rfl, ?_, hexclusive, ?_, ?_, fun _ => rfl⟩
    · rw [Runs.trace_step hwhole]
      simp only [Runs.trace, List.append_nil, visibleWhole, visible, hw, hc, hbody, Option.elim_some,
        hresult]
    · intro t' r ht'
      by_cases htt : t' = t
      · subst htt
        simp only [Function.update_self, Control.outside.injEq] at ht' ⊢
        exact ht'
      · simp only [Function.update_of_ne htt] at ht' ⊢
        exact h.outside t' r ht'
    · intro t' r rest ht'
      by_cases htt : t' = t
      · subst htt
        simp only [Function.update_self, reduceCtorEq] at ht'
      · simp only [Function.update_of_ne htt] at ht'
        exact absurd (h.exclusive.inside_unique ht' hc) htt

/-- Every run of single accesses shows what a run of whole sections shows. -/
theorem refines_run (h : Refines machine s w) {ls : List (Label T I)}
    (hrun : Runs.run machine.step s ls = some s') :
    ∃ ms w', Runs.run machine.stepWhole w ms = some w' ∧
      Runs.trace machine.stepWhole (machine.visibleWhole shows) w ms =
        Runs.trace machine.step (machine.visible shows) s ls ∧ Refines machine s' w' := by
  have simulate : ∀ {s : State T σ Q} {w : Whole T σ Q} {l : Label T I} {s' : State T σ Q},
      Refines machine s w → True → machine.step s l = some s' →
        ∃ ms w', Runs.run machine.stepWhole w ms = some w' ∧
          Runs.trace machine.stepWhole (machine.visibleWhole shows) w ms =
            machine.visible shows s l ∧ Refines machine s' w' :=
    fun h _ hstep => refines_step h hstep
  exact Runs.trace_simulation simulate h (Runs.guarded_iff_steps.mpr fun _ _ _ _ _ _ => trivial) hrun

/-! ## Sections end -/

/-- Who is inside a section has few accesses left. -/
def Bounded (bound : Nat) (s : State T σ Q) : Prop :=
  ∀ t q rest, s.control t = .inside q rest → rest.accesses s.memory ≤ bound

theorem bounded_step {bound : Nat} (hbody : ∀ q p, machine.body q = some p → ∀ m, p.accesses m ≤ bound)
    (hexclusive : Exclusive s) (h : Bounded bound s) {l : Label T I}
    (hstep : machine.step s l = some s') : Bounded bound s' := by
  intro t' r rest₀ ht'
  cases step_cases hstep with
  | move t i q q' hc hmove =>
    by_cases htt : t' = t
    · subst htt
      simp only [Function.update_self, reduceCtorEq] at ht'
    · simp only [Function.update_of_ne htt] at ht'
      exact h t' r rest₀ ht'
  | lock t q p hc hfree hp =>
    by_cases htt : t' = t
    · subst htt
      simp only [Function.update_self, Control.inside.injEq] at ht'
      obtain ⟨rfl, rfl⟩ := ht'
      exact hbody q p hp s.memory
    · simp only [Function.update_of_ne htt] at ht'
      exact h t' r rest₀ ht'
  | access t q rest rest' m hc hrest =>
    by_cases htt : t' = t
    · subst htt
      simp only [Function.update_self, Control.inside.injEq] at ht'
      obtain ⟨rfl, rfl⟩ := ht'
      have hbefore := h t' q rest hc
      have hless := Accesses.accesses_step hrest
      simp only
      omega
    · simp only [Function.update_of_ne htt] at ht'
      exact absurd (hexclusive.inside_unique ht' hc) htt
  | unlock t q q' hc =>
    by_cases htt : t' = t
    · subst htt
      simp only [Function.update_self, reduceCtorEq] at ht'
    · simp only [Function.update_of_ne htt] at ht'
      exact h t' r rest₀ ht'

/-- Left alone, a thread makes the accesses of its section. -/
theorem run_accesses (machine : Machine σ Q I) (shows : T → Q → Option I → Q → List V) {t : T} {q : Q}
    {rest : Accesses σ Q} (hc : s.control t = .inside q rest) :
    Runs.run machine.step s (List.replicate (rest.accesses s.memory) (.access t)) = some { s with
        memory := (rest.run s.memory).2
        control := Function.update s.control t (.inside q (.done (rest.run s.memory).1)) } ∧
      Runs.trace machine.step (machine.visible shows) s
        (List.replicate (rest.accesses s.memory) (.access t)) = [] := by
  induction rest generalizing s with
  | done a =>
    refine ⟨?_, rfl⟩
    rw [Accesses.run, ← hc, Function.update_eq_self]
    rfl
  | read next ih =>
    have hstep : machine.step s (.access t) = some
        { s with control := Function.update s.control t (.inside q (next s.memory)) } := by
      simp only [step, hc, Accesses.step, Option.map_some]
    obtain ⟨hrun, htrace⟩ := ih s.memory
      (s := { s with control := Function.update s.control t (.inside q (next s.memory)) })
      (Function.update_self _ _ _)
    constructor
    · rw [Accesses.accesses, List.replicate_succ, Runs.run_step hstep, hrun, Function.update_idem]
      rfl
    · rw [Accesses.accesses, List.replicate_succ, Runs.trace_step hstep, htrace]
      rfl
  | write update next ih =>
    have hstep : machine.step s (.access t) = some { s with
        memory := update s.memory
        control := Function.update s.control t (.inside q next) } := by
      simp only [step, hc, Accesses.step, Option.map_some]
    obtain ⟨hrun, htrace⟩ := ih (s := { s with
      memory := update s.memory
      control := Function.update s.control t (.inside q next) }) (Function.update_self _ _ _)
    constructor
    · rw [Accesses.accesses, List.replicate_succ, Runs.run_step hstep, hrun, Function.update_idem]
      rfl
    · rw [Accesses.accesses, List.replicate_succ, Runs.trace_step hstep, htrace]
      rfl

/-- The accesses a section still makes, and the release of the lock. -/
def finish (t : T) (k : Nat) : List (Label T I) := List.replicate k (.access t) ++ [.unlock t]

/-- Left alone, a thread ends its section and gives the lock back. -/
theorem run_finish (machine : Machine σ Q I) (shows : T → Q → Option I → Q → List V) {t : T} {q : Q}
    {rest : Accesses σ Q} (hc : s.control t = .inside q rest) :
    Runs.run machine.step s (finish t (rest.accesses s.memory)) =
        some ⟨(rest.run s.memory).2, none,
          Function.update s.control t (.outside (rest.run s.memory).1)⟩ ∧
      Runs.trace machine.step (machine.visible shows) s (finish t (rest.accesses s.memory)) =
        shows t q none (rest.run s.memory).1 := by
  obtain ⟨hrun, htrace⟩ := run_accesses machine shows hc
  have hstep : machine.step { s with
      memory := (rest.run s.memory).2
      control := Function.update s.control t (.inside q (.done (rest.run s.memory).1)) }
      (.unlock t) = some ⟨(rest.run s.memory).2, none,
        Function.update s.control t (.outside (rest.run s.memory).1)⟩ := by
    simp only [step, Function.update_self, Function.update_idem]
  constructor
  · exact Runs.run_trans hrun ((Runs.run_step hstep _).trans rfl)
  · rw [finish, Runs.trace_append hrun, htrace, Runs.trace_step hstep]
    simp only [visible, Function.update_self, Runs.trace, List.nil_append, List.append_nil]

/-- Who wants the lock can have it, after its owner at the latest. -/
theorem run_lock (hexclusive : Exclusive s) {t : T} {q : Q} {p : Accesses σ Q}
    (hc : s.control t = .outside q) (hbody : machine.body q = some p) :
    ∃ ls s', Runs.run machine.step s ls = some s' ∧ s'.owner = some t ∧
      s'.control t = .inside q p := by
  have hlock : ∀ {u : State T σ Q}, u.control t = .outside q → u.owner = none →
      machine.step u (.lock t) = some
        { u with owner := some t, control := Function.update u.control t (.inside q p) } := by
    intro u hu hfree
    simp only [step, hu, hfree, hbody, Option.map_some]
  cases howner : s.owner with
  | none =>
    exact ⟨[.lock t], _, (Runs.run_step (hlock hc howner) _).trans rfl, rfl, Function.update_self _ _ _⟩
  | some t' =>
    obtain ⟨q', rest, hinside⟩ := (hexclusive t').mp howner
    have hne : t ≠ t' := by
      rintro rfl
      rw [hc] at hinside
      cases hinside
    have hrun := (run_finish machine (fun _ _ _ _ => ([] : List Unit)) hinside).1
    refine ⟨finish t' (rest.accesses s.memory) ++ [.lock t], _, Runs.run_trans hrun
      ((Runs.run_step (hlock ?_ rfl) _).trans rfl), rfl, Function.update_self _ _ _⟩
    simp only [Function.update_of_ne hne]
    exact hc

/-- Whole sections can be run access by access. -/
theorem run_whole {ms : List (WholeLabel T I)} (hrun : Runs.run machine.stepWhole w ms = some w') :
    ∃ ls, Runs.run machine.step (start w.memory w.control) ls = some (start w'.memory w'.control) ∧
      Runs.trace machine.step (machine.visible shows) (start w.memory w.control) ls =
        Runs.trace machine.stepWhole (machine.visibleWhole shows) w ms := by
  induction ms generalizing w with
  | nil =>
    obtain rfl := Option.some.inj hrun
    exact ⟨[], rfl, rfl⟩
  | cons m ms ih =>
    obtain ⟨u, hu, hrun⟩ := Option.bind_eq_some_iff.mp hrun
    obtain ⟨ls, hls, htrace⟩ := ih hrun
    suffices hfirst : ∃ ks, Runs.run machine.step (start w.memory w.control) ks =
          some (start u.memory u.control) ∧
        Runs.trace machine.step (machine.visible shows) (start w.memory w.control) ks =
          machine.visibleWhole shows w m by
      obtain ⟨ks, hks, hshown⟩ := hfirst
      refine ⟨ks ++ ls, Runs.run_trans hks hls, ?_⟩
      rw [Runs.trace_append hks, hshown, htrace, Runs.trace_step hu]
    have houtside : ∀ (t : T) (q : Q), Function.update (fun t => Control.outside (w.control t)) t
        (.outside q : Control σ Q) = fun t' => .outside (Function.update w.control t q t') := by
      intro t q
      funext t'
      by_cases ht : t' = t
      · subst ht
        rw [Function.update_self, Function.update_self]
      · rw [Function.update_of_ne ht, Function.update_of_ne ht]
    cases m with
    | move t i =>
      obtain ⟨q', hmove, rfl⟩ := Option.map_eq_some_iff.mp hu
      have hstep : machine.step (start w.memory w.control) (.move t i) =
          some (start w.memory (Function.update w.control t q')) := by
        simp only [step, start, hmove, Option.map_some, houtside]
      refine ⟨[.move t i], (Runs.run_step hstep _).trans rfl, ?_⟩
      rw [Runs.trace_step hstep]
      simp only [visible, visibleWhole, start, hmove, Runs.trace, List.append_nil]
    | enter t =>
      obtain ⟨p, hbody, rfl⟩ := Option.map_eq_some_iff.mp hu
      have hlock : machine.step (start w.memory w.control) (.lock t : Label T I) =
          some ⟨w.memory, some t, Function.update (fun t => .outside (w.control t)) t
            (.inside (w.control t) p)⟩ := by
        simp only [step, start, hbody, Option.map_some]
      obtain ⟨s, hs⟩ : ∃ s : State T σ Q, s = ⟨w.memory, some t, Function.update
        (fun t => .outside (w.control t)) t (.inside (w.control t) p)⟩ := ⟨_, rfl⟩
      have hinside : s.control t = .inside (w.control t) p := by
        simp only [hs, Function.update_self]
      obtain ⟨hfinish, hshown⟩ := run_finish machine shows hinside
      rw [hs] at hfinish hshown
      refine ⟨.lock t :: finish t (p.accesses w.memory), ?_, ?_⟩
      · rw [Runs.run_step hlock, hfinish, Function.update_idem, houtside]
        rfl
      · rw [Runs.trace_step hlock, hshown]
        simp only [visible, visibleWhole, hbody, Option.elim_some, List.nil_append]

end Machine

/-! ## Commands -/

/-- A thread is given a command, or a thread's command is carried out. -/
inductive Told (T C : Type) where
  | given (t : T) (c : C)
  | carried (t : T) (c : C)

namespace Told
variable {T C : Type} [DecidableEq T]

/-- All commands that were carried out, in the order in which they were. -/
def allCarried : List (Told T C) → List (T × C)
  | [] => []
  | .given _ _ :: es => allCarried es
  | .carried t c :: es => (t, c) :: allCarried es

def givenTo (t : T) : List (Told T C) → List C
  | [] => []
  | .given t' c :: es => if t' = t then c :: givenTo t es else givenTo t es
  | .carried _ _ :: es => givenTo t es

/-- The part of one thread. -/
def part (t : T) (order : List (T × C)) : List C :=
  (order.filter fun e => decide (e.1 = t)).map Prod.snd

theorem part_cons_self (t : T) (c : C) (order : List (T × C)) :
    part t ((t, c) :: order) = c :: part t order := by
  simp only [part, List.filter_cons, decide_true, if_true, List.map_cons]

theorem part_cons_other {t t' : T} (h : t' ≠ t) (c : C) (order : List (T × C)) :
    part t ((t', c) :: order) = part t order := by
  simp only [part, List.filter_cons, h, decide_false, Bool.false_eq_true, if_false]

end Told

section Commands
variable {σ T C : Type} [DecidableEq T]

/-- Threads that carry out the commands they are given, each in one critical section. -/
def commands (body : C → Accesses σ Unit) : Machine σ (Option C) C where
  body q := q.map fun c => body c >>= fun _ => pure none
  move
    | none, c => some (some c)
    | some _, _ => none

def tells (t : T) (q : Option C) : Option C → Option C → List (Told T C)
  | some c, _ => [.given t c]
  | none, _ => q.toList.map (.carried t)

/-- What commands leave of the memory, one after the other. -/
def carryOut (body : C → Accesses σ Unit) (m : σ) (order : List (T × C)) : σ :=
  order.foldl (fun m e => ((body e.2).run m).2) m

variable {body : C → Accesses σ Unit}

theorem stepWhole_commands {w w' : Whole T σ (Option C)} {l : WholeLabel T C}
    (h : (commands body).stepWhole w l = some w') :
    (∃ t c, w.control t = none ∧ w' = ⟨w.memory, Function.update w.control t (some c)⟩ ∧
      (commands body).visibleWhole tells w l = [.given t c]) ∨
    ∃ t c, w.control t = some c ∧
      w' = ⟨((body c).run w.memory).2, Function.update w.control t none⟩ ∧
      (commands body).visibleWhole tells w l = [.carried t c] := by
  cases l with
  | move t c =>
    obtain ⟨q, hmove, rfl⟩ := Option.map_eq_some_iff.mp h
    cases hc : w.control t with
    | none =>
      rw [hc] at hmove
      obtain rfl := Option.some.inj hmove
      refine Or.inl ⟨t, c, hc, rfl, ?_⟩
      rw [Machine.visibleWhole, hc]
      rfl
    | some d =>
      rw [hc] at hmove
      cases hmove
  | enter t =>
    obtain ⟨p, hbody, rfl⟩ := Option.map_eq_some_iff.mp h
    obtain ⟨c, hc, rfl⟩ := Option.map_eq_some_iff.mp hbody
    refine Or.inr ⟨t, c, hc, ?_, ?_⟩
    · simp only [Accesses.run_bind, Accesses.run_pure]
    · rw [Machine.visibleWhole, hc]
      rfl

theorem runWhole_commands {w w' : Whole T σ (Option C)} {ms : List (WholeLabel T C)}
    (hrun : Runs.run (commands body).stepWhole w ms = some w') {told : List (Told T C)}
    (htold : told = Runs.trace (commands body).stepWhole ((commands body).visibleWhole tells) w ms) :
    w'.memory = carryOut body w.memory (Told.allCarried told) ∧
      ∀ t, (w.control t).toList ++ Told.givenTo t told =
        Told.part t (Told.allCarried told) ++ (w'.control t).toList := by
  induction ms generalizing w told with
  | nil =>
    obtain rfl := Option.some.inj hrun
    rw [htold]
    exact ⟨rfl, fun t => List.append_nil _⟩
  | cons m ms ih =>
    obtain ⟨u, hu, hrun⟩ := Option.bind_eq_some_iff.mp hrun
    obtain ⟨later, hlater⟩ : ∃ later, later = Runs.trace (commands body).stepWhole
      ((commands body).visibleWhole tells) u ms := ⟨_, rfl⟩
    obtain ⟨hmemory, hparts⟩ := ih hrun hlater
    rw [Runs.trace_step hu, ← hlater] at htold
    rcases stepWhole_commands hu with ⟨t, c, hc, rfl, hshown⟩ | ⟨t, c, hc, rfl, hshown⟩
    · rw [hshown, List.singleton_append] at htold
      rw [htold]
      refine ⟨hmemory, fun t' => ?_⟩
      have hpart := hparts t'
      dsimp only at hpart
      rw [Told.allCarried, ← hpart, Told.givenTo]
      by_cases ht : t = t'
      · subst ht
        rw [if_pos rfl, hc, Function.update_self]
        rfl
      · rw [if_neg ht, Function.update_of_ne (Ne.symm ht)]
    · rw [hshown, List.singleton_append] at htold
      rw [htold]
      refine ⟨hmemory, fun t' => ?_⟩
      have hpart := hparts t'
      dsimp only at hpart
      rw [Told.allCarried, Told.givenTo]
      by_cases ht : t = t'
      · subst ht
        rw [Function.update_self] at hpart
        rw [hc, Told.part_cons_self, List.cons_append, ← hpart]
        rfl
      · rw [Function.update_of_ne (Ne.symm ht)] at hpart
        rw [Told.part_cons_other ht, ← hpart]

/-- Run access by access: once the lock is free the memory is what the commands carried out so far
leave, and in every state each thread has carried out the commands it was given, in their order,
but for the one it is busy with. -/
theorem run_commands {m : σ} {s : State T σ (Option C)} {ls : List (Label T C)}
    (hrun : Runs.run (commands body).step (Machine.start m fun _ => none) ls = some s)
    {told : List (Told T C)} (htold : told = Runs.trace (commands body).step
      ((commands body).visible tells) (Machine.start m fun _ => none) ls) :
    (s.owner = none → s.memory = carryOut body m (Told.allCarried told)) ∧
      ∀ t q, (s.control t = .outside q ∨ ∃ rest, s.control t = .inside q rest) →
        Told.givenTo t told = Told.part t (Told.allCarried told) ++ q.toList := by
  obtain ⟨ms, w, hms, hsame, hrefines⟩ := Machine.refines_run (Machine.refines_start m _) hrun
  obtain ⟨hmemory, hparts⟩ := runWhole_commands hms (htold.trans hsame.symm)
  refine ⟨fun hfree => (hrefines.free hfree).trans hmemory, fun t q hq => ?_⟩
  have hcontrol : w.control t = q := by
    rcases hq with hq | ⟨rest, hq⟩
    · exact hrefines.outside t q hq
    · exact (hrefines.inside t q rest hq).1
  rw [← hcontrol]
  exact hparts t

end Commands

end IotMonitoring.Mutexes
