import Mathlib.Logic.Function.Basic
import IotMonitoring.Shared.Runs

/-!
# Atomic objects

Processes call an object and are answered later. The object is linearizable
when each call takes effect at one instant between the two: the answers are
those of a sequential machine, fed the calls in the order of these instants. The
atomic object makes that instant a step of its own, so a machine whose traces
are traces of the atomic object is linearizable.
-/

namespace IotMonitoring.AtomicObjects

set_option autoImplicit false

universe u v w x

/-- What can be seen of an object: the calls and the answers. -/
inductive Visible (P : Type u) (Op : Type v) (Res : Type w) where
  | call (p : P) (op : Op)
  | answer (p : P) (res : Res)

def Visible.process {P : Type u} {Op : Type v} {Res : Type w} : Visible P Op Res → P
  | call p _ | answer p _ => p

/-- A call that took effect, with its result. -/
structure Effect (P : Type u) (Op : Type v) (Res : Type w) where
  process : P
  op : Op
  res : Res

variable {P : Type u} {Op : Type v} {Res : Type w} {S : Type x} [DecidableEq P]

def callsOf (p : P) (seen : List (Visible P Op Res)) : List Op := seen.filterMap fun
  | .call q op => if q = p then some op else none
  | .answer _ _ => none

def answersOf (p : P) (seen : List (Visible P Op Res)) : List Res := seen.filterMap fun
  | .answer q res => if q = p then some res else none
  | .call _ _ => none

def effectsOf (p : P) (order : List (Effect P Op Res)) : List (Effect P Op Res) :=
  order.filter fun e => e.process = p

/-- An order of effects that explains a trace: it is a run of the machine, and at each point of the
trace the effects so far are, for each process, all that were answered and none that were not
called. -/
structure Linearization (machine : Op → S → Res × S) (start : S) (seen : List (Visible P Op Res))
    (order : List (Effect P Op Res)) : Prop where
  results : order.map Effect.res = Runs.outputs machine start (order.map Effect.op)
  points : ∀ pre post, seen = pre ++ post → ∃ before, before <+: order ∧ ∀ p,
    answersOf p pre <+: (effectsOf p before).map Effect.res ∧
      (effectsOf p before).map Effect.op <+: callsOf p pre

/-! ## The atomic object -/

/-- How far a call has come. -/
inductive Stage (Op : Type v) (Res : Type w) where
  | called (op : Op)
  | done (res : Res)

structure State (P : Type u) (Op : Type v) (Res : Type w) (S : Type x) where
  object : S
  stage : P → Option (Stage Op Res)

inductive Label (P : Type u) (Op : Type v) where
  | call (p : P) (op : Op)
  | effect (p : P)
  | answer (p : P)

namespace State

def init (start : S) : State P Op Res S := ⟨start, fun _ => none⟩

def step (machine : Op → S → Res × S) (s : State P Op Res S) :
    Label P Op → Option (State P Op Res S)
  | .call p op =>
    match s.stage p with
    | none => some { s with stage := Function.update s.stage p (some (.called op)) }
    | some _ => none
  | .effect p =>
    match s.stage p with
    | some (.called op) =>
      some ⟨(machine op s.object).2,
        Function.update s.stage p (some (.done (machine op s.object).1))⟩
    | _ => none
  | .answer p =>
    match s.stage p with
    | some (.done _) => some { s with stage := Function.update s.stage p none }
    | _ => none

def visible (s : State P Op Res S) : Label P Op → List (Visible P Op Res)
  | .call p op => [.call p op]
  | .effect _ => []
  | .answer p =>
    match s.stage p with
    | some (.done res) => [.answer p res]
    | _ => []

/-- The effect of a step. -/
def effect (machine : Op → S → Res × S) (s : State P Op Res S) :
    Label P Op → List (Effect P Op Res)
  | .effect p =>
    match s.stage p with
    | some (.called op) => [⟨p, op, (machine op s.object).1⟩]
    | _ => []
  | _ => []

/-- The three kinds of step, with what each requires. -/
inductive Stepped (machine : Op → S → Res × S) (s : State P Op Res S) :
    Label P Op → State P Op Res S → Prop where
  | call (p : P) (op : Op) (h : s.stage p = none) :
      Stepped machine s (.call p op) { s with stage := Function.update s.stage p (some (.called op)) }
  | effect (p : P) (op : Op) (h : s.stage p = some (.called op)) :
      Stepped machine s (.effect p) ⟨(machine op s.object).2,
        Function.update s.stage p (some (.done (machine op s.object).1))⟩
  | answer (p : P) (res : Res) (h : s.stage p = some (.done res)) :
      Stepped machine s (.answer p) { s with stage := Function.update s.stage p none }

variable {machine : Op → S → Res × S} {s s' : State P Op Res S} {l : Label P Op}

theorem step_cases (h : s.step machine l = some s') : Stepped machine s l s' := by
  cases l with
  | call p op =>
    simp only [step] at h
    split at h
    · cases h
      exact .call p op ‹_›
    · cases h
  | effect p =>
    simp only [step] at h
    split at h
    · cases h
      exact .effect p _ ‹_›
    · cases h
  | answer p =>
    simp only [step] at h
    split at h
    · cases h
      exact .answer p _ ‹_›
    · cases h

omit [DecidableEq P] in
theorem visible_length_le (s : State P Op Res S) (l : Label P Op) : (visible s l).length ≤ 1 := by
  cases l with
  | call p op => exact Nat.le_refl 1
  | effect p => exact Nat.zero_le 1
  | answer p =>
    simp only [visible]
    split
    · exact Nat.le_refl 1
    · exact Nat.zero_le 1

theorem step_call {p : P} (op : Op) (h : s.stage p = none) :
    s.step machine (.call p op) =
      some { s with stage := Function.update s.stage p (some (.called op)) } := by
  simp only [step, h]

theorem step_effect {p : P} {op : Op} (h : s.stage p = some (.called op)) :
    s.step machine (.effect p) = some ⟨(machine op s.object).2,
      Function.update s.stage p (some (.done (machine op s.object).1))⟩ := by
  simp only [step, h]

theorem step_answer {p : P} {res : Res} (h : s.stage p = some (.done res)) :
    s.step machine (.answer p) = some { s with stage := Function.update s.stage p none } := by
  simp only [step, h]

/-- A call that takes effect and is answered at once. -/
theorem run_effect_answer (machine : Op → S → Res × S) {p : P} {op : Op}
    (h : s.stage p = some (.called op)) : Runs.run (step machine) s [.effect p, .answer p] =
        some ⟨(machine op s.object).2, Function.update s.stage p none⟩ ∧
      Runs.trace (step machine) visible s [.effect p, .answer p] =
        [.answer p (machine op s.object).1] := by
  obtain ⟨t, ht⟩ : ∃ t : State P Op Res S, t = ⟨(machine op s.object).2,
    Function.update s.stage p (some (.done (machine op s.object).1))⟩ := ⟨_, rfl⟩
  have heffect : s.step machine (.effect p) = some t := by rw [step_effect h, ht]
  have hdone : t.stage p = some (.done (machine op s.object).1) := by
    rw [ht]
    exact Function.update_self _ _ _
  have hanswer : t.step machine (.answer p) =
      some { t with stage := Function.update t.stage p none } := step_answer hdone
  constructor
  · rw [Runs.run_step heffect, Runs.run_step hanswer, ht, Function.update_idem]
    rfl
  · rw [Runs.trace_step heffect, Runs.trace_step hanswer]
    simp only [visible, hdone, Runs.trace, List.nil_append, List.append_nil]

end State

/-! ## Its traces are linearizable -/

namespace Stage

/-- The call that has not taken effect yet. -/
def waiting : Option (Stage Op Res) → List Op
  | some (.called op) => [op]
  | _ => []

/-- The result that has not been answered yet. -/
def unanswered : Option (Stage Op Res) → List Res
  | some (.done res) => [res]
  | _ => []

end Stage

/-- What the trace and the effects so far have to do with the state. -/
structure Consistent (machine : Op → S → Res × S) (start : S) (s : State P Op Res S)
    (seen : List (Visible P Op Res)) (order : List (Effect P Op Res)) : Prop where
  object : s.object = Runs.reach machine start (order.map Effect.op)
  results : order.map Effect.res = Runs.outputs machine start (order.map Effect.op)
  calls : ∀ p, callsOf p seen = (effectsOf p order).map Effect.op ++ Stage.waiting (s.stage p)
  answers : ∀ p, (effectsOf p order).map Effect.res = answersOf p seen ++ Stage.unanswered (s.stage p)

section Consistent
variable {machine : Op → S → Res × S} {start : S} {s s' : State P Op Res S} {l : Label P Op}
variable {seen : List (Visible P Op Res)} {order : List (Effect P Op Res)}

theorem consistent_init : Consistent machine start (State.init start : State P Op Res S) [] [] where
  object := rfl
  results := rfl
  calls _ := rfl
  answers _ := rfl

theorem consistent_step (h : Consistent machine start s seen order)
    (hstep : s.step machine l = some s') :
    Consistent machine start s' (seen ++ s.visible l) (order ++ s.effect machine l) := by
  cases State.step_cases hstep with
  | call p op hp =>
    refine ⟨?_, ?_, fun q => ?_, fun q => ?_⟩
    · simpa only [State.effect, List.append_nil] using h.object
    · simpa only [State.effect, List.append_nil] using h.results
    · have hq := h.calls q
      simp only [State.effect, State.visible, List.append_nil]
      by_cases hqp : q = p
      · subst hqp
        rw [hp] at hq
        simpa [callsOf, Stage.waiting] using hq
      · have hpq : p ≠ q := Ne.symm hqp
        simpa [callsOf, hpq, Function.update_of_ne hqp] using hq
    · have hq := h.answers q
      simp only [State.effect, State.visible, List.append_nil]
      by_cases hqp : q = p
      · subst hqp
        rw [hp] at hq
        simpa [answersOf, Stage.unanswered] using hq
      · simpa [answersOf, Function.update_of_ne hqp] using hq
  | effect p op hp =>
    have heffect : s.effect machine (.effect p) = [⟨p, op, (machine op s.object).1⟩] := by
      simp only [State.effect, hp]
    rw [heffect]
    refine ⟨?_, ?_, fun q => ?_, fun q => ?_⟩
    · rw [List.map_append, Runs.reach_append, ← h.object]
      rfl
    · rw [List.map_append, List.map_append, Runs.outputs_append, ← h.object, h.results]
      rfl
    · have hq := h.calls q
      simp only [State.visible, List.append_nil]
      by_cases hqp : q = p
      · subst hqp
        rw [hp] at hq
        simpa [effectsOf, Stage.waiting] using hq
      · have hpq : p ≠ q := Ne.symm hqp
        simpa [effectsOf, hpq, Function.update_of_ne hqp] using hq
    · have hq := h.answers q
      simp only [State.visible, List.append_nil]
      by_cases hqp : q = p
      · subst hqp
        rw [hp] at hq
        simpa [effectsOf, Stage.unanswered] using hq
      · have hpq : p ≠ q := Ne.symm hqp
        simpa [effectsOf, hpq, Function.update_of_ne hqp] using hq
  | answer p res hp =>
    have hvisible : s.visible (.answer p) = [.answer p res] := by
      simp only [State.visible, hp]
    rw [hvisible]
    refine ⟨?_, ?_, fun q => ?_, fun q => ?_⟩
    · simpa only [State.effect, List.append_nil] using h.object
    · simpa only [State.effect, List.append_nil] using h.results
    · have hq := h.calls q
      simp only [State.effect, List.append_nil]
      by_cases hqp : q = p
      · subst hqp
        rw [hp] at hq
        simpa [callsOf, Stage.waiting] using hq
      · simpa [callsOf, Function.update_of_ne hqp] using hq
    · have hq := h.answers q
      simp only [State.effect, List.append_nil]
      by_cases hqp : q = p
      · subst hqp
        rw [hp] at hq
        simpa [answersOf, Stage.unanswered] using hq
      · have hpq : p ≠ q := Ne.symm hqp
        simpa [answersOf, hpq, Function.update_of_ne hqp] using hq

theorem consistent_run (h : Consistent machine start s seen order) {labels : List (Label P Op)}
    (hrun : Runs.run (State.step machine) s labels = some s') :
    Consistent machine start s'
      (seen ++ Runs.trace (State.step machine) State.visible s labels)
      (order ++ Runs.trace (State.step machine) (State.effect machine) s labels) := by
  induction labels generalizing s seen order with
  | nil =>
    obtain rfl := Option.some.inj hrun
    rw [Runs.trace, Runs.trace, List.append_nil, List.append_nil]
    exact h
  | cons l labels ih =>
    obtain ⟨t, ht, hrun⟩ := Option.bind_eq_some_iff.mp hrun
    rw [Runs.trace_step ht, Runs.trace_step ht, ← List.append_assoc, ← List.append_assoc]
    exact ih (consistent_step h ht) hrun

/-- Every trace of the atomic object has a linearization, which leads to its state. -/
theorem linearization_of_run {labels : List (Label P Op)} {s : State P Op Res S}
    (hrun : Runs.run (State.step machine) (State.init start) labels = some s) :
    ∃ order, Linearization machine start
        (Runs.trace (State.step machine) State.visible (State.init start) labels) order ∧
      s.object = Runs.reach machine start (order.map Effect.op) := by
  have hconsistent := consistent_run consistent_init hrun
  rw [List.nil_append] at hconsistent
  refine ⟨Runs.trace (State.step machine) (State.effect machine) (State.init start) labels,
    ⟨hconsistent.results, ?_⟩, hconsistent.object⟩
  intro pre post hseen
  obtain ⟨before, after, t, rfl, hbefore, hpre⟩ :=
    Runs.trace_prefix State.visible_length_le hrun hseen
  have hpoint := consistent_run consistent_init hbefore
  rw [List.nil_append, List.nil_append, hpre] at hpoint
  refine ⟨Runs.trace (State.step machine) (State.effect machine) (State.init start) before, ?_,
    fun p => ⟨?_, ?_⟩⟩
  · rw [Runs.trace_append hbefore]
    exact List.prefix_append _ _
  · rw [hpoint.answers p]
    exact List.prefix_append _ _
  · rw [hpoint.calls p]
    exact List.prefix_append _ _

end Consistent

/-! ## Answers given later -/

/-- Answers may reach their processes after what other processes did meanwhile. -/
inductive Delayed (seen : List (Visible P Op Res)) : List (Visible P Op Res) → Prop where
  | refl : Delayed seen seen
  | swap {pre post : List (Visible P Op Res)} {p : P} {res : Res} {v : Visible P Op Res}
      (hne : v.process ≠ p) (h : Delayed seen (pre ++ .answer p res :: v :: post)) :
      Delayed seen (pre ++ v :: .answer p res :: post)

section Delayed
variable {machine : Op → S → Res × S} {start : S}
variable {seen seen' seen'' : List (Visible P Op Res)} {order : List (Effect P Op Res)}

omit [DecidableEq P] in
theorem Delayed.trans (h : Delayed seen seen') (h' : Delayed seen' seen'') : Delayed seen seen'' := by
  induction h' with
  | refl => exact h
  | swap hne _ ih => exact .swap hne ih

omit [DecidableEq P] in
theorem Delayed.append (h : Delayed seen seen') (more : List (Visible P Op Res)) :
    Delayed (seen ++ more) (seen' ++ more) := by
  induction h with
  | refl => exact .refl
  | @swap pre post p res v hne _ ih =>
    rw [List.append_assoc, List.cons_append, List.cons_append] at ih ⊢
    exact .swap hne ih

omit [DecidableEq P] in
theorem Delayed.prepend (h : Delayed seen seen') (before : List (Visible P Op Res)) :
    Delayed (before ++ seen) (before ++ seen') := by
  induction h with
  | refl => exact .refl
  | swap hne _ ih =>
    rw [← List.append_assoc] at ih ⊢
    exact .swap hne ih

omit [DecidableEq P] in
theorem Delayed.mem (h : Delayed seen seen') {v : Visible P Op Res} : v ∈ seen ↔ v ∈ seen' := by
  induction h with
  | refl => exact Iff.rfl
  | swap hne _ ih =>
    rw [ih]
    simp only [List.mem_append, List.mem_cons]
    tauto

omit [DecidableEq P] in
/-- Answers to others wait for what `v` shows. -/
theorem Delayed.past {v : Visible P Op Res} {answers post : List (Visible P Op Res)}
    (hanswers : ∀ a ∈ answers, ∃ p res, a = .answer p res ∧ v.process ≠ p) (pre : List (Visible P Op Res)) :
    Delayed (pre ++ (answers ++ v :: post)) (pre ++ v :: (answers ++ post)) := by
  induction answers generalizing pre with
  | nil => exact .refl
  | cons a answers ih =>
    obtain ⟨p, res, rfl, hne⟩ := hanswers a List.mem_cons_self
    have hrest := ih (fun b hb => hanswers b (List.mem_cons_of_mem _ hb)) (pre ++ [.answer p res])
    simp only [List.append_assoc, List.cons_append, List.nil_append] at hrest ⊢
    exact .swap hne hrest

theorem answersOf_append (q : P) (seen more : List (Visible P Op Res)) :
    answersOf q (seen ++ more) = answersOf q seen ++ answersOf q more := List.filterMap_append

theorem callsOf_append (q : P) (seen more : List (Visible P Op Res)) :
    callsOf q (seen ++ more) = callsOf q seen ++ callsOf q more := List.filterMap_append

theorem answersOf_other {q : P} {v : Visible P Op Res} (hne : v.process ≠ q) : answersOf q [v] = [] := by
  cases v with
  | call p op => rfl
  | answer p res =>
    have hp : ¬ p = q := hne
    simp only [answersOf, List.filterMap_cons, if_neg hp, List.filterMap_nil]

theorem answersOf_cons_other {p q : P} (hne : p ≠ q) (res : Res) (seen : List (Visible P Op Res)) :
    answersOf q (.answer p res :: seen) = answersOf q seen := by
  simp only [answersOf, List.filterMap_cons, if_neg hne]

theorem answersOf_swap {p q : P} {res : Res} {v : Visible P Op Res} (hne : v.process ≠ p)
    (seen : List (Visible P Op Res)) :
    answersOf q (.answer p res :: v :: seen) = answersOf q (v :: .answer p res :: seen) := by
  cases v with
  | call p' op => rfl
  | answer p' res' =>
    by_cases hp : p = q
    · have hp' : p' ≠ q := fun heq => hne (heq.trans hp.symm)
      subst hp
      simp only [answersOf, List.filterMap_cons, if_neg hp', if_true]
    · simp only [answersOf, List.filterMap_cons, if_neg hp]

theorem callsOf_swap {p q : P} {res : Res} (v : Visible P Op Res) (seen : List (Visible P Op Res)) :
    callsOf q (.answer p res :: v :: seen) = callsOf q (v :: .answer p res :: seen) := by
  cases v with
  | call p' op => rfl
  | answer p' res' => rfl

omit [DecidableEq P] in
/-- Where a list with two entries in its middle can be cut. -/
theorem cut_cases {before after pre post : List (Visible P Op Res)} {v w : Visible P Op Res}
    (h : pre ++ post = before ++ v :: w :: after) :
    (∃ rest, before = pre ++ rest) ∨ pre = before ++ [v] ∨
      ∃ rest, pre = before ++ v :: w :: rest ∧ after = rest ++ post := by
  rcases List.append_eq_append_iff.mp h with ⟨rest, hbefore, -⟩ | ⟨rest, rfl, hrest⟩
  · exact Or.inl ⟨rest, hbefore⟩
  · cases rest with
    | nil => exact Or.inl ⟨[], by rw [List.append_nil, List.append_nil]⟩
    | cons x rest =>
      rw [List.cons_append, List.cons.injEq] at hrest
      obtain ⟨rfl, hrest⟩ := hrest
      cases rest with
      | nil => exact Or.inr (Or.inl rfl)
      | cons y rest =>
        rw [List.cons_append, List.cons.injEq] at hrest
        obtain ⟨rfl, rfl⟩ := hrest
        exact Or.inr (Or.inr ⟨rest, rfl, rfl⟩)

/-- The effects that explain a trace explain what is seen of it so far. -/
theorem Linearization.of_append {more : List (Visible P Op Res)}
    (h : Linearization machine start (seen ++ more) order) : Linearization machine start seen order where
  results := h.results
  points pre post hseen := h.points pre (post ++ more) (by rw [hseen, List.append_assoc])

/-- They explain it also when answers come later. -/
theorem Linearization.delayed (h : Linearization machine start seen order) (hd : Delayed seen seen') :
    Linearization machine start seen' order := by
  induction hd with
  | refl => exact h
  | @swap before after p res v hne _ ih =>
    refine ⟨h.results, fun pre post hcut => ?_⟩
    -- the cut is before the two, between them or behind them
    rcases cut_cases hcut.symm with ⟨rest, hrest⟩ | rfl | ⟨rest, rfl, rfl⟩
    · exact ih.points pre (rest ++ .answer p res :: v :: after) (by rw [hrest, List.append_assoc])
    · obtain ⟨done, hdone, hpoints⟩ := ih.points (before ++ [.answer p res, v]) after
        (by rw [List.append_assoc]; rfl)
      refine ⟨done, hdone, fun q => ⟨List.IsPrefix.trans ?_ (hpoints q).1, ?_⟩⟩
      · rw [answersOf_append, answersOf_append]
        by_cases hq : p = q
        · subst hq
          rw [answersOf_other hne, List.append_nil]
          exact List.prefix_append _ _
        · rw [answersOf_cons_other hq]
      · have hcalls := (hpoints q).2
        rw [callsOf_append] at hcalls ⊢
        exact hcalls
    · obtain ⟨done, hdone, hpoints⟩ := ih.points (before ++ .answer p res :: v :: rest) post
        (by rw [List.append_assoc]; rfl)
      refine ⟨done, hdone, fun q => ?_⟩
      have hpoint := hpoints q
      rw [answersOf_append, answersOf_swap hne, callsOf_append, callsOf_swap] at hpoint
      rw [answersOf_append, callsOf_append]
      exact hpoint

end Delayed

end IotMonitoring.AtomicObjects
