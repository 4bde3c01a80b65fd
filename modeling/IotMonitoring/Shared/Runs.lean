import Mathlib.Data.List.Basic
import Mathlib.Data.List.Infix
import Mathlib.Tactic.Common

/-!
# Runs of a deterministic labelled machine

`step s l` is the state after the label `l`, or `none` when `l` is not enabled.
`Always P` speaks about every state a run visits, `Guarded ok` about the label
of every step and the state it starts from. `always_iff_guarded` is the rule
for properties that hold along a run exactly when no bad step is taken. A
`trace` is what a run shows, and `trace_simulation` compares the traces of two
machines.
-/

namespace IotMonitoring.Runs

set_option autoImplicit false

universe u v
variable {S : Type u} {L : Type v} (step : S → L → Option S)

def run : S → List L → Option S
  | s, [] => some s
  | s, l :: ls => (step s l).bind fun s' => run s' ls

/-- Every state visited, the first and the last included. -/
def Always (P : S → Prop) : S → List L → Prop
  | s, [] => P s
  | s, l :: ls => P s ∧ ∀ s', step s l = some s' → Always P s' ls

/-- Every step is taken with `ok` true of the state before it and its label. -/
def Guarded (ok : S → L → Prop) : S → List L → Prop
  | _, [] => True
  | s, l :: ls => ok s l ∧ ∀ s', step s l = some s' → Guarded ok s' ls

instance decidableAlways (P : S → Prop) [DecidablePred P] :
    ∀ s ls, Decidable (Always step P s ls)
  | s, [] => inferInstanceAs (Decidable (P s))
  | s, l :: ls =>
    match h : step s l with
    | none => decidable_of_iff (P s) ⟨fun hP => ⟨hP, by simp [h]⟩, fun hP => hP.1⟩
    | some t =>
      have := decidableAlways P t ls
      decidable_of_iff (P s ∧ Always step P t ls)
        ⟨fun hP => ⟨hP.1, by simpa [h] using hP.2⟩, fun hP => ⟨hP.1, hP.2 t h⟩⟩

instance decidableGuarded (ok : S → L → Prop) [∀ s l, Decidable (ok s l)] :
    ∀ s ls, Decidable (Guarded step ok s ls)
  | _, [] => .isTrue trivial
  | s, l :: ls =>
    match h : step s l with
    | none => decidable_of_iff (ok s l) ⟨fun hok => ⟨hok, by simp [h]⟩, fun hok => hok.1⟩
    | some t =>
      have := decidableGuarded ok t ls
      decidable_of_iff (ok s l ∧ Guarded step ok t ls)
        ⟨fun hok => ⟨hok.1, by simpa [h] using hok.2⟩, fun hok => ⟨hok.1, hok.2 t h⟩⟩

variable {step} {s s' : S} {ls : List L} {P I : S → Prop} {ok : S → L → Prop}

theorem invariant_run (keep : ∀ {s l s'}, I s → step s l = some s' → I s') (h : I s)
    (hrun : run step s ls = some s') : I s' := by
  induction ls generalizing s with
  | nil =>
    simp only [run, Option.some.injEq] at hrun
    exact hrun ▸ h
  | cons l ls ih =>
    obtain ⟨t, ht, hrun⟩ := Option.bind_eq_some_iff.mp hrun
    exact ih (keep h ht) hrun

theorem run_append (s : S) (pre post : List L) :
    run step s (pre ++ post) = (run step s pre).bind fun t => run step t post := by
  induction pre generalizing s with
  | nil => rfl
  | cons l pre ih =>
    simp only [List.cons_append, run]
    cases step s l with
    | none => rfl
    | some t => exact ih t

theorem run_trans {t : S} {more : List L} (hrun : run step s ls = some t)
    (hmore : run step t more = some s') : run step s (ls ++ more) = some s' := by
  rw [run_append, hrun]
  exact hmore

/-- What the last step of a run started from. -/
theorem run_concat {l : L} (hrun : run step s (ls ++ [l]) = some s') :
    ∃ t, run step s ls = some t ∧ step t l = some s' := by
  rw [run_append] at hrun
  obtain ⟨t, ht, hlast⟩ := Option.bind_eq_some_iff.mp hrun
  obtain ⟨t', ht', hend⟩ := Option.bind_eq_some_iff.mp hlast
  cases hend
  exact ⟨t, ht, ht'⟩

theorem guarded_iff_steps : Guarded step ok s ls ↔
    ∀ pre l post, ls = pre ++ l :: post → ∀ t, run step s pre = some t → ok t l := by
  induction ls generalizing s with
  | nil =>
    constructor
    · intro _ pre l post hls
      cases pre <;> cases hls
    · exact fun _ => trivial
  | cons l ls ih =>
    constructor
    · intro h pre l' post hls t hrun
      cases pre with
      | nil =>
        simp only [List.nil_append, List.cons.injEq] at hls
        obtain ⟨rfl, rfl⟩ := hls
        simp only [run, Option.some.injEq] at hrun
        exact hrun ▸ h.1
      | cons l'' pre =>
        simp only [List.cons_append, List.cons.injEq] at hls
        obtain ⟨rfl, hls⟩ := hls
        obtain ⟨u, hu, hrun⟩ := Option.bind_eq_some_iff.mp hrun
        exact ih.mp (h.2 u hu) pre l' post hls t hrun
    · intro h
      refine ⟨h [] l ls rfl s rfl, fun t ht => ih.mpr ?_⟩
      intro pre l' post hls u hrun
      exact h (l :: pre) l' post (by rw [hls, List.cons_append]) u (by simp [run, ht, hrun])

theorem guarded_concat {l : L} (h : Guarded step ok s ls) (hrun : run step s ls = some s')
    (hl : ok s' l) : Guarded step ok s (ls ++ [l]) := by
  induction ls generalizing s with
  | nil =>
    simp only [run, Option.some.injEq] at hrun
    subst hrun
    exact ⟨hl, fun _ _ => trivial⟩
  | cons l' ls ih =>
    obtain ⟨t, ht, hrun⟩ := Option.bind_eq_some_iff.mp hrun
    refine ⟨h.1, fun t' ht' => ?_⟩
    obtain rfl := Option.some.inj (ht.symm.trans ht')
    exact ih (h.2 t ht) hrun

/-- What the good steps keep holds at the end of a run of good steps. -/
theorem invariant_guarded (keep : ∀ {s l s'}, I s → ok s l → step s l = some s' → I s') (h : I s)
    (hok : Guarded step ok s ls) (hrun : run step s ls = some s') : I s' := by
  induction ls generalizing s with
  | nil =>
    simp only [run, Option.some.injEq] at hrun
    exact hrun ▸ h
  | cons l ls ih =>
    obtain ⟨t, ht, hrun⟩ := Option.bind_eq_some_iff.mp hrun
    exact ih (keep h hok.1 ht) (hok.2 t ht) hrun

theorem always_iff_visits : Always step P s ls ↔
    ∀ pre post, ls = pre ++ post → ∀ s', run step s pre = some s' → P s' := by
  induction ls generalizing s with
  | nil =>
    constructor
    · intro h pre post hls s' hrun
      obtain ⟨rfl, -⟩ := List.append_eq_nil_iff.mp hls.symm
      simp only [run, Option.some.injEq] at hrun
      exact hrun ▸ h
    · exact fun h => h [] [] rfl s rfl
  | cons l ls ih =>
    constructor
    · intro h pre post hls s' hrun
      cases pre with
      | nil =>
        simp only [run, Option.some.injEq] at hrun
        exact hrun ▸ h.1
      | cons l' pre =>
        simp only [List.cons_append, List.cons.injEq] at hls
        obtain ⟨rfl, hls⟩ := hls
        obtain ⟨t, ht, hrun⟩ := Option.bind_eq_some_iff.mp hrun
        exact ih.mp (h.2 t ht) pre post hls s' hrun
    · intro h
      refine ⟨h [] (l :: ls) rfl s rfl, fun t ht => ih.mpr ?_⟩
      intro pre post hls s' hrun
      exact h (l :: pre) post (by rw [hls, List.cons_append]) s' (by simp [run, ht, hrun])

/-- What the good steps keep holds along every run of good steps. -/
theorem always_of_guarded (hP : ∀ s, I s → P s) (h : I s)
    (keep : ∀ {s l s'}, I s → ok s l → step s l = some s' → I s')
    (hok : Guarded step ok s ls) : Always step P s ls := by
  induction ls generalizing s with
  | nil => exact hP s h
  | cons l ls ih => exact ⟨hP s h, fun t ht => ih (keep h hok.1 ht) (hok.2 t ht)⟩

/-- When each admitted step keeps `Q` exactly if it is good and cannot restore
it, `Q` holds at the end of a run exactly if it held at its start and all the
steps were good. -/
theorem holds_iff_guarded {Q : S → Prop} {admitted : S → L → Prop}
    (keep : ∀ {s l s'}, I s → step s l = some s' → I s')
    (exact : ∀ {s l s'}, I s → admitted s l → step s l = some s' → (Q s' ↔ Q s ∧ ok s l))
    (h : I s) (hadm : Guarded step admitted s ls) (hrun : run step s ls = some s') :
    Q s' ↔ Q s ∧ Guarded step ok s ls := by
  induction ls generalizing s with
  | nil =>
    simp only [run, Option.some.injEq] at hrun
    simp only [hrun, Guarded, and_true]
  | cons l ls ih =>
    obtain ⟨t, ht, hrun⟩ := Option.bind_eq_some_iff.mp hrun
    rw [ih (keep h ht) (hadm.2 t ht) hrun, exact h hadm.1 ht, and_assoc]
    apply and_congr_right
    intro _
    constructor
    · rintro ⟨hok, hrest⟩
      refine ⟨hok, fun t' ht' => ?_⟩
      obtain rfl := Option.some.inj (ht.symm.trans ht')
      exact hrest
    · exact fun hok => ⟨hok.1, hok.2 t ht⟩

/-- `I` strengthens `P` to something a good step keeps, and a bad step breaks
`P` at once: then `P` holds along a run exactly when all its steps are good. -/
theorem always_iff_guarded (hP : ∀ s, I s → P s) (h : I s)
    (keep : ∀ {s l s'}, I s → ok s l → step s l = some s' → I s')
    (broken : ∀ {s l s'}, I s → ¬ ok s l → step s l = some s' → ¬ P s')
    (hrun : run step s ls = some s') : Always step P s ls ↔ Guarded step ok s ls := by
  induction ls generalizing s with
  | nil => exact ⟨fun _ => trivial, fun _ => hP s h⟩
  | cons l ls ih =>
    obtain ⟨t, ht, hrun⟩ := Option.bind_eq_some_iff.mp hrun
    have start : ∀ {ms}, Always step P t ms → P t := by
      intro ms hms
      exact always_iff_visits.mp hms [] ms rfl t rfl
    constructor
    · rintro ⟨_, hnext⟩
      have hgood : ok s l := by
        by_contra hbad
        exact broken h hbad ht (start (hnext t ht))
      refine ⟨hgood, fun t' ht' => ?_⟩
      obtain rfl := Option.some.inj (ht.symm.trans ht')
      exact (ih (keep h hgood ht) hrun).mp (hnext t ht)
    · exact always_of_guarded hP h keep

/-! ## Machines with output -/

section Outputs
universe w w'
variable {T : Type w} {O : Type w'}

/-- The outputs of a machine fed a list of inputs. -/
def outputs (machine : L → S → O × S) : S → List L → List O
  | _, [] => []
  | s, l :: ls => (machine l s).1 :: outputs machine (machine l s).2 ls

/-- Related states of two machines answer alike and step to related states, so
the machines answer alike for ever. -/
theorem outputs_eq_of_simulation {machine : L → S → O × S} {machine' : L → T → O × T}
    (R : S → T → Prop) (admitted : L → Prop)
    (simulate : ∀ {s t l}, R s t → admitted l →
      (machine l s).1 = (machine' l t).1 ∧ R (machine l s).2 (machine' l t).2)
    {s : S} {t : T} (h : R s t) (hadm : ∀ l ∈ ls, admitted l) :
    outputs machine s ls = outputs machine' t ls := by
  induction ls generalizing s t with
  | nil => rfl
  | cons l ls ih =>
    obtain ⟨hout, hnext⟩ := simulate h (hadm l List.mem_cons_self)
    rw [outputs, outputs, hout]
    congr 1
    exact ih hnext fun l' hl' => hadm l' (List.mem_cons_of_mem l hl')

/-- The state a machine reaches. -/
def reach (machine : L → S → O × S) : S → List L → S
  | s, [] => s
  | s, l :: ls => reach machine (machine l s).2 ls

theorem reach_append (machine : L → S → O × S) (s : S) (ls ms : List L) :
    reach machine s (ls ++ ms) = reach machine (reach machine s ls) ms := by
  induction ls generalizing s with
  | nil => rfl
  | cons l ls ih => exact ih _

theorem outputs_append (machine : L → S → O × S) (s : S) (ls ms : List L) :
    outputs machine s (ls ++ ms) = outputs machine s ls ++ outputs machine (reach machine s ls) ms := by
  induction ls generalizing s with
  | nil => rfl
  | cons l ls ih =>
    rw [List.cons_append, outputs, ih]
    rfl

/-- The outputs for the observed inputs only. -/
def outputsOn (machine : L → S → O × S) (observed : L → Bool) : S → List L → List O
  | _, [] => []
  | s, l :: ls =>
    if observed l then (machine l s).1 :: outputsOn machine observed (machine l s).2 ls
    else outputsOn machine observed (machine l s).2 ls

/-- Every input finds a state in which `ok` holds of it. -/
def Admits (machine : L → S → O × S) (ok : S → L → Prop) : S → List L → Prop
  | _, [] => True
  | s, l :: ls => ok s l ∧ Admits machine ok (machine l s).2 ls

section Observed
variable {machine : L → S → O × S} {observed : L → Bool} {R : S → S → Prop} {quiet : L → Prop}
variable {s t : S} {ms : List L}

/-- Unobserved inputs put no output before the others and keep the relation. -/
theorem outputsOn_skip (hidden : ∀ {s t l}, R s t → observed l = false → quiet l →
      R s (machine l t).2) (h : R s t) (hls : ∀ l ∈ ls, observed l = false) (hquiet : ∀ l ∈ ls, quiet l)
    (ms : List L) : R s (reach machine t ls) ∧
      outputsOn machine observed t (ls ++ ms) =
        outputsOn machine observed (reach machine t ls) ms := by
  induction ls generalizing t with
  | nil => exact ⟨h, rfl⟩
  | cons l ls ih =>
    have hl := hls l List.mem_cons_self
    obtain ⟨hrel, hout⟩ := ih (hidden h hl (hquiet l List.mem_cons_self))
      (fun l' hl' => hls l' (List.mem_cons_of_mem l hl'))
      fun l' hl' => hquiet l' (List.mem_cons_of_mem l hl')
    refine ⟨hrel, ?_⟩
    rw [List.cons_append, outputsOn, hl, if_neg Bool.false_ne_true]
    exact hout

theorem admits_reach (h : Admits machine ok t (ls ++ ms)) :
    Admits machine ok (reach machine t ls) ms := by
  induction ls generalizing t with
  | nil => exact h
  | cons l ls ih => exact ih h.2

/-- Two runs that are fed the same observed inputs from related states, with any other inputs in
between that keep the relation, give the same outputs for the observed ones. -/
theorem outputsOn_eq (R : S → S → Prop) (quiet : L → Prop) (symm : ∀ {s t}, R s t → R t s)
    (hidden : ∀ {s t l}, R s t → observed l = false → quiet l → R s (machine l t).2)
    (seen : ∀ {s t l}, R s t → observed l = true → ok s l → ok t l →
      (machine l s).1 = (machine l t).1 ∧ R (machine l s).2 (machine l t).2)
    (h : R s t) (hsame : ls.filter observed = ms.filter observed)
    (hls : ∀ l ∈ ls, quiet l) (hms : ∀ l ∈ ms, quiet l)
    (hoks : Admits machine ok s ls) (hokt : Admits machine ok t ms) :
    outputsOn machine observed s ls = outputsOn machine observed t ms := by
  induction ls generalizing s t ms with
  | nil =>
    have hnone : ∀ l ∈ ms, observed l = false := by
      intro l hl
      have := List.filter_eq_nil_iff.mp hsame.symm l hl
      simpa using this
    have hskip := (outputsOn_skip hidden h hnone hms []).2
    rw [List.append_nil] at hskip
    rw [hskip]
    rfl
  | cons l ls ih =>
    have hrest : ∀ l' ∈ ls, quiet l' := fun l' hl' => hls l' (List.mem_cons_of_mem l hl')
    cases hl : observed l with
    | false =>
      rw [outputsOn, hl, if_neg Bool.false_ne_true]
      rw [List.filter_cons_of_neg (by rw [hl]; exact Bool.false_ne_true)] at hsame
      exact ih (symm (hidden (symm h) hl (hls l List.mem_cons_self))) hsame hrest hms hoks.2 hokt
    | true =>
      rw [List.filter_cons_of_pos hl] at hsame
      obtain ⟨pre, post, rfl, hpre, -, hpost⟩ := List.filter_eq_cons_iff.mp hsame.symm
      obtain ⟨hrel, hout⟩ := outputsOn_skip hidden h
        (fun l' hl' => Bool.eq_false_iff.mpr (hpre l' hl'))
        (fun l' hl' => hms l' (List.mem_append_left _ hl')) (l :: post)
      have hadm := admits_reach hokt
      obtain ⟨heq, hnext⟩ := seen hrel hl hoks.1 hadm.1
      rw [hout, outputsOn, outputsOn, hl, if_pos rfl, if_pos rfl, heq]
      congr 1
      exact ih hnext hpost.symm hrest
        (fun l' hl' => hms l' (List.mem_append_right _ (List.mem_cons_of_mem l hl'))) hoks.2 hadm.2

end Observed

end Outputs

/-! ## Traces -/

section Traces
universe w w' x
variable {T : Type w} {M : Type w'} {V : Type x}
variable (step : S → L → Option S) (visible : S → L → List V)

/-- What the steps of a run show, in order. -/
def trace : S → List L → List V
  | _, [] => []
  | s, l :: ls => visible s l ++ (step s l).elim [] fun s' => trace s' ls

variable {step visible} {s s' : S} {ls : List L}

theorem trace_step {l : L} (h : step s l = some s') (ls : List L) :
    trace step visible s (l :: ls) = visible s l ++ trace step visible s' ls := by
  rw [trace, h]
  rfl

theorem run_step {l : L} (h : step s l = some s') (ls : List L) :
    run step s (l :: ls) = run step s' ls := by
  rw [run, h]
  rfl

theorem trace_append (hrun : run step s ls = some s') (more : List L) :
    trace step visible s (ls ++ more) = trace step visible s ls ++ trace step visible s' more := by
  induction ls generalizing s with
  | nil =>
    obtain rfl := Option.some.inj hrun
    rfl
  | cons l ls ih =>
    obtain ⟨t, ht, hrun⟩ := Option.bind_eq_some_iff.mp hrun
    rw [List.cons_append, trace_step ht, trace_step ht, ih hrun, List.append_assoc]

/-- Where a step shows at most one thing, the beginnings of a trace are the traces of the
beginnings of its run. -/
theorem trace_prefix (hone : ∀ s l, (visible s l).length ≤ 1) (hrun : run step s ls = some s')
    {pre post : List V} (h : trace step visible s ls = pre ++ post) :
    ∃ before after t, ls = before ++ after ∧ run step s before = some t ∧
      trace step visible s before = pre := by
  induction ls generalizing s pre with
  | nil =>
    obtain ⟨rfl, -⟩ := List.append_eq_nil_iff.mp h.symm
    exact ⟨[], [], s, rfl, rfl, rfl⟩
  | cons l ls ih =>
    obtain ⟨t, ht, hrun⟩ := Option.bind_eq_some_iff.mp hrun
    cases pre with
    | nil => exact ⟨[], l :: ls, s, rfl, rfl, rfl⟩
    | cons v pre =>
      rw [trace_step ht] at h
      obtain ⟨pre', hpre⟩ : ∃ pre', v :: pre = visible s l ++ pre' := by
        cases hv : visible s l with
        | nil => exact ⟨v :: pre, rfl⟩
        | cons v' vs =>
          have hvs : vs = [] := by
            have hlen := hone s l
            rw [hv, List.length_cons] at hlen
            exact List.length_eq_zero_iff.mp (by omega)
          rw [hv, hvs, List.cons_append, List.nil_append, List.cons_append] at h
          exact ⟨pre, by rw [hvs, (List.cons.inj h).1]; rfl⟩
      rw [hpre, List.append_assoc] at h
      obtain ⟨before, after, u, rfl, hbefore, htrace⟩ := ih hrun (List.append_cancel_left h)
      exact ⟨l :: before, after, u, rfl, by rw [run_step ht, hbefore],
        by rw [trace_step ht, htrace, hpre]⟩

/-- When each good step of one machine is matched by steps of another that show the same, every
trace of good steps is a trace of the other machine. -/
theorem trace_simulation {step' : T → M → Option T} {visible' : T → M → List V}
    {R : S → T → Prop} {ok : S → L → Prop}
    (simulate : ∀ {s t l s'}, R s t → ok s l → step s l = some s' →
      ∃ ms t', run step' t ms = some t' ∧ trace step' visible' t ms = visible s l ∧ R s' t')
    {t : T} (h : R s t) (hok : Guarded step ok s ls) (hrun : run step s ls = some s') :
    ∃ ms t', run step' t ms = some t' ∧
      trace step' visible' t ms = trace step visible s ls ∧ R s' t' := by
  induction ls generalizing s t with
  | nil =>
    obtain rfl := Option.some.inj hrun
    exact ⟨[], t, rfl, rfl, h⟩
  | cons l ls ih =>
    obtain ⟨u, hu, hrun⟩ := Option.bind_eq_some_iff.mp hrun
    obtain ⟨ms, v, hms, hshown, hR⟩ := simulate h hok.1 hu
    obtain ⟨ms', t', hms', hrest, hend⟩ := ih hR (hok.2 u hu) hrun
    refine ⟨ms ++ ms', t', run_trans hms hms', ?_, hend⟩
    rw [trace_append hms, hshown, hrest, trace_step hu]

end Traces

end IotMonitoring.Runs
