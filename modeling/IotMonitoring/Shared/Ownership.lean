import Mathlib.Algebra.BigOperators.Group.Multiset.Basic
import Mathlib.Algebra.Order.Group.Multiset
import Mathlib.Data.Multiset.UnionInter
import IotMonitoring.Shared.Runs

/-!
# Threads and the handles they hold

A thread asks the system for one thing at a time. The system opens handles,
closes whatever it is told to and starts threads; what it answers is not up to
the threads. `owns` says which handles a thread has to account for at each
point of its code. Where every request keeps this account, no interleaving
makes a thread touch a handle that is not its own, or loses one.
-/

namespace IotMonitoring.Ownership

set_option autoImplicit false

universe u v
variable {H : Type u} {L : Type v}

/-- What a thread asks for. The next point of its code depends on the answer. -/
inductive Request (H : Type u) (L : Type v) where
  | stop
  | choose (next : Bool → L)
  /-- A new handle, named by a number that the system gives, or a failure. -/
  | acquire (name : Nat → H) (next : Option H → L)
  | use (h : H) (next : Bool → L)
  | release (h : H) (next : L)
  /-- A new thread, or a failure; the creator is told the number of the thread. -/
  | spawn (child : L) (next : Option Nat → L)
  | join (thread : Nat) (next : L)

namespace Request

def stops : Request H L → Bool
  | stop => true
  | _ => false

/-- The handle a request is about. -/
def handle? : Request H L → Option H
  | use h _ => some h
  | release h _ => some h
  | _ => none

end Request

/-- The handles that are open, and where each thread is. -/
structure Pool (H : Type u) (L : Type v) where
  opened : Multiset H
  threads : List L

/-- A thread moves on, with the answer to its request as far as it needs one. -/
structure Move where
  thread : Nat
  yes : Bool
  number : Option Nat

namespace Pool
variable [DecidableEq H] (code : L → Request H L)

def stopped (p : Pool H L) (thread : Nat) : Bool :=
  p.threads[thread]?.any fun l => (code l).stops

def goTo (p : Pool H L) (thread : Nat) (l : L) : Pool H L :=
  { p with threads := p.threads.set thread l }

def step (p : Pool H L) (m : Move) : Option (Pool H L) :=
  p.threads[m.thread]?.bind fun l =>
    match code l with
    | .stop => none
    | .choose next => some (p.goTo m.thread (next m.yes))
    | .acquire name next =>
      match m.number with
      | none => some (p.goTo m.thread (next none))
      | some k =>
        if name k ∈ p.opened then none
        else some { p.goTo m.thread (next (some (name k))) with opened := name k ::ₘ p.opened }
    | .use _ next => some (p.goTo m.thread (next m.yes))
    | .release h next => some { p.goTo m.thread next with opened := p.opened.erase h }
    | .spawn child next =>
      if m.yes then
        some { p.goTo m.thread (next (some p.threads.length)) with
          threads := (p.goTo m.thread (next (some p.threads.length))).threads ++ [child] }
      else some (p.goTo m.thread (next none))
    | .join thread next => if p.stopped code thread then some (p.goTo m.thread next) else none

/-- The pool that starts with one thread and nothing open. -/
def init (l : L) : Pool H L := ⟨0, [l]⟩

/-- What a step does, by the request it answers. -/
inductive Step (p : Pool H L) (m : Move) (l : L) : Pool H L → Prop
  | choose {next : Bool → L} (hreq : code l = .choose next) :
    Step p m l (p.goTo m.thread (next m.yes))
  | refused {name : Nat → H} {next : Option H → L} (hreq : code l = .acquire name next) :
    Step p m l (p.goTo m.thread (next none))
  | acquired {name : Nat → H} {next : Option H → L} {h : H} (hreq : code l = .acquire name next)
    (hnew : h ∉ p.opened) :
    Step p m l ⟨h ::ₘ p.opened, p.threads.set m.thread (next (some h))⟩
  | use {h : H} {next : Bool → L} (hreq : code l = .use h next) :
    Step p m l (p.goTo m.thread (next m.yes))
  | release {h : H} {next : L} (hreq : code l = .release h next) :
    Step p m l ⟨p.opened.erase h, p.threads.set m.thread next⟩
  | spawned {child : L} {next : Option Nat → L} (hreq : code l = .spawn child next) :
    Step p m l ⟨p.opened, p.threads.set m.thread (next (some p.threads.length)) ++ [child]⟩
  | unspawned {child : L} {next : Option Nat → L} (hreq : code l = .spawn child next) :
    Step p m l (p.goTo m.thread (next none))
  | join {thread : Nat} {next : L} (hreq : code l = .join thread next)
    (hstopped : p.stopped code thread = true) : Step p m l (p.goTo m.thread next)

variable {code} {p p' : Pool H L} {m : Move}

theorem step_cases (hstep : p.step code m = some p') :
    ∃ l, p.threads[m.thread]? = some l ∧ Step code p m l p' := by
  obtain ⟨l, hl, hstep⟩ := Option.bind_eq_some_iff.mp hstep
  refine ⟨l, hl, ?_⟩
  split at hstep
  · cases hstep
  · rename_i hreq
    cases hstep
    exact .choose hreq
  · rename_i hreq
    split at hstep
    · cases hstep
      exact .refused hreq
    · split at hstep
      · cases hstep
      · rename_i hnew
        cases hstep
        exact .acquired hreq hnew
  · rename_i hreq
    cases hstep
    exact .use hreq
  · rename_i hreq
    cases hstep
    exact .release hreq
  · rename_i hreq
    split at hstep
    · cases hstep
      exact .spawned hreq
    · cases hstep
      exact .unspawned hreq
  · rename_i hreq
    split at hstep
    · rename_i hstopped
      cases hstep
      exact .join hreq hstopped
    · cases hstep

end Pool

/-- Wherever the request leads, `P` holds. -/
def Request.Leads (P : L → Prop) : Request H L → Prop
  | stop => True
  | choose next => ∀ b, P (next b)
  | acquire _ next => ∀ h, P (next h)
  | use _ next => ∀ b, P (next b)
  | release _ next => P next
  | spawn _ next => ∀ t, P (next t)
  | join _ next => P next

/-- A step moves one thread, and may add one that this thread has created. -/
theorem Pool.step_threads [DecidableEq H] {code : L → Request H L} {P : L → L → Prop}
    (hleads : ∀ l, (code l).Leads (P l)) {p p' : Pool H L} {m : Move}
    (hstep : p.step code m = some p') : ∃ l l', p.threads[m.thread]? = some l ∧ P l l' ∧
      (code l).stops = false ∧ (p'.threads = p.threads.set m.thread l' ∨
        ∃ child next, code l = .spawn child next ∧ l' = next (some p.threads.length) ∧
          p'.threads = p.threads.set m.thread l' ++ [child]) := by
  obtain ⟨l, hl, hstep⟩ := Pool.step_cases hstep
  have hlead := hleads l
  cases hstep with
  | choose hcode | refused hcode | acquired hcode hnew | use hcode | release hcode
  | unspawned hcode | join hcode hstopped =>
    rw [hcode] at hlead
    refine ⟨l, _, hl, ?_, by rw [hcode]; rfl, Or.inl rfl⟩
    first
    | exact hlead
    | exact hlead _
  | @spawned child next hcode =>
    rw [hcode] at hlead
    exact ⟨l, _, hl, hlead _, by rw [hcode]; rfl, Or.inr ⟨child, next, hcode, rfl, rfl⟩⟩

/-! ## The account -/

/-- The request keeps the account of a thread that holds `mine`. -/
def Request.Keeps (owns : L → Multiset H) (mine : Multiset H) : Request H L → Prop
  | stop => mine = 0
  | choose next => ∀ b, owns (next b) = mine
  | acquire _ next => owns (next none) = mine ∧ ∀ h, owns (next (some h)) = h ::ₘ mine
  | use h next => h ∈ mine ∧ ∀ b, owns (next b) = mine
  | release h next => mine = h ::ₘ owns next
  | spawn child next => owns (next none) = mine ∧ ∀ t, mine = owns child + owns (next (some t))
  | join _ next => owns next = mine

/-- What the threads account for together. -/
def total (owns : L → Multiset H) (threads : List L) : Multiset H := (threads.map owns).sum

/-- The open handles are those the threads account for, each of them once. -/
structure Held (owns : L → Multiset H) (p : Pool H L) : Prop where
  once : p.opened.Nodup
  balanced : p.opened = total owns p.threads

section
variable {code : L → Request H L} {owns : L → Multiset H} {threads : List L} {i : Nat} {l : L}
variable {a : H}

theorem mem_total : a ∈ total owns threads ↔ ∃ l ∈ threads, a ∈ owns l := by
  induction threads with
  | nil => exact ⟨fun h => absurd h (Multiset.notMem_zero a), fun ⟨_, hl, _⟩ => by cases hl⟩
  | cons l threads ih =>
    rw [total, List.map_cons, List.sum_cons, Multiset.mem_add, List.exists_mem_cons_iff, ← ih]
    rfl

/-- The account of one thread and of the others. -/
theorem total_eq (hl : threads[i]? = some l) :
    total owns threads = owns l + total owns (threads.eraseIdx i) := by
  obtain ⟨hlt, rfl⟩ := List.getElem?_eq_some_iff.mp hl
  have hperm := (List.getElem_cons_eraseIdx_perm hlt).symm.map owns
  rw [total, hperm.sum_eq, List.map_cons, List.sum_cons]
  rfl

theorem total_set (hl : threads[i]? = some l) (l' : L) :
    total owns (threads.set i l') = owns l' + total owns (threads.eraseIdx i) := by
  obtain ⟨hlt, rfl⟩ := List.getElem?_eq_some_iff.mp hl
  have hperm := (List.set_perm_cons_eraseIdx hlt l').map owns
  rw [total, hperm.sum_eq, List.map_cons, List.sum_cons]
  rfl

/-- A thread only touches handles of its own. -/
theorem mem_owns_of_handle (hkeeps : ∀ l, (code l).Keeps owns (owns l))
    (ha : (code l).handle? = some a) :
    a ∈ owns l := by
  have hreq := hkeeps l
  cases hcode : code l with
  | use h next =>
    rw [hcode] at ha hreq
    cases ha
    exact hreq.1
  | release h next =>
    rw [hcode] at ha hreq
    cases ha
    rw [show owns l = a ::ₘ owns next from hreq]
    exact Multiset.mem_cons_self a _
  | _ =>
    rw [hcode] at ha
    cases ha

variable {p : Pool H L} (h : Held owns p) (hl : p.threads[i]? = some l)
include h hl

/-- What a thread accounts for is open. -/
theorem Held.open (ha : a ∈ owns l) : a ∈ p.opened := by
  rw [h.balanced, mem_total]
  exact ⟨l, List.mem_of_getElem? hl, ha⟩

/-- No two threads account for one handle. -/
theorem Held.apart {j : Nat} {l' : L} (hl' : p.threads[j]? = some l') (hne : j ≠ i)
    (ha : a ∈ owns l) : a ∉ owns l' := by
  intro ha'
  have hother : a ∈ total owns (p.threads.eraseIdx i) :=
    mem_total.mpr ⟨l', List.mem_eraseIdx_iff_getElem?.mpr ⟨j, hne, hl'⟩, ha'⟩
  have honce := h.once
  rw [h.balanced, total_eq hl] at honce
  exact (Multiset.disjoint_left.mp (Multiset.nodup_add.mp honce).2.2) ha hother

/-- A thread that holds as much as before. -/
theorem Held.goTo {l' : L} (hsame : owns l' = owns l) : Held owns (p.goTo i l') where
  once := h.once
  balanced := by
    rw [Pool.goTo, total_set hl, hsame, ← total_eq hl]
    exact h.balanced

end

/-! ## Runs -/

section
variable [DecidableEq H] {code : L → Request H L} {owns : L → Multiset H} {p p' : Pool H L}

variable (hkeeps : ∀ l, (code l).Keeps owns (owns l))
include hkeeps

theorem held_step {m : Move} (h : Held owns p) (hstep : p.step code m = some p') :
    Held owns p' := by
  obtain ⟨l, hl, hstep⟩ := Pool.step_cases hstep
  have hreq := hkeeps l
  cases hstep with
  | choose hcode =>
    rw [hcode] at hreq
    exact h.goTo hl (hreq m.yes)
  | refused hcode =>
    rw [hcode] at hreq
    exact h.goTo hl hreq.1
  | @acquired _ _ a hcode hnew =>
    rw [hcode] at hreq
    refine ⟨Multiset.nodup_cons.mpr ⟨hnew, h.once⟩, ?_⟩
    rw [total_set hl, hreq.2 a, Multiset.cons_add, ← total_eq hl, ← h.balanced]
  | use hcode =>
    rw [hcode] at hreq
    exact h.goTo hl (hreq.2 m.yes)
  | @release a next hcode =>
    rw [hcode] at hreq
    have hopened : p.opened = a ::ₘ (owns next + total owns (p.threads.eraseIdx m.thread)) := by
      rw [h.balanced, total_eq hl, hreq, Multiset.cons_add]
    refine ⟨h.once.erase a, ?_⟩
    rw [total_set hl, hopened, Multiset.erase_cons_head]
  | @spawned child next hcode =>
    rw [hcode] at hreq
    refine ⟨h.once, ?_⟩
    have hsplit : ∀ more : List L, total owns (more ++ [child]) = total owns more + owns child := by
      intro more
      rw [total, List.map_append, List.sum_append]
      exact congrArg _ (add_zero _)
    rw [hsplit, total_set hl, h.balanced, total_eq hl, hreq.2 p.threads.length, add_comm (owns child),
      add_right_comm]
  | unspawned hcode =>
    rw [hcode] at hreq
    exact h.goTo hl hreq.1
  | join hcode =>
    rw [hcode] at hreq
    exact h.goTo hl hreq

/-- In every state of a run the open handles are those the threads account for. -/
theorem held_run {l : L} (hl : owns l = 0) {moves : List Move}
    (hrun : Runs.run (Pool.step code) (Pool.init l) moves = some p) : Held owns p := by
  have hinit : Held owns (Pool.init l) := by
    refine ⟨Multiset.nodup_zero, ?_⟩
    rw [Pool.init, total, List.map_cons, List.map_nil, List.sum_cons, List.sum_nil, add_zero, hl]
  exact Runs.invariant_run (fun h hstep => held_step hkeeps h hstep) hinit hrun

end

end IotMonitoring.Ownership
