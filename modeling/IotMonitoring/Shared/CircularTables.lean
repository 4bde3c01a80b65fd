import Mathlib.Data.Fin.Basic
import Mathlib.Data.List.Basic
import Mathlib.Data.List.Nodup
import Mathlib.Data.List.Range
import Mathlib.Tactic.Common

/-!
# Circular tables

A fixed array with a write index and a saturating count. `push` overwrites the
slot at the write index. `Holds t hist` relates a table to the full history of
what was ever pushed, newest first; it is kept by `push` through any number of
wraparounds. Readers walk backwards from the write index with C's signed
remainder; `recent_eq` says what they see.
-/

namespace IotMonitoring

set_option autoImplicit false

universe u

/-- `N` slots, the number of them in use, and the index written next. -/
structure CircularTable (α : Type u) (N : Nat) where
  slots : Fin N → α
  count : Nat
  next : Nat

namespace CircularTable
variable {α : Type u} {N : Nat}

theorem eq_of_mod_eq {a b : Nat} (hab : a ≤ b) (hlt : b - a < N) (h : b % N = a % N) : a = b := by
  have hd : N ∣ b - a := Nat.dvd_of_mod_eq_zero (Nat.sub_mod_eq_zero_of_mod_eq h)
  have hz := Nat.eq_zero_of_dvd_of_lt hd hlt
  omega

/-- Every slot holds the same value and nothing has been written. -/
def cleared (a : α) : CircularTable α N := ⟨fun _ => a, 0, 0⟩

def push (t : CircularTable α N) (a : α) : CircularTable α N where
  slots := fun i => if i.val = t.next then a else t.slots i
  count := if t.count < N then t.count + 1 else t.count
  next := (t.next + 1) % N

/-- Reading at a signed index; `none` is an access outside the array. -/
def slotAt (t : CircularTable α N) (i : Int) : Option α :=
  if h : 0 ≤ i ∧ i < N then some (t.slots ⟨i.toNat, by omega⟩) else none

/-- The backward walk of the readers, with the remainder of C's `int`. -/
def readIndex (t : CircularTable α N) (j : Nat) : Int :=
  Int.tmod ((t.next : Int) - 1 - j + N) N

/-- What a reader sees: `count` entries, walking back from the write index. -/
def recent (t : CircularTable α N) : List (Option α) :=
  (List.range t.count).map fun j => t.slotAt (t.readIndex j)

/-- `hist` is everything ever pushed, newest first. -/
structure Holds (t : CircularTable α N) (hist : List α) : Prop where
  next_eq : t.next = hist.length % N
  count_eq : t.count = min hist.length N
  slot_eq : ∀ (j : Nat) (hj : j < hist.length) (_ : j < N) (i : Fin N),
    i.val = (hist.length - 1 - j) % N → t.slots i = hist[j]

theorem holds_cleared (a : α) : Holds (cleared a : CircularTable α N) [] where
  next_eq := by simp [cleared]
  count_eq := by simp [cleared]
  slot_eq := by simp

theorem holds_push {t : CircularTable α N} {hist : List α} (h : Holds t hist) (a : α) :
    Holds (t.push a) (a :: hist) := by
  constructor
  · simp only [push, h.next_eq, List.length_cons, Nat.mod_add_mod]
  · simp only [push, h.count_eq, List.length_cons]
    split <;> omega
  · intro j hj hjN i hi
    simp only [List.length_cons, Nat.add_sub_cancel] at hi hj
    simp only [push, h.next_eq]
    cases j with
    | zero => simp [hi]
    | succ j =>
      have hne : i.val ≠ hist.length % N := by
        rw [hi]
        intro he
        have heq := eq_of_mod_eq (by omega) (by omega) he.symm
        omega
      rw [if_neg hne, List.getElem_cons_succ]
      exact h.slot_eq j (by omega) (by omega) i (by rw [hi]; congr 1; omega)

theorem Holds.next_lt (hN : 0 < N) {t : CircularTable α N} {hist : List α} (h : Holds t hist) :
    t.next < N := by
  rw [h.next_eq]
  exact Nat.mod_lt _ hN

theorem Holds.count_le {t : CircularTable α N} {hist : List α} (h : Holds t hist) :
    t.count ≤ N := by
  rw [h.count_eq]
  exact Nat.min_le_right _ _

/-- Inside the walk the dividend is never negative, so C's remainder is the mathematical one. -/
theorem Holds.readIndex_eq {t : CircularTable α N} {hist : List α} (h : Holds t hist)
    {j : Nat} (hj : j < t.count) :
    t.readIndex j = ((hist.length - 1 - j) % N : Nat) := by
  rw [h.count_eq] at hj
  have hmod : hist.length % N + N * (hist.length / N) = hist.length := Nat.mod_add_div _ _
  have hcast : (t.next : Int) - 1 - j + N = ((hist.length % N + (N - 1 - j) : Nat) : Int) := by
    rw [h.next_eq]
    omega
  rw [readIndex, hcast, ← Int.ofNat_tmod]
  congr 1
  have hadd : hist.length % N + (N - 1 - j) + N * (hist.length / N) = hist.length - 1 - j + N := by
    omega
  rw [← Nat.add_mul_mod_self_left (hist.length % N + (N - 1 - j)) N (hist.length / N), hadd,
    Nat.add_mod_right]

theorem Holds.readIndex_range (hN : 0 < N) {t : CircularTable α N} {hist : List α}
    (h : Holds t hist) {j : Nat} (hj : j < t.count) : 0 ≤ t.readIndex j ∧ t.readIndex j < N := by
  rw [h.readIndex_eq hj]
  have := Nat.mod_lt (hist.length - 1 - j) hN
  omega

/-- No slot is visited twice in one walk. -/
theorem Holds.readIndex_injective {t : CircularTable α N} {hist : List α} (h : Holds t hist)
    {j k : Nat} (hj : j < t.count) (hk : k < t.count)
    (he : t.readIndex j = t.readIndex k) : j = k := by
  rw [h.readIndex_eq hj, h.readIndex_eq hk, Int.natCast_inj] at he
  rw [h.count_eq] at hj hk
  rcases Nat.le_total j k with hjk | hjk
  · have heq := eq_of_mod_eq (by omega) (by omega) he
    omega
  · have heq := eq_of_mod_eq (by omega) (by omega) he.symm
    omega

theorem Holds.slotAt_readIndex (hN : 0 < N) {t : CircularTable α N} {hist : List α}
    (h : Holds t hist) {j : Nat} (hj : j < t.count) :
    t.slotAt (t.readIndex j) = hist[j]? := by
  have hlen : j < hist.length := by rw [h.count_eq] at hj; omega
  rw [slotAt, dif_pos (h.readIndex_range hN hj), List.getElem?_eq_getElem hlen]
  congr 1
  apply h.slot_eq j hlen (by rw [h.count_eq] at hj; omega)
  simp only [h.readIndex_eq hj, Int.toNat_natCast]

/-- A reader sees exactly the last `min (length hist) N` entries, newest first. -/
theorem Holds.recent_eq (hN : 0 < N) {t : CircularTable α N} {hist : List α} (h : Holds t hist) :
    t.recent = (hist.take N).map some := by
  apply List.ext_getElem?
  intro j
  by_cases hj : j < t.count
  · have hlen : j < hist.length := by rw [h.count_eq] at hj; omega
    have hjN : j < N := Nat.lt_of_lt_of_le hj h.count_le
    simp [recent, hj, h.slotAt_readIndex hN hj, hjN, hlen]
  · have hlen : (hist.take N).length ≤ j := by
      rw [List.length_take]
      rw [h.count_eq] at hj
      omega
    rw [List.getElem?_eq_none (by simpa [recent] using hj), List.getElem?_eq_none (by simpa using hlen)]

/-- Every slot in use holds an entry of the history. -/
theorem Holds.slot_mem {t : CircularTable α N} {hist : List α} (h : Holds t hist)
    {i : Fin N} (hi : i.val < t.count) : t.slots i ∈ hist := by
  rw [h.count_eq] at hi
  have hiN := i.isLt
  -- the newest entry written to slot `i` lies `(length - 1 - i) % N` places back
  have hmod := Nat.mod_add_div (hist.length - 1 - i.val) N
  set r := (hist.length - 1 - i.val) % N with hr
  have hrN : r < N := Nat.mod_lt _ (by omega)
  have hidx : i.val = (hist.length - 1 - r) % N := by
    have hsub : hist.length - 1 - r = i.val + N * ((hist.length - 1 - i.val) / N) := by omega
    rw [hsub, Nat.add_mul_mod_self_left, Nat.mod_eq_of_lt hiN]
  rw [h.slot_eq r (by omega) hrN i hidx]
  exact List.getElem_mem _

end CircularTable

end IotMonitoring
