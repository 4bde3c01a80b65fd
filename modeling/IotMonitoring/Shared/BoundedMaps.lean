import Mathlib.Data.Finmap
import IotMonitoring.Shared.SlotTables

/-!
# Bounded finite maps, and slot tables that represent them

A `BoundedMap` holds at most `n` keys. `Represents` says that a packed slot
table with distinct keys holds the entries of a map, each record seen through
`entry`. Changing a record in place is `modify` on the map, and filling the
first free slot with a missing key is `insert`.
-/

namespace IotMonitoring

set_option autoImplicit false

universe u v w

structure BoundedMap (Key : Type u) (Val : Type v) (n : Nat) where
  entries : Finmap fun _ : Key => Val
  bounded : entries.keys.card ≤ n

namespace BoundedMap
variable {Key : Type u} {Val : Type v} {n : Nat} [DecidableEq Key]

def empty : BoundedMap Key Val n := ⟨∅, by rw [Finmap.keys_empty]; exact Nat.zero_le n⟩

def size (m : BoundedMap Key Val n) : Nat := m.entries.keys.card

def lookup (m : BoundedMap Key Val n) (k : Key) : Option Val := m.entries.lookup k

theorem keys_insert (s : Finmap fun _ : Key => Val) (k : Key) (x : Val) :
    (s.insert k x).keys = Insert.insert k s.keys := by
  ext k'
  simp only [Finmap.mem_keys, Finmap.mem_insert, Finset.mem_insert]

/-- Add an entry while there is room. -/
def insert (m : BoundedMap Key Val n) (k : Key) (x : Val) (room : m.size < n) :
    BoundedMap Key Val n where
  entries := m.entries.insert k x
  bounded := by
    rw [keys_insert]
    exact Nat.le_trans (Finset.card_insert_le _ _) room

/-- Change the value of a key, if it has one. -/
def modify (m : BoundedMap Key Val n) (k : Key) (f : Val → Val) : BoundedMap Key Val n :=
  match h : m.lookup k with
  | none => m
  | some x =>
    { entries := m.entries.insert k (f x)
      bounded := by
        have hmem : k ∈ m.entries.keys := Finmap.mem_keys.mpr (Finmap.mem_of_lookup_eq_some h)
        rw [keys_insert, Finset.insert_eq_of_mem hmem]
        exact m.bounded }

@[simp] theorem lookup_empty (k : Key) : (empty : BoundedMap Key Val n).lookup k = none :=
  Finmap.lookup_empty k

theorem mem_keys_iff {m : BoundedMap Key Val n} {k : Key} :
    k ∈ m.entries.keys ↔ (m.lookup k).isSome := by
  rw [Finmap.mem_keys, lookup, Finmap.lookup_isSome]

theorem lookup_insert (m : BoundedMap Key Val n) (k : Key) (x : Val) (room : m.size < n)
    (k' : Key) : (m.insert k x room).lookup k' = if k' = k then some x else m.lookup k' := by
  by_cases hk : k' = k
  · rw [if_pos hk, hk]
    exact Finmap.lookup_insert _
  · rw [if_neg hk]
    exact Finmap.lookup_insert_of_ne _ hk

theorem lookup_modify (m : BoundedMap Key Val n) (k : Key) (f : Val → Val) (k' : Key) :
    (m.modify k f).lookup k' = if k' = k then (m.lookup k).map f else m.lookup k' := by
  unfold modify
  split
  · rename_i h
    by_cases hk : k' = k
    · rw [if_pos hk, hk, h]
      rfl
    · rw [if_neg hk]
  · rename_i x h
    by_cases hk : k' = k
    · rw [if_pos hk, hk]
      calc (m.entries.insert k (f x)).lookup k = some (f x) := Finmap.lookup_insert _
        _ = (m.lookup k).map f := by rw [h, Option.map_some]
    · rw [if_neg hk]
      exact Finmap.lookup_insert_of_ne _ hk

end BoundedMap

namespace SlotTable
variable {n m : Nat} {Rec : Type u} {Key : Type v} {Val : Type w} [DecidableEq Key]
variable {occupied : Rec → Bool} {key : Rec → Key} {entry : Rec → Val}
variable {t : Fin n → Rec} {bm : BoundedMap Key Val n} {i : Fin n} {r : Rec}

/-- The table holds the entries of the map, in its first `m` slots. -/
structure Represents (occupied : Rec → Bool) (key : Rec → Key) (entry : Rec → Val)
    (t : Fin n → Rec) (m : Nat) (bm : BoundedMap Key Val n) : Prop where
  packed : Packed occupied t m
  count_le : m ≤ n
  distinct : Distinct occupied key t
  lookup : ∀ k, bm.lookup k = (find occupied key t k).map fun i => entry (t i)

theorem Represents.size_eq (h : Represents occupied key entry t m bm) : bm.size = m := by
  have hkeys : bm.entries.keys = keys occupied key t := by
    ext k
    rw [BoundedMap.mem_keys_iff, h.lookup, Option.isSome_map, mem_keys, Option.isSome_iff_exists]
  rw [BoundedMap.size, hkeys, card_keys h.packed h.distinct h.count_le]

theorem represents_empty (h : ∀ i, occupied (t i) = false) :
    Represents occupied key entry t 0 BoundedMap.empty where
  packed := by
    intro i
    rw [h i]
    simp only [Bool.false_eq_true, Nat.not_lt_zero]
  count_le := Nat.zero_le n
  distinct := by
    intro i j hi
    rw [h i] at hi
    cases hi
  lookup := by
    intro k
    have hnone : find occupied key t k = none := find_eq_none_iff.mpr fun j hj => by
      rw [h j] at hj
      cases hj
    rw [BoundedMap.lookup_empty, hnone]
    rfl

/-- Rewriting a record in place, keeping its flag and key. -/
theorem Represents.update (h : Represents occupied key entry t m bm) {f : Val → Val}
    (hi : occupied (t i) = true) (ho : occupied r = occupied (t i)) (hk : key r = key (t i))
    (hf : entry r = f (entry (t i))) :
    Represents occupied key entry (Function.update t i r) m (bm.modify (key (t i)) f) where
  packed := packed_update_same h.packed ho
  count_le := h.count_le
  distinct := distinct_update_same h.distinct ho hk
  lookup := by
    intro k
    have hfind : find occupied key t (key (t i)) = some i := find_of_distinct h.distinct hi
    rw [BoundedMap.lookup_modify, h.lookup, h.lookup, find_update_same ho hk, hfind]
    by_cases hki : k = key (t i)
    · rw [if_pos hki, hki, hfind]
      simp only [Option.map_some, Function.update_self, hf]
    · rw [if_neg hki]
      cases hj : find occupied key t k with
      | none => rfl
      | some j =>
        have hne : j ≠ i := by
          rintro rfl
          exact hki (find_key hj).symm
        simp only [Option.map_some, Function.update_of_ne hne]

/-- Putting a record with a missing key in the first free slot. -/
theorem Represents.fill (h : Represents occupied key entry t m bm) (room : bm.size < n)
    (hf : free occupied t = some i) (hnew : find occupied key t (key r) = none)
    (ho : occupied r = true) : Represents occupied key entry (Function.update t i r) (m + 1)
      (bm.insert (key r) (entry r) room) where
  packed := packed_update_free h.packed hf ho
  count_le := by
    rw [h.size_eq] at room
    exact room
  distinct := distinct_update_new h.distinct hnew
  lookup := by
    intro k
    rw [BoundedMap.lookup_insert, h.lookup]
    by_cases hk : k = key r
    · rw [if_pos hk, hk, find_update_key hnew ho rfl]
      simp only [Option.map_some, Function.update_self]
    · rw [if_neg hk]
      cases hj : find occupied key t k with
      | none =>
        rw [find_update_other hj (Ne.symm hk)]
        rfl
      | some j =>
        have hji := lt_of_packed_free h.packed hf (find_occupied hj)
        rw [find_update_later hj hji]
        simp only [Option.map_some, Function.update_of_ne (Fin.ne_of_lt hji)]

/-- The table is full exactly when the map is. -/
theorem Represents.free_eq_none_iff (h : Represents occupied key entry t m bm) :
    free occupied t = none ↔ ¬ bm.size < n := by
  rw [free_eq_none_iff_full h.packed, h.size_eq, Nat.not_lt]

end SlotTable

end IotMonitoring
