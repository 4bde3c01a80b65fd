import Mathlib.Data.List.Basic

/-!
# Lists cut into pieces

`cut` takes a list apart into pieces of one length, the last of them shorter.
`cutUntilFull` does so with one list after the other and stops behind a list
whose pieces all have that length.
-/

namespace IotMonitoring.Pieces

set_option autoImplicit false

variable {α : Type}

/-- The consecutive pieces of `c` elements, the last one with what is left. -/
def cut (c : Nat) (l : List α) : List (List α) :=
  (List.range ((l.length + c - 1) / c)).map fun i => (l.drop (i * c)).take c

/-- The pieces of successive lists, up to the first list whose length is a multiple of `c`. -/
def cutUntilFull (c : Nat) : List (List α) → List (List α)
  | [] => []
  | l :: ls => if l.length % c = 0 then cut c l else cut c l ++ cutUntilFull c ls

section
variable {c : Nat} {l : List α} {ls : List (List α)} (hc : 0 < c)
include hc

theorem cut_nil : cut c ([] : List α) = [] := by
  have hnone : (0 + c - 1) / c = 0 := Nat.div_eq_of_lt (by omega)
  rw [cut, List.length_nil, hnone]
  rfl

/-- A list with at least one full piece. -/
theorem cut_of_le (h : c ≤ l.length) : cut c l = l.take c :: cut c (l.drop c) := by
  have hcount : (l.length + c - 1) / c = ((l.drop c).length + c - 1) / c + 1 := by
    rw [← Nat.add_div_right _ hc, List.length_drop]
    congr 1
    omega
  rw [cut, hcount, List.range_succ_eq_map, List.map_cons, List.map_map, Nat.zero_mul, List.drop_zero]
  congr 1
  apply List.map_congr_left
  intro i _
  rw [Function.comp_apply, List.drop_drop, Nat.succ_mul, Nat.add_comm c]

/-- A list that makes one piece. -/
theorem cut_of_lt (hne : l ≠ []) (h : l.length < c) : cut c l = [l] := by
  have hpos : 0 < l.length := List.length_pos_of_ne_nil hne
  have hone : (l.length + c - 1) / c = 1 := by
    rw [Nat.div_eq_iff hc]
    omega
  rw [cut, hone, List.range_one, List.map_cons, List.map_nil, Nat.zero_mul, List.drop_zero,
    List.take_of_length_le (Nat.le_of_lt h)]

theorem cutUntilFull_nil : cutUntilFull c ([] :: ls) = [] := by
  rw [cutUntilFull, List.length_nil, if_pos (Nat.zero_mod c), cut_nil hc]

theorem cutUntilFull_of_le (h : c ≤ l.length) :
    cutUntilFull c (l :: ls) = l.take c :: cutUntilFull c (l.drop c :: ls) := by
  have hmod : (l.drop c).length % c = l.length % c := by
    rw [List.length_drop, ← Nat.mod_eq_sub_mod h]
  rw [cutUntilFull, cutUntilFull, hmod, cut_of_le hc h]
  split <;> rfl

theorem cutUntilFull_of_lt (hne : l ≠ []) (h : l.length < c) :
    cutUntilFull c (l :: ls) = l :: cutUntilFull c ls := by
  have hpos : 0 < l.length := List.length_pos_of_ne_nil hne
  have hmod : l.length % c ≠ 0 := by
    rw [Nat.mod_eq_of_lt h]
    omega
  rw [cutUntilFull, if_neg hmod, cut_of_lt hc hne h, List.singleton_append]

end

theorem length_le_of_mem_cut {c : Nat} {l piece : List α} (h : piece ∈ cut c l) :
    piece.length ≤ c := by
  obtain ⟨i, -, rfl⟩ := List.mem_map.mp h
  exact List.length_take_le _ _

theorem length_le_of_mem_cutUntilFull {c : Nat} {ls : List (List α)} {piece : List α}
    (h : piece ∈ cutUntilFull c ls) : piece.length ≤ c := by
  induction ls with
  | nil => cases h
  | cons l ls ih =>
    rw [cutUntilFull] at h
    split at h
    · exact length_le_of_mem_cut h
    · rcases List.mem_append.mp h with h | h
      · exact length_le_of_mem_cut h
      · exact ih h

end IotMonitoring.Pieces
