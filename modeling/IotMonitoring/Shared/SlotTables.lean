import Mathlib.Data.Fintype.Card
import Mathlib.Data.Fintype.EquivFin
import Mathlib.Tactic.Common

/-!
# Keyed slot tables scanned by first match

A fixed array of records, each with an occupied flag and a key. Lookup scans
for the first occupied slot with the key; insertion takes the first free slot.
`Packed t m` says that the occupied slots are exactly the first `m`, and
`Distinct t` that no key is held twice. Neither is assumed of the other: a
table that copies keys inexactly stays packed while it stops being distinct.
-/

namespace IotMonitoring.SlotTable

set_option autoImplicit false

universe u v
variable {n : Nat} {Rec : Type u} {Key : Type v} [DecidableEq Key]
variable (occupied : Rec → Bool) (key : Rec → Key)

/-- The first occupied slot with the key. -/
def find (t : Fin n → Rec) (k : Key) : Option (Fin n) :=
  Fin.find? fun i => occupied (t i) && decide (key (t i) = k)

/-- The first free slot. -/
def free (t : Fin n → Rec) : Option (Fin n) := Fin.find? fun i => ! occupied (t i)

def Packed (t : Fin n → Rec) (m : Nat) : Prop := ∀ i : Fin n, occupied (t i) = true ↔ i.val < m

def Distinct (t : Fin n → Rec) : Prop :=
  ∀ i j, occupied (t i) = true → occupied (t j) = true → key (t i) = key (t j) → i = j

/-- The keys held by the occupied slots. -/
def keys (t : Fin n → Rec) : Finset Key :=
  (Finset.univ.filter fun i => occupied (t i) = true).image fun i => key (t i)

section Find
variable {occupied key} {t : Fin n → Rec} {k : Key} {i j : Fin n} {r : Rec}

theorem find_eq_some_iff : find occupied key t k = some i ↔
    (occupied (t i) = true ∧ key (t i) = k) ∧
      ∀ j < i, occupied (t j) = true → key (t j) ≠ k := by
  simp only [find, Fin.find?_eq_some_iff, Bool.and_eq_true, decide_eq_true_eq,
    Bool.and_eq_false_imp, decide_eq_false_iff_not, ne_eq]

theorem find_eq_none_iff : find occupied key t k = none ↔
    ∀ j, occupied (t j) = true → key (t j) ≠ k := by
  simp only [find, Fin.find?_eq_none_iff, Bool.and_eq_false_imp, decide_eq_false_iff_not, ne_eq]

theorem find_occupied (h : find occupied key t k = some i) : occupied (t i) = true :=
  (find_eq_some_iff.mp h).1.1

theorem find_key (h : find occupied key t k = some i) : key (t i) = k :=
  (find_eq_some_iff.mp h).1.2

theorem find_isSome (hi : occupied (t i) = true) (hk : key (t i) = k) :
    ∃ j, find occupied key t k = some j := by
  cases h : find occupied key t k with
  | some j => exact ⟨j, rfl⟩
  | none => exact absurd hk (find_eq_none_iff.mp h i hi)

/-- Writing to a record without touching its flag and key moves no lookup. -/
theorem find_update_same (ho : occupied r = occupied (t i)) (hk : key r = key (t i)) :
    find occupied key (Function.update t i r) k = find occupied key t k := by
  unfold find
  congr 1
  funext j
  by_cases hj : j = i
  · subst hj
    simp only [Function.update_self, ho, hk]
  · simp only [Function.update_of_ne hj]

/-- A record put in a later free slot cannot shadow an earlier match. -/
theorem find_update_later (h : find occupied key t k = some j) (hij : j < i) :
    find occupied key (Function.update t i r) k = some j := by
  obtain ⟨⟨ho, hk⟩, hfirst⟩ := find_eq_some_iff.mp h
  apply find_eq_some_iff.mpr
  rw [Function.update_of_ne (Fin.ne_of_lt hij)]
  refine ⟨⟨ho, hk⟩, fun l hl => ?_⟩
  rw [Function.update_of_ne (Fin.ne_of_lt (Fin.lt_trans hl hij))]
  exact hfirst l hl

theorem find_update_key (h : find occupied key t k = none) (ho : occupied r = true)
    (hk : key r = k) : find occupied key (Function.update t i r) k = some i := by
  apply find_eq_some_iff.mpr
  rw [Function.update_self]
  refine ⟨⟨ho, hk⟩, fun l hl => ?_⟩
  rw [Function.update_of_ne (Fin.ne_of_lt hl)]
  exact find_eq_none_iff.mp h l

theorem find_update_other (h : find occupied key t k = none) (hk : key r ≠ k) :
    find occupied key (Function.update t i r) k = none := by
  apply find_eq_none_iff.mpr
  intro l
  by_cases hl : l = i
  · subst hl
    simp only [Function.update_self]
    exact fun _ => hk
  · simp only [Function.update_of_ne hl]
    exact find_eq_none_iff.mp h l

/-- Filling a free slot under another key moves no lookup of the key. -/
theorem find_update_foreign (hi : occupied (t i) = false) (hk : key r ≠ k) :
    find occupied key (Function.update t i r) k = find occupied key t k := by
  unfold find
  congr 1
  funext j
  by_cases hj : j = i
  · subst hj
    simp only [Function.update_self, hi, hk, decide_false, Bool.and_false, Bool.false_and]
  · simp only [Function.update_of_ne hj]

theorem find_of_distinct (hd : Distinct occupied key t) (hi : occupied (t i) = true) :
    find occupied key t (key (t i)) = some i := by
  obtain ⟨j, hj⟩ := find_isSome (k := key (t i)) hi rfl
  rw [hj, hd j i (find_occupied hj) hi (find_key hj)]

end Find

section Packing
variable {occupied} {t : Fin n → Rec} {m : Nat} {i : Fin n} {r : Rec}

theorem free_of_packed_lt (h : Packed occupied t m) (hm : m < n) :
    free occupied t = some ⟨m, hm⟩ := by
  apply Fin.find?_eq_some_iff.mpr
  constructor
  · have := (h ⟨m, hm⟩).not.mpr (Nat.lt_irrefl m)
    simpa using this
  · intro j hj
    simpa using (h j).mpr hj

theorem free_of_packed_full (h : Packed occupied t m) (hm : n ≤ m) : free occupied t = none := by
  apply Fin.find?_eq_none_iff.mpr
  intro j
  simpa using (h j).mpr (Nat.lt_of_lt_of_le j.isLt hm)

theorem free_eq_none_iff_full (h : Packed occupied t m) : free occupied t = none ↔ n ≤ m := by
  constructor
  · intro hf
    by_contra hm
    rw [free_of_packed_lt h (by omega)] at hf
    cases hf
  · exact free_of_packed_full h

/-- In a packed table the free slot found is the one after the last occupied slot. -/
theorem eq_of_free (h : Packed occupied t m) (hf : free occupied t = some i) : i.val = m := by
  by_cases hm : m < n
  · rw [free_of_packed_lt h hm, Option.some.injEq] at hf
    rw [← hf]
  · rw [free_of_packed_full h (by omega)] at hf
    cases hf

theorem not_occupied_of_free (hf : free occupied t = some i) : occupied (t i) = false := by
  simpa using (Fin.find?_eq_some_iff.mp hf).1

theorem packed_update_same (h : Packed occupied t m) (ho : occupied r = occupied (t i)) :
    Packed occupied (Function.update t i r) m := by
  intro j
  by_cases hj : j = i
  · subst hj
    rw [Function.update_self, ho]
    exact h j
  · rw [Function.update_of_ne hj]
    exact h j

theorem packed_update_free (h : Packed occupied t m) (hf : free occupied t = some i)
    (ho : occupied r = true) : Packed occupied (Function.update t i r) (m + 1) := by
  have hi := eq_of_free h hf
  intro j
  by_cases hj : j = i
  · subst hj
    rw [Function.update_self]
    exact ⟨fun _ => by omega, fun _ => ho⟩
  · rw [Function.update_of_ne hj, h j]
    have hne : j.val ≠ i.val := fun he => hj (Fin.ext he)
    omega

theorem lt_of_packed_free (h : Packed occupied t m) (hf : free occupied t = some i) {j : Fin n}
    (hj : occupied (t j) = true) : j < i := by
  have hi := eq_of_free h hf
  have hjm := (h j).mp hj
  exact Fin.lt_def.mpr (by omega)

theorem countP_range_lt {m k : Nat} (h : m ≤ k) :
    (List.range k).countP (fun i => decide (i < m)) = m := by
  induction k with
  | zero => rw [Nat.le_zero.mp h, List.range_zero, List.countP_nil]
  | succ k ih =>
    rw [List.range_succ, List.countP_append, List.countP_singleton]
    rcases Nat.lt_or_eq_of_le h with hlt | heq
    · rw [ih (Nat.le_of_lt_succ hlt), if_neg (by simpa using Nat.le_of_lt_succ hlt),
        Nat.add_zero]
    · subst heq
      have hbelow : (List.range k).countP (fun i => decide (i < k + 1)) = (List.range k).length := by
        rw [List.countP_eq_length]
        intro i hi
        exact decide_eq_true (Nat.lt_succ_of_lt (List.mem_range.mp hi))
      rw [hbelow, List.length_range, if_pos (by simp)]

/-- A packed table has as many occupied slots as its first free one tells. -/
theorem countP_of_packed (h : Packed occupied t m) (hm : m ≤ n) :
    ((List.finRange n).countP fun i => occupied (t i)) = m := by
  have hstarts : (fun i : Fin n => occupied (t i)) = fun i => decide (i.val < m) := by
    funext i
    exact Bool.eq_iff_iff.mpr ((h i).trans decide_eq_true_iff.symm)
  have hvals : (List.finRange n).map Fin.val = List.range n :=
    List.ext_getElem (by simp) (by simp)
  have hmap := List.countP_map (p := fun i => decide (i < m)) (f := Fin.val) (l := List.finRange n)
  rw [hvals, countP_range_lt hm] at hmap
  rw [hstarts]
  exact hmap.symm

/-- A change of one slot changes a count by that slot. -/
theorem countP_update (p : Rec → Bool) (t : Fin n → Rec) (r : Rec) (i : Fin n) :
    ((List.finRange n).countP fun j => p (Function.update t i r j)) + (p (t i)).toNat =
      ((List.finRange n).countP fun j => p (t j)) + (p r).toNat := by
  have hlist : ∀ l : List (Fin n), l.Nodup → i ∈ l →
      (l.countP fun j => p (Function.update t i r j)) + (p (t i)).toNat =
        (l.countP fun j => p (t j)) + (p r).toNat := by
    intro l hl hi
    induction l with
    | nil => cases hi
    | cons j l ih =>
      obtain ⟨hj, hl⟩ := List.nodup_cons.mp hl
      rw [List.countP_cons, List.countP_cons]
      by_cases hij : i = j
      · subst hij
        have hrest : (l.countP fun j => p (Function.update t i r j)) =
            l.countP fun j => p (t j) := by
          apply List.countP_congr
          intro k hk
          have hne : k ≠ i := fun h => hj (h ▸ hk)
          rw [Function.update_of_ne hne]
        rw [hrest, Function.update_self]
        cases p r <;> cases p (t i) <;> rfl
      · have hnext := ih hl ((List.mem_cons.mp hi).resolve_left hij)
        rw [Function.update_of_ne (Ne.symm hij)]
        omega
  exact hlist _ (List.nodup_finRange n) (List.mem_finRange i)

end Packing

section Keys
variable {occupied key} {t : Fin n → Rec} {k : Key} {i : Fin n} {m : Nat} {r : Rec}

omit [DecidableEq Key] in
theorem distinct_update_same (h : Distinct occupied key t) (ho : occupied r = occupied (t i))
    (hk : key r = key (t i)) : Distinct occupied key (Function.update t i r) := by
  have same (j : Fin n) : occupied (Function.update t i r j) = occupied (t j) ∧
      key (Function.update t i r j) = key (t j) := by
    by_cases hj : j = i
    · subst hj
      simp only [Function.update_self, ho, hk, and_self]
    · simp only [Function.update_of_ne hj, and_self]
  intro j l hj hl hjl
  rw [(same j).1] at hj
  rw [(same l).1] at hl
  rw [(same j).2, (same l).2] at hjl
  exact h j l hj hl hjl

/-- Inserting a key that lookup does not find keeps the keys distinct. -/
theorem distinct_update_new (h : Distinct occupied key t)
    (hnew : find occupied key t (key r) = none) :
    Distinct occupied key (Function.update t i r) := by
  have hnone := find_eq_none_iff.mp hnew
  intro j l hj hl hjl
  by_cases hji : j = i <;> by_cases hli : l = i
  · rw [hji, hli]
  · rw [hji, Function.update_self, Function.update_of_ne hli] at hjl
    rw [Function.update_of_ne hli] at hl
    exact absurd hjl.symm (hnone l hl)
  · rw [hli, Function.update_self, Function.update_of_ne hji] at hjl
    rw [Function.update_of_ne hji] at hj
    exact absurd hjl (hnone j hj)
  · rw [Function.update_of_ne hji] at hj hjl
    rw [Function.update_of_ne hli] at hl hjl
    exact h j l hj hl hjl

theorem mem_keys : k ∈ keys occupied key t ↔ ∃ i, find occupied key t k = some i := by
  simp only [keys, Finset.mem_image, Finset.mem_filter, Finset.mem_univ, true_and]
  constructor
  · rintro ⟨i, hi, hk⟩
    exact find_isSome hi hk
  · rintro ⟨i, hi⟩
    exact ⟨i, find_occupied hi, find_key hi⟩

/-- A packed table with distinct keys holds as many keys as it has occupied slots. -/
theorem card_keys (hp : Packed occupied t m) (hd : Distinct occupied key t) (hm : m ≤ n) :
    (keys occupied key t).card = m := by
  rw [keys, Finset.card_image_of_injOn]
  · have hfilter : (Finset.univ.filter fun i => occupied (t i) = true) =
        (Finset.univ : Finset (Fin m)).map (Fin.castLEEmb hm) := by
      ext i
      rw [Finset.mem_filter, Finset.mem_map, hp i]
      constructor
      · exact fun hi => ⟨⟨i.val, hi.2⟩, Finset.mem_univ _, rfl⟩
      · rintro ⟨j, -, rfl⟩
        exact ⟨Finset.mem_univ _, j.isLt⟩
    rw [hfilter, Finset.card_map, Finset.card_univ, Fintype.card_fin]
  · intro i hi j hj he
    simp only [Finset.coe_filter, Finset.mem_univ, true_and, Set.mem_ofPred_eq] at hi hj
    exact hd i j hi hj he

end Keys

section Congr
variable {occupied key} {t t' : Fin n → Rec}

/-- A scan sees only the flags and the keys. -/
theorem find_congr (ho : ∀ i, occupied (t' i) = occupied (t i)) (hk : ∀ i, key (t' i) = key (t i))
    (k : Key) : find occupied key t' k = find occupied key t k := by
  simp only [find, ho, hk]

omit [DecidableEq Key] in
theorem free_congr (ho : ∀ i, occupied (t' i) = occupied (t i)) :
    free occupied t' = free occupied t := by
  simp only [free, ho]

end Congr

-- Scans are opened by the lemmas above only: unfolding one walks the whole array.
attribute [irreducible] find free

end IotMonitoring.SlotTable
