import IotMonitoring.Shared.Binary64

/-!
# Rounding and order

Rounding to nearest never crosses a representable number: whatever lies on one
side of `m * 2^e` before rounding lies on the same side after it. A
representable value is therefore its own rounding, and a comparison of decimal
texts with a threshold needs no reasoning about the last bit.
-/

namespace IotMonitoring.Binary64

set_option autoImplicit false

theorem roundHalfEven_le_of_le {num den m : Nat} (hden : 0 < den) (h : num ≤ m * den) :
    roundHalfEven num den ≤ m := by
  have hq : num / den ≤ m := Nat.div_le_of_le_mul (by rwa [Nat.mul_comm])
  rcases Nat.lt_or_eq_of_le hq with hlt | heq
  · exact Nat.le_trans (roundHalfEven_le num den) hlt
  · have hdiv := Nat.div_add_mod num den
    rw [heq, Nat.mul_comm] at hdiv
    have hr : num % den = 0 := by omega
    simp only [roundHalfEven, hr, Nat.mul_zero, hden, if_true, heq, Nat.le_refl]

theorem le_roundHalfEven_of_le {num den m : Nat} (hden : 0 < den) (h : m * den ≤ num) :
    m ≤ roundHalfEven num den := by
  have hq : m ≤ num / den := (Nat.le_div_iff_mul_le hden).mpr h
  unfold roundHalfEven
  dsimp only
  split
  · exact hq
  · split <;> omega

theorem roundHalfEven_cases (num den : Nat) :
    (roundHalfEven num den = num / den ∧ 2 * (num % den) ≤ den) ∨
      (roundHalfEven num den = num / den + 1 ∧ den ≤ 2 * (num % den)) := by
  unfold roundHalfEven
  dsimp only
  split
  · exact Or.inl ⟨rfl, by omega⟩
  · split
    · rcases Nat.mod_two_eq_zero_or_one (num / den) with heven | hodd
      · exact Or.inl ⟨by rw [heven, Nat.add_zero], by omega⟩
      · exact Or.inr ⟨by rw [hodd], by omega⟩
    · exact Or.inr ⟨rfl, by omega⟩

theorem roundHalfEven_near {num den : Nat} (hden : 0 < den) :
    2 * (roundHalfEven num den * den) ≤ 2 * num + den ∧
      2 * num ≤ 2 * (roundHalfEven num den * den) + den := by
  have hdiv := Nat.div_add_mod num den
  have hr := Nat.mod_lt num hden
  rw [Nat.mul_comm] at hdiv
  rcases roundHalfEven_cases num den with ⟨h, hhalf⟩ | ⟨h, hhalf⟩
  · rw [h]
    omega
  · rw [h, Nat.succ_mul (num / den)]
    omega

/-- Half of the number one, in units. -/
def halfUnit : Nat := 2 ^ 1073

theorem halfUnit_pos : 0 < halfUnit := by
  rw [halfUnit]
  apply Nat.pow_pos
  decide

theorem unit_eq_halves : unit = halfUnit + halfUnit := by
  rw [unit, halfUnit, ← Nat.two_mul, ← Nat.pow_succ']

theorem whole_eq_halves (t : Nat) : t * unit = 2 * t * halfUnit := by
  rw [unit_eq_halves]
  ring

/-! ## Rounding to 53 bits -/

/-- A quotient whose rounding drops bits has 53 of them or more. -/
theorem pow_le_of_dropped {q : Nat} (h : 0 < q.log2 - 52) : 2 ^ (52 + (q.log2 - 52)) ≤ q := by
  have hq : q ≠ 0 := by
    rintro rfl
    rw [Nat.log2_zero] at h
    omega
  have hpow := Nat.log2_self_le hq
  rwa [show 52 + (q.log2 - 52) = q.log2 by omega]

section
variable {num den m e s : Nat}

/-- Where the bound is finer than the dropped bits, it lies below all that is dropped from. -/
theorem bound_le_of_lt (hm : m ≤ 2 ^ 53) (hes : e < s) : m * 2 ^ e ≤ 2 ^ 52 * 2 ^ s := by
  calc m * 2 ^ e ≤ 2 ^ 53 * 2 ^ e := Nat.mul_le_mul_right _ hm
    _ = 2 ^ (53 + e) := (Nat.pow_add 2 53 e).symm
    _ ≤ 2 ^ (52 + s) := Nat.pow_le_pow_right (by omega) (by omega)
    _ = 2 ^ 52 * 2 ^ s := Nat.pow_add 2 52 s

theorem split_pow (hse : s ≤ e) : m * 2 ^ e = m * 2 ^ (e - s) * 2 ^ s := by
  rw [Nat.mul_assoc, ← Nat.pow_add, Nat.sub_add_cancel hse]

theorem rounded_le (hden : 0 < den) (hm : m ≤ 2 ^ 53) (hs : s = (num / den).log2 - 52)
    (h : num ≤ m * 2 ^ e * den) : roundHalfEven num (den * 2 ^ s) * 2 ^ s ≤ m * 2 ^ e := by
  have hscaled : 0 < den * 2 ^ s := Nat.mul_pos hden (Nat.two_pow_pos s)
  have hscale : ∀ k, k * 2 ^ s * den = k * (den * 2 ^ s) := fun k => by
    rw [Nat.mul_assoc, Nat.mul_comm (2 ^ s)]
  rcases Nat.lt_or_ge e s with hes | hse
  · have hlow : 2 ^ (52 + s) ≤ num / den := hs ▸ pow_le_of_dropped (by omega)
    have hhigh : num / den ≤ m * 2 ^ e := Nat.div_le_of_le_mul (by rwa [Nat.mul_comm])
    have heq : m * 2 ^ e = 2 ^ 52 * 2 ^ s := by
      apply Nat.le_antisymm (bound_le_of_lt hm hes)
      rw [← Nat.pow_add]
      exact Nat.le_trans hlow hhigh
    rw [heq, hscale] at h
    rw [heq]
    exact Nat.mul_le_mul_right _ (roundHalfEven_le_of_le hscaled h)
  · rw [split_pow hse, hscale] at h
    rw [split_pow hse]
    exact Nat.mul_le_mul_right _ (roundHalfEven_le_of_le hscaled h)

theorem le_rounded (hden : 0 < den) (hm : m ≤ 2 ^ 53) (hs : s = (num / den).log2 - 52)
    (h : m * 2 ^ e * den ≤ num) : m * 2 ^ e ≤ roundHalfEven num (den * 2 ^ s) * 2 ^ s := by
  have hscaled : 0 < den * 2 ^ s := Nat.mul_pos hden (Nat.two_pow_pos s)
  have hscale : ∀ k, k * 2 ^ s * den = k * (den * 2 ^ s) := fun k => by
    rw [Nat.mul_assoc, Nat.mul_comm (2 ^ s)]
  rcases Nat.lt_or_ge e s with hes | hse
  · have hlow : 2 ^ (52 + s) ≤ num / den := hs ▸ pow_le_of_dropped (by omega)
    have hbits : 2 ^ 52 ≤ roundHalfEven num (den * 2 ^ s) := by
      apply le_roundHalfEven_of_le hscaled
      rw [← hscale, ← Nat.pow_add]
      exact (Nat.le_div_iff_mul_le hden).mp hlow
    exact Nat.le_trans (bound_le_of_lt hm hes) (Nat.mul_le_mul_right _ hbits)
  · rw [split_pow hse, hscale] at h
    rw [split_pow hse]
    exact Nat.mul_le_mul_right _ (le_roundHalfEven_of_le hscaled h)

theorem roundUnits_le (hden : 0 < den) (hm : m ≤ 2 ^ 53) (h : num * unit ≤ m * 2 ^ e * den) :
    roundUnits num den ≤ m * 2 ^ e := rounded_le hden hm rfl h

theorem le_roundUnits (hden : 0 < den) (hm : m ≤ 2 ^ 53) (h : m * 2 ^ e * den ≤ num * unit) :
    m * 2 ^ e ≤ roundUnits num den := le_rounded hden hm rfl h

/-- Rounding does not cross a whole number of halves. -/
theorem roundUnits_le_halves {t : Nat} (hden : 0 < den) (ht : t ≤ 2 ^ 53) (h : 2 * num ≤ t * den) :
    roundUnits num den ≤ t * halfUnit := by
  have hbound : num * unit ≤ t * halfUnit * den := by
    calc num * unit = 2 * num * halfUnit := by rw [unit_eq_halves]; ring
      _ ≤ t * den * halfUnit := Nat.mul_le_mul_right _ h
      _ = t * halfUnit * den := Nat.mul_right_comm _ _ _
  rw [halfUnit] at hbound ⊢
  exact roundUnits_le hden ht hbound

theorem halves_le_roundUnits {t : Nat} (hden : 0 < den) (ht : t ≤ 2 ^ 53) (h : t * den ≤ 2 * num) :
    t * halfUnit ≤ roundUnits num den := by
  have hbound : t * halfUnit * den ≤ num * unit := by
    calc t * halfUnit * den = t * den * halfUnit := Nat.mul_right_comm _ _ _
      _ ≤ 2 * num * halfUnit := Nat.mul_le_mul_right _ h
      _ = num * unit := by rw [unit_eq_halves]; ring
  rw [halfUnit] at hbound ⊢
  exact le_roundUnits hden ht hbound

theorem roundUnits_le_natural {t : Nat} (hden : 0 < den) (ht : t ≤ 2 ^ 52) (h : num ≤ t * den) :
    roundUnits num den ≤ t * unit := by
  rw [whole_eq_halves]
  apply roundUnits_le_halves hden (by omega)
  rw [Nat.mul_assoc]
  exact Nat.mul_le_mul_left 2 h

theorem natural_le_roundUnits {t : Nat} (hden : 0 < den) (ht : t ≤ 2 ^ 52) (h : t * den ≤ num) :
    t * unit ≤ roundUnits num den := by
  rw [whole_eq_halves]
  apply halves_le_roundUnits hden (by omega)
  rw [Nat.mul_assoc]
  exact Nat.mul_le_mul_left 2 h

theorem roundUnits_exact {u : Nat} (hu : Representable u) (hden : 0 < den)
    (h : num * unit = u * den) : roundUnits num den = u := by
  obtain ⟨-, m, e, hm, rfl⟩ := hu
  apply Nat.le_antisymm
  · exact roundUnits_le hden hm (Nat.le_of_eq h)
  · exact le_roundUnits hden hm (Nat.le_of_eq h.symm)

theorem ofRatio_exact {negative : Bool} {u : Nat} (hu : Representable u) (hden : 0 < den)
    (h : num * unit = u * den) : ofRatio negative num den = .finite negative u hu := by
  have hround := roundUnits_exact hu hden h
  have hlt : roundUnits num den < limit := hround ▸ hu.1
  rw [ofRatio, dif_pos hlt]
  simp only [hround]

end

end IotMonitoring.Binary64
