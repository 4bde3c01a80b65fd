import IotMonitoring.Shared.NumberTexts
import IotMonitoring.Shared.Rounding

/-!
# Texts with two decimals

What `strtod` makes of a number written in digits, a point and two more digits:
the number itself, if the point is the byte of the C locale. A foreign point
ends the number, and a foreign digit prevents it from starting.
-/

namespace IotMonitoring.Binary64

open ByteStrings
set_option autoImplicit false

/-! ## Digits -/

/-- The digits of a number, the most significant one first. -/
def decimalDigits (n : Nat) : List Nat := if n = 0 then [0] else (Nat.digits 10 n).reverse

theorem decimal_eq (n : Nat) : decimal n = (decimalDigits n).map digitByte := by
  unfold decimal decimalDigits
  split
  · rfl
  · exact List.map_reverse.symm

theorem decimalDigits_lt {n d : Nat} (hd : d ∈ decimalDigits n) : d < 10 := by
  unfold decimalDigits at hd
  split at hd
  · rw [List.mem_singleton.mp hd]
    omega
  · exact Nat.digits_lt_base (by omega) (List.mem_reverse.mp hd)

theorem decimalDigits_ne_nil (n : Nat) : decimalDigits n ≠ [] := by
  unfold decimalDigits
  split
  · exact List.cons_ne_nil 0 []
  · rename_i hn
    exact fun h => hn (Nat.digits_eq_nil_iff_eq_zero.mp (List.reverse_eq_nil_iff.mp h))

theorem digitsValue_decimalDigits (n : Nat) : digitsValue 10 (decimalDigits n) = n := by
  unfold decimalDigits
  split
  · rename_i hn
    rw [hn]
    rfl
  · have hstep : (fun d a => a * 10 + d) = fun (d a : Nat) => (d : Nat) + 10 * a := by
      funext d a
      omega
    rw [digitsValue, List.foldl_reverse, hstep]
    exact (Nat.ofDigits_eq_foldr 10 _).symm.trans (Nat.ofDigits_digits 10 n)

theorem digitsValue_append (base : Nat) (ds es : List Nat) :
    digitsValue base (ds ++ es) = es.foldl (fun a d => a * base + d) (digitsValue base ds) :=
  List.foldl_append

theorem isDigit_digitByte {d : Nat} (h : d < 10) : isDigit (digitByte d) = true := by
  have hall : ∀ d < 10, isDigit (digitByte d) = true := by decide
  exact hall d h

theorem decimalDigit_digitByte {d : Nat} (h : d < 10) : decimalDigit (digitByte d) = some d := by
  have hall : ∀ d < 10, decimalDigit (digitByte d) = some d := by decide
  exact hall d h

theorem takeDigits_map {ds : List Nat} (hds : ∀ d ∈ ds, d < 10) {rest : Bytes}
    (hrest : ∀ c ∈ rest.head?, decimalDigit c = none) :
    takeDigits decimalDigit (ds.map digitByte ++ rest) = (ds, rest) := by
  induction ds with
  | nil =>
    cases rest with
    | nil => rfl
    | cons c cs =>
      have hc : decimalDigit c = none := hrest c rfl
      simp only [List.map_nil, List.nil_append, takeDigits, hc]
  | cons d ds ih =>
    have hd := decimalDigit_digitByte (hds d List.mem_cons_self)
    simp only [List.map_cons, List.cons_append, takeDigits, hd,
      ih fun e he => hds e (List.mem_cons_of_mem d he)]

/-! ## Reading numbers -/

def isLetter (c : UInt8) : Bool := 97 ≤ lower c && lower c ≤ 122

theorem takeWord_eq_none {word s : Bytes} {c : UInt8} (hc : c ∈ word)
    (hs : ∀ b ∈ s, lower b ≠ c) : takeWord word s = none := by
  rw [Option.eq_none_iff_forall_ne_some]
  intro rest htake
  obtain ⟨w, hw, hlower⟩ := takeWord_eq_some_iff.mp htake
  rw [← hlower] at hc
  obtain ⟨b, hb, rfl⟩ := List.mem_map.mp hc
  exact hs b (hw ▸ List.mem_append_left rest hb) rfl

/-- In front of this byte there are neither blanks nor a sign. -/
theorem takeSign_unsigned {c : UInt8} (hspace : isSpace c = false) (hplus : c ≠ 43) (hminus : c ≠ 45)
    (cs : Bytes) : takeSign ((c :: cs).dropWhile isSpace) = (false, c :: cs) := by
  rw [List.dropWhile_cons, hspace]
  simp only [Bool.false_eq_true, if_false]
  unfold takeSign
  split
  · rename_i heq
    exact absurd (List.cons.inj heq).1 hminus
  · rename_i heq
    exact absurd (List.cons.inj heq).1 hplus
  · rfl

/-- Without letters, and with no blank or sign in front, a text is a decimal number or nothing. -/
theorem strtod_eq_takeNumber {c : UInt8} {cs : Bytes} (hspace : isSpace c = false) (hplus : c ≠ 43)
    (hminus : c ≠ 45) (hletters : ∀ b ∈ c :: cs, isLetter b = false) :
    strtod (c :: cs) = takeNumber decimalRadix false (c :: cs) := by
  have hsign := takeSign_unsigned hspace hplus hminus cs
  have hnone : ∀ (word : Bytes) (l : UInt8), l ∈ word → (97 ≤ l && l ≤ 122) = true →
      takeWord word (c :: cs) = none := by
    intro word l hword hl
    apply takeWord_eq_none hword
    rintro b hb rfl
    exact Bool.false_ne_true ((hletters b hb).symm.trans hl)
  unfold strtod
  rw [hsign]
  simp only [hnone (ascii "infinity") 105 (by decide) (by decide),
    hnone (ascii "inf") 105 (by decide) (by decide),
    hnone (ascii "nan") 110 (by decide) (by decide),
    hnone (ascii "0x") 120 (by decide) (by decide)]

/-- A text that does not start with a digit or a point is no decimal number. -/
theorem takeNumber_eq_none {negative : Bool} {c : UInt8} {cs : Bytes} (hdigit : decimalDigit c = none)
    (hpoint : c ≠ 46) : takeNumber decimalRadix negative (c :: cs) = none := by
  have hwhole : takeDigits decimalRadix.digit (c :: cs) = ([], c :: cs) :=
    @takeDigits_map [] (fun d hd => absurd hd List.not_mem_nil) (c :: cs) fun b hb => by
      cases hb
      exact hdigit
  have hsignificand : takeSignificand decimalRadix (c :: cs) = none := by
    unfold takeSignificand
    simp only [hwhole]
    split
    · rename_i heq
      exact absurd (List.cons.inj heq).1 hpoint
    · rfl
  rw [takeNumber, hsignificand]

section
variable {n : Nat} {rest : Bytes}

/-- A byte that cannot continue a whole number: no digit, no point, no exponent. -/
structure EndsNumber (c : UInt8) : Prop where
  digit : decimalDigit c = none
  point : c ≠ 46
  exponent : lower c ≠ 101

theorem takeNumber_ended {negative : Bool} {c : UInt8} (hc : EndsNumber c) :
    ∃ conversion, takeNumber decimalRadix negative (decimal n ++ c :: rest) = some conversion ∧
      conversion.rest = c :: rest := by
  have hwhole : takeDigits decimalRadix.digit (decimal n ++ c :: rest) = (decimalDigits n, c :: rest) := by
    rw [decimal_eq]
    apply takeDigits_map fun d hd => decimalDigits_lt hd
    intro b hb
    cases hb
    exact hc.digit
  have hsignificand : takeSignificand decimalRadix (decimal n ++ c :: rest) =
      some (digitsValue 10 (decimalDigits n ++ []), 0, c :: rest) := by
    unfold takeSignificand
    simp only [hwhole]
    split
    · rename_i heq
      exact absurd (List.cons.inj heq).1 hc.point
    · rw [if_neg fun h => decimalDigits_ne_nil n h.1]
      rfl
  have hexponent : takeExponent decimalRadix (c :: rest) = (0, c :: rest) := if_neg hc.exponent
  rw [takeNumber, hsignificand]
  simp only [hexponent, Option.some.injEq, exists_eq_left']

/-- Digits, a point and two digits are read to the end as that many hundredths. -/
theorem takeNumber_hundredths (negative : Bool) (h : Nat) :
    takeNumber decimalRadix negative
        (decimal (h / 100) ++ [46, digitByte (h / 10 % 10), digitByte (h % 10)]) =
      some ⟨ofRatio negative h 100, [],
        !decide (roundUnits h 100 < limit) || underflows h 100⟩ := by
  have hpart : [digitByte (h / 10 % 10), digitByte (h % 10)] =
      [h / 10 % 10, h % 10].map digitByte ++ [] := rfl
  have hwhole : ∀ cs, takeDigits decimalRadix.digit (decimal (h / 100) ++ 46 :: cs) =
      (decimalDigits (h / 100), 46 :: cs) := by
    intro cs
    rw [decimal_eq]
    apply takeDigits_map fun d hd => decimalDigits_lt hd
    intro b hb
    cases hb
    rfl
  have hfraction : takeDigits decimalRadix.digit [digitByte (h / 10 % 10), digitByte (h % 10)] =
      ([h / 10 % 10, h % 10], []) := by
    rw [hpart]
    apply takeDigits_map
    · intro d hd
      simp only [List.mem_cons, List.not_mem_nil, or_false] at hd
      omega
    · intro b hb
      cases hb
  have hvalue : digitsValue 10 (decimalDigits (h / 100) ++ [h / 10 % 10, h % 10]) = h := by
    rw [digitsValue_append, digitsValue_decimalDigits]
    simp only [List.foldl_cons, List.foldl_nil]
    omega
  have hsignificand : takeSignificand decimalRadix
      (decimal (h / 100) ++ [46, digitByte (h / 10 % 10), digitByte (h % 10)]) = some (h, 2, []) := by
    unfold takeSignificand
    simp only [hwhole, hfraction]
    rw [if_neg fun hnil => decimalDigits_ne_nil _ hnil.1]
    simp only [decimalRadix] at hvalue ⊢
    rw [hvalue]
    rfl
  rw [takeNumber, hsignificand]
  simp only [takeExponent, decimalRadix, Int.toNat_zero, Int.neg_zero, Nat.pow_zero, Nat.mul_one,
    Nat.reducePow]

end

/-! ## Hundredths as numbers -/

theorem two_pow_lt_overflowPower {t : Nat} (ht : t ≤ 2 ^ 53) : t < overflowPower := by
  rw [overflowPower]
  apply Nat.lt_of_le_of_lt ht
  apply Nat.pow_lt_pow_right Nat.one_lt_two
  omega

theorem representable_natural {t : Nat} (ht : t ≤ 2 ^ 53) : Representable (t * unit) :=
  ⟨Nat.mul_lt_mul_of_pos_right (two_pow_lt_overflowPower ht) unit_pos, t, 1074, ht, rfl⟩

theorem ofNat_eq {t : Nat} (ht : t ≤ 2 ^ 53) :
    ofNat t = .finite false (t * unit) (representable_natural ht) :=
  ofRatio_exact (representable_natural ht) Nat.one_pos (Nat.mul_one _).symm

theorem lt_finite {u v : Nat} (hu : Representable u) (hv : Representable v) :
    (Double.finite false u hu).lt (.finite false v hv) = decide (u < v) := rfl

section
variable {h t : Nat}

theorem hundredths_le (ht : t ≤ 2 ^ 53) (hth : h ≤ 50 * t) : roundUnits h 100 ≤ t * halfUnit :=
  roundUnits_le_halves (by omega) ht (by omega)

theorem le_hundredths (ht : t ≤ 2 ^ 53) (hth : 50 * t ≤ h) : t * halfUnit ≤ roundUnits h 100 :=
  halves_le_roundUnits (by omega) ht (by omega)

theorem hundredths_lt_limit (hh : h ≤ 2 ^ 52) : roundUnits h 100 < limit := by
  apply Nat.lt_of_le_of_lt (hundredths_le (t := 2 * h) (by omega) (by omega))
  rw [← whole_eq_halves]
  exact (representable_natural (t := h) (by omega)).1

theorem ofRatio_hundredths (hh : h ≤ 2 ^ 52) : ∃ hw,
    ofRatio false h 100 = .finite false (roundUnits h 100) hw :=
  ⟨⟨hundredths_lt_limit hh, roundUnits_mantissa h 100⟩, dif_pos (hundredths_lt_limit hh)⟩

/-- No positive number of hundredths is anywhere near the subnormal range. -/
theorem not_underflows_hundredths (h : Nat) : underflows h 100 = false := by
  unfold underflows
  rcases Nat.eq_zero_or_pos h with rfl | hpos
  · rfl
  · have hunit : 1 * 2 ^ 60 * 100 ≤ h * unit := by
      have hlow : 2 ^ 67 ≤ unit := by
        rw [unit]
        apply Nat.pow_le_pow_right <;> omega
      have hmul := Nat.mul_le_mul hpos hlow
      omega
    have hlow := le_roundUnits (by omega) (by omega) hunit
    have hnot : ¬ roundUnits h 100 < minNormal := by
      rw [minNormal]
      omega
    simp only [hnot, decide_false, Bool.and_false, Bool.false_and]

section
variable (hh : h ≤ 2 ^ 52) (ht : t ≤ 2 ^ 52)
include hh ht

theorem hundredths_gt (hth : 100 * t + 50 ≤ h) : (ofRatio false h 100).gt (ofNat t) = true := by
  obtain ⟨hw, heq⟩ := ofRatio_hundredths hh
  have hlow := le_hundredths (t := 2 * t + 1) (h := h) (by omega) (by omega)
  have hpos := halfUnit_pos
  rw [Nat.add_mul, ← whole_eq_halves] at hlow
  rw [Double.gt, heq, ofNat_eq (by omega), lt_finite]
  exact decide_eq_true (by omega)

theorem hundredths_not_gt (hth : h ≤ 100 * t) : (ofRatio false h 100).gt (ofNat t) = false := by
  obtain ⟨hw, heq⟩ := ofRatio_hundredths hh
  have hhigh := hundredths_le (t := 2 * t) (h := h) (by omega) (by omega)
  rw [← whole_eq_halves] at hhigh
  rw [Double.gt, heq, ofNat_eq (by omega), lt_finite]
  exact decide_eq_false (Nat.not_lt.mpr hhigh)

theorem hundredths_lt_natural (hth : h + 50 ≤ 100 * t) :
    (ofRatio false h 100).lt (ofNat t) = true := by
  obtain ⟨hw, heq⟩ := ofRatio_hundredths hh
  have hhigh := hundredths_le (t := 2 * t - 1) (h := h) (by omega) (by omega)
  have hstep : (2 * t - 1) * halfUnit + halfUnit = t * unit := by
    rw [whole_eq_halves, ← Nat.succ_mul, Nat.succ_eq_add_one, Nat.sub_add_cancel (by omega)]
  have hpos := halfUnit_pos
  rw [heq, ofNat_eq (by omega), lt_finite]
  exact decide_eq_true (by omega)

theorem hundredths_not_lt_natural (hth : 100 * t ≤ h) :
    (ofRatio false h 100).lt (ofNat t) = false := by
  obtain ⟨hw, heq⟩ := ofRatio_hundredths hh
  have hlow := le_hundredths (t := 2 * t) (h := h) (by omega) (by omega)
  rw [← whole_eq_halves] at hlow
  rw [heq, ofNat_eq (by omega), lt_finite]
  exact decide_eq_false (Nat.not_lt.mpr hlow)

/-- Half a unit away from a whole number the comparison is that of the hundredths. -/
theorem hundredths_gt_iff (hth : 100 * t + 50 ≤ h ∨ h ≤ 100 * t) :
    (ofRatio false h 100).gt (ofNat t) = true ↔ 100 * t + 50 ≤ h := by
  rcases hth with hgt | hle
  · exact iff_of_true (hundredths_gt hh ht hgt) hgt
  · rw [hundredths_not_gt hh ht hle]
    exact iff_of_false Bool.false_ne_true (by omega)

theorem hundredths_lt_iff (hth : h + 50 ≤ 100 * t ∨ 100 * t ≤ h) :
    (ofRatio false h 100).lt (ofNat t) = true ↔ h + 50 ≤ 100 * t := by
  rcases hth with hlt | hge
  · exact iff_of_true (hundredths_lt_natural hh ht hlt) hlt
  · rw [hundredths_not_lt_natural hh ht hge]
    exact iff_of_false Bool.false_ne_true (by omega)

end

end

/-! ## Whole texts -/

theorem not_isLetter_of_lt {c : UInt8} (hc : c < 65) : isLetter c = false := by
  have hnot : ¬ 65 ≤ c := UInt8.not_le.mpr hc
  have hlow : ¬ 97 ≤ c := fun h => hnot (UInt8.le_trans (by decide) h)
  simp only [isLetter, lower, decide_eq_false hnot, Bool.false_and, Bool.false_eq_true, if_false,
    decide_eq_false hlow]

theorem isDigit_bounds {c : UInt8} (hc : isDigit c = true) : 48 ≤ c ∧ c ≤ 57 := by
  simpa only [isDigit, Bool.and_eq_true, decide_eq_true_eq] using hc

theorem isDigit_spec {c : UInt8} (hc : isDigit c = true) :
    isSpace c = false ∧ c ≠ 43 ∧ c ≠ 45 ∧ isLetter c = false := by
  obtain ⟨hlow, hhigh⟩ := isDigit_bounds hc
  have hne : ∀ d : UInt8, d < 48 → c ≠ d := by
    rintro d hd rfl
    exact absurd hlow (UInt8.not_le.mpr hd)
  have hcontrol : ¬ c ≤ 13 := fun h => absurd (UInt8.le_trans hlow h) (by decide)
  have hspace : (c == 32) = false := beq_eq_false_iff_ne.mpr (hne 32 (by decide))
  refine ⟨?_, hne 43 (by decide), hne 45 (by decide), ?_⟩
  · simp only [isSpace, hspace, decide_eq_false hcontrol, Bool.and_false, Bool.or_false]
  · exact not_isLetter_of_lt (UInt8.lt_of_le_of_lt hhigh (by decide))

theorem decimal_isDigit {n : Nat} {c : UInt8} (hc : c ∈ decimal n) : isDigit c = true := by
  rw [decimal_eq] at hc
  obtain ⟨d, hd, rfl⟩ := List.mem_map.mp hc
  exact isDigit_digitByte (decimalDigits_lt hd)

theorem decimal_eq_cons (n : Nat) : ∃ c cs, decimal n = c :: cs := by
  rw [decimal_eq]
  apply List.exists_cons_of_ne_nil
  exact fun h => decimalDigits_ne_nil n (List.map_eq_nil_iff.mp h)

theorem strtod_decimal {n : Nat} {tail : Bytes} (htail : ∀ c ∈ tail, isLetter c = false) :
    strtod (decimal n ++ tail) = takeNumber decimalRadix false (decimal n ++ tail) := by
  have hletters : ∀ c ∈ decimal n ++ tail, isLetter c = false := by
    intro c hc
    rcases List.mem_append.mp hc with hc | hc
    · exact (isDigit_spec (decimal_isDigit hc)).2.2.2
    · exact htail c hc
  obtain ⟨c, cs, hcons⟩ := decimal_eq_cons n
  have hdigit : isDigit c = true := decimal_isDigit (hcons ▸ List.mem_cons_self)
  obtain ⟨hspace, hplus, hminus, -⟩ := isDigit_spec hdigit
  rw [hcons, List.cons_append] at hletters ⊢
  exact strtod_eq_takeNumber hspace hplus hminus hletters

/-- Two decimals are read back exactly. -/
theorem strtod_hundredths {h : Nat} (hh : h ≤ 2 ^ 52) :
    strtod (decimal (h / 100) ++ [46, digitByte (h / 10 % 10), digitByte (h % 10)]) =
      some ⟨ofRatio false h 100, [], false⟩ := by
  rw [strtod_decimal, takeNumber_hundredths, not_underflows_hundredths,
    decide_eq_true (hundredths_lt_limit hh)]
  · rfl
  · intro c hc
    simp only [List.mem_cons, List.not_mem_nil, or_false] at hc
    rcases hc with rfl | rfl | rfl
    · exact not_isLetter_of_lt (by decide)
    · exact (isDigit_spec (isDigit_digitByte (Nat.mod_lt _ (by omega)))).2.2.2
    · exact (isDigit_spec (isDigit_digitByte (Nat.mod_lt _ (by omega)))).2.2.2

/-- After a whole number `strtod` stops at a foreign point. -/
theorem strtod_ended {n : Nat} {c : UInt8} {rest : Bytes} (hc : EndsNumber c)
    (hletters : ∀ b ∈ c :: rest, isLetter b = false) :
    ∃ conversion, strtod (decimal n ++ c :: rest) = some conversion ∧ conversion.rest ≠ [] := by
  obtain ⟨conversion, htake, hrest⟩ := @takeNumber_ended n rest false c hc
  refine ⟨conversion, (strtod_decimal hletters).trans htake, ?_⟩
  rw [hrest]
  exact List.cons_ne_nil c rest

/-! ## Bytes beyond ASCII -/

section
variable {c : UInt8} (hc : 128 ≤ c)
include hc

theorem lower_of_ge : lower c = c := by
  have hnot : ¬ c ≤ 90 := fun h => absurd (UInt8.le_trans hc h) (by decide)
  simp only [lower, decide_eq_false hnot, Bool.and_false, Bool.false_eq_true, if_false]

theorem ne_of_ge {d : UInt8} (hd : d < 128) : c ≠ d := by
  rintro rfl
  exact absurd hc (UInt8.not_le.mpr hd)

theorem not_isLetter_of_ge : isLetter c = false := by
  have hnot : ¬ c ≤ 122 := fun h => absurd (UInt8.le_trans hc h) (by decide)
  simp only [isLetter, lower_of_ge hc, decide_eq_false hnot, Bool.and_false]

theorem endsNumber_of_ge : EndsNumber c where
  digit := by
    have hnot : ¬ c ≤ 57 := fun h => absurd (UInt8.le_trans hc h) (by decide)
    simp only [decimalDigit, isDigit, decide_eq_false hnot, Bool.and_false, Bool.false_eq_true,
      if_false]
  point := ne_of_ge hc (by decide)
  exponent := by
    rw [lower_of_ge hc]
    exact ne_of_ge hc (by decide)

/-- A number cannot start with a byte beyond ASCII. -/
theorem strtod_eq_none {cs : Bytes} (hletters : ∀ b ∈ cs, isLetter b = false) :
    strtod (c :: cs) = none := by
  have hcontrol : ¬ c ≤ 13 := fun h => absurd (UInt8.le_trans hc h) (by decide)
  have hspace : isSpace c = false := by
    simp only [isSpace, beq_eq_false_iff_ne.mpr (ne_of_ge hc (show 32 < 128 by decide)),
      decide_eq_false hcontrol, Bool.and_false, Bool.or_self]
  have hall : ∀ b ∈ c :: cs, isLetter b = false := by
    intro b hb
    rcases List.mem_cons.mp hb with rfl | hb
    · exact not_isLetter_of_ge hc
    · exact hletters b hb
  have hends := endsNumber_of_ge hc
  rw [strtod_eq_takeNumber hspace (ne_of_ge hc (by decide)) (ne_of_ge hc (by decide)) hall]
  exact takeNumber_eq_none hends.digit hends.point

end

end IotMonitoring.Binary64
