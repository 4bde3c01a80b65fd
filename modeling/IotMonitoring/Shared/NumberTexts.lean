import IotMonitoring.Shared.Binary64

/-!
# Which texts spell which numbers

What `strtod` reads, told from the text alone: `SpellsNan` is the grammar of a
NaN, and every other accepted text is read as a number or as an infinity.
-/

namespace IotMonitoring.Binary64

open ByteStrings
set_option autoImplicit false

namespace Double

def IsNan (d : Double) : Prop := ∃ negative, d = .nan negative

theorem isNan_nan (negative : Bool) : (nan negative).IsNan := ⟨negative, rfl⟩

theorem not_isNan_infinite (negative : Bool) : ¬ (infinite negative).IsNan := by
  rintro ⟨_, h⟩
  cases h

theorem not_isNan_finite {negative : Bool} {u : Nat} {h : Representable u} :
    ¬ (finite negative u h).IsNan := by
  rintro ⟨_, h⟩
  cases h

/-- IEEE `≤`; false as soon as one side is a NaN. -/
def le : Double → Double → Bool
  | nan _, _ => false
  | _, nan _ => false
  | infinite true, _ => true
  | _, infinite true => false
  | _, infinite false => true
  | infinite false, _ => false
  | finite false u _, finite false v _ => u ≤ v
  | finite true u _, finite true v _ => v ≤ u
  | finite true _ _, finite false _ _ => true
  | finite false u _, finite true v _ => u == 0 && v == 0

/-- Two numbers are comparable; a NaN is comparable to nothing. -/
theorem le_iff_not_lt {a b : Double} (ha : ¬ a.IsNan) (hb : ¬ b.IsNan) :
    a.le b = true ↔ b.lt a = false := by
  cases a with
  | nan s => exact absurd (isNan_nan s) ha
  | infinite s =>
    cases b with
    | nan t => exact absurd (isNan_nan t) hb
    | infinite t => cases s <;> cases t <;> simp [le, lt]
    | finite t v _ => cases s <;> simp [le, lt]
  | finite s u _ =>
    cases b with
    | nan t => exact absurd (isNan_nan t) hb
    | infinite t => cases t <;> simp [le, lt]
    | finite t v _ => cases s <;> cases t <;> simp [le, lt, and_comm]

theorem not_isNan_of_le {a b : Double} (h : a.le b = true) : ¬ a.IsNan ∧ ¬ b.IsNan := by
  cases a with
  | nan _ => cases h
  | infinite s =>
    refine ⟨not_isNan_infinite s, ?_⟩
    rintro ⟨t, rfl⟩
    cases s <;> cases h
  | finite s u _ =>
    refine ⟨not_isNan_finite, ?_⟩
    rintro ⟨t, rfl⟩
    cases s <;> cases h

end Double

theorem ofRatio_not_isNan (negative : Bool) (num den : Nat) : ¬ (ofRatio negative num den).IsNan := by
  unfold ofRatio
  split
  · exact Double.not_isNan_finite
  · exact Double.not_isNan_infinite negative

/-! ## The grammar of a NaN -/

/-- A character of an `n-char-sequence`. -/
def isNanChar (c : UInt8) : Bool := isDigit c || (97 ≤ lower c && lower c ≤ 122) || c == 95

/-- Blanks, an optional sign, `nan` in any case, and an optional parenthesised sequence. -/
def SpellsNan (s : Bytes) : Prop :=
  ∃ blanks sign word sequence, s = blanks ++ (sign ++ (word ++ sequence)) ∧
    (∀ c ∈ blanks, isSpace c = true) ∧ sign ∈ [[], ascii "-", ascii "+"] ∧
    word.map lower = ascii "nan" ∧
    (sequence = [] ∨ ∃ body, sequence = 40 :: (body ++ [41]) ∧ ∀ c ∈ body, isNanChar c = true)

theorem takeWord_eq_some_iff {word s rest : Bytes} :
    takeWord word s = some rest ↔ ∃ w, s = w ++ rest ∧ w.map lower = word := by
  unfold takeWord
  constructor
  · intro h
    split at h
    · rename_i hw
      cases h
      exact ⟨_, (List.take_append_drop _ _).symm, hw⟩
    · cases h
  · rintro ⟨w, rfl, rfl⟩
    simp only [List.length_map, List.take_left', List.drop_left', if_true]

/-- A text does not start with two words whose first letters differ. -/
theorem takeWord_foreign {c d : UInt8} {cs ds s rest : Bytes} (hne : c ≠ d)
    (h : takeWord (c :: cs) s = some rest) : takeWord (d :: ds) s = none := by
  rw [Option.eq_none_iff_forall_ne_some]
  intro rest' h'
  obtain ⟨w, hs, hw⟩ := takeWord_eq_some_iff.mp h
  obtain ⟨w', hs', hw'⟩ := takeWord_eq_some_iff.mp h'
  obtain ⟨x, xs, rfl, hx, -⟩ := List.map_eq_cons_iff.mp hw
  obtain ⟨y, ys, rfl, hy, -⟩ := List.map_eq_cons_iff.mp hw'
  have hsame : x = y := (List.cons.inj (hs.symm.trans hs')).1
  rw [hsame] at hx
  exact hne (hx.symm.trans hy)

theorem takeSign_spec (s : Bytes) : ∃ sign ∈ [[], ascii "-", ascii "+"], s = sign ++ (takeSign s).2 := by
  unfold takeSign
  split
  · exact ⟨ascii "-", by simp, rfl⟩
  · exact ⟨ascii "+", by simp, rfl⟩
  · exact ⟨[], by simp, rfl⟩

/-- Blanks and a sign before a text that starts with neither are taken off. -/
theorem takeSign_dropWhile {blanks sign s : Bytes} {c : UInt8}
    (hblanks : ∀ c ∈ blanks, isSpace c = true) (hsign : sign ∈ [[], ascii "-", ascii "+"])
    (hspace : isSpace c = false) (hplus : c ≠ 43) (hminus : c ≠ 45) :
    (takeSign ((blanks ++ (sign ++ c :: s)).dropWhile isSpace)).2 = c :: s := by
  rw [List.dropWhile_append_of_pos hblanks]
  have hsigns : ∀ d ∈ [(45 : UInt8), 43], isSpace d = false := by decide
  have hbare : takeSign (c :: s) = (false, c :: s) := by
    unfold takeSign
    split
    · rename_i heq
      exact absurd (List.cons.inj heq).1 hminus
    · rename_i heq
      exact absurd (List.cons.inj heq).1 hplus
    · rfl
  simp only [List.mem_cons, List.not_mem_nil, or_false] at hsign
  rcases hsign with rfl | rfl | rfl
  · rw [List.nil_append, List.dropWhile_cons, hspace]
    simp only [Bool.false_eq_true, if_false, hbare]
  · have hspace' : isSpace 45 = false := hsigns 45 (by simp)
    change (takeSign (List.dropWhile isSpace (45 :: c :: s))).2 = _
    rw [List.dropWhile_cons, hspace']
    rfl
  · have hspace' : isSpace 43 = false := hsigns 43 (by simp)
    change (takeSign (List.dropWhile isSpace (43 :: c :: s))).2 = _
    rw [List.dropWhile_cons, hspace']
    rfl

theorem takeNanSequence_eq_nil_iff {s : Bytes} : takeNanSequence s = [] ↔
    s = [] ∨ ∃ body, s = 40 :: (body ++ [41]) ∧ ∀ c ∈ body, isNanChar c = true := by
  have hchars : (fun c : UInt8 => isDigit c || (97 ≤ lower c && lower c ≤ 122) || c == 95) =
      isNanChar := rfl
  have hclose : isNanChar 41 = false := by decide
  constructor
  · intro h
    unfold takeNanSequence at h
    split at h
    · rename_i cs
      rw [hchars] at h
      split at h
      · rename_i rest hrest
        subst h
        refine Or.inr ⟨cs.takeWhile isNanChar, ?_, fun c hc => List.mem_takeWhile_imp hc⟩
        rw [← hrest, List.takeWhile_append_dropWhile]
      · cases h
    · exact Or.inl h
  · rintro (rfl | ⟨body, rfl, hbody⟩)
    · rfl
    · simp only [takeNanSequence, hchars]
      rw [List.dropWhile_append_of_pos hbody, List.dropWhile_cons, hclose]
      rfl

theorem takeNumber_value {r : Radix} {negative : Bool} {s : Bytes} {c : Conversion}
    (h : takeNumber r negative s = some c) : ∃ num den, c.value = ofRatio negative num den := by
  unfold takeNumber at h
  split at h
  · cases h
  · rename_i mantissa fraction s₁ _
    simp only [Option.some.injEq] at h
    refine ⟨mantissa * r.exponentBase ^ (takeExponent r s₁).1.toNat,
      r.base ^ fraction * r.exponentBase ^ (-(takeExponent r s₁).1).toNat, ?_⟩
    rw [← h]

/-- The number forms never give a NaN. -/
theorem takeNumber_not_isNan {r : Radix} {negative : Bool} {s : Bytes} {c : Conversion}
    (h : takeNumber r negative s = some c) : ¬ c.value.IsNan := by
  obtain ⟨num, den, hvalue⟩ := takeNumber_value h
  rw [hvalue]
  exact ofRatio_not_isNan negative num den

/-- A conversion is a NaN exactly when `nan` stands after the blanks and the sign. -/
theorem strtod_nan_iff {s : Bytes} {c : Conversion} (h : strtod s = some c) :
    c.value.IsNan ↔ ∃ rest, takeWord (ascii "nan") (takeSign (s.dropWhile isSpace)).2 = some rest ∧
      c.rest = takeNanSequence rest := by
  have hi : ∀ {word rest : Bytes}, takeWord (105 :: word) (takeSign (s.dropWhile isSpace)).2 =
      some rest → takeWord (ascii "nan") (takeSign (s.dropWhile isSpace)).2 = none := by
    intro word rest htake
    exact @takeWord_foreign 105 110 word (ascii "an") _ rest (by decide) htake
  unfold strtod at h
  simp only at h
  split at h
  · rename_i rest htake
    cases h
    refine ⟨fun hnan => absurd hnan (Double.not_isNan_infinite _), ?_⟩
    rintro ⟨rest', htake', -⟩
    rw [@hi (ascii "nfinity") rest htake] at htake'
    cases htake'
  split at h
  · rename_i rest htake
    cases h
    refine ⟨fun hnan => absurd hnan (Double.not_isNan_infinite _), ?_⟩
    rintro ⟨rest', htake', -⟩
    rw [@hi (ascii "nf") rest htake] at htake'
    cases htake'
  split at h
  · rename_i rest htake
    cases h
    exact ⟨fun _ => ⟨rest, htake, rfl⟩, fun _ => Double.isNan_nan _⟩
  · rename_i htake
    have hnum : ¬ c.value.IsNan := by
      split at h
      · split at h
        · rename_i hnumber
          cases h
          exact takeNumber_not_isNan hnumber
        · exact takeNumber_not_isNan h
      · exact takeNumber_not_isNan h
    refine ⟨fun hnan => absurd hnan hnum, ?_⟩
    rintro ⟨rest', htake', -⟩
    rw [htake] at htake'
    cases htake'

theorem eq_of_lower_n {c : UInt8} (h : lower c = 110) : c = 78 ∨ c = 110 := by
  unfold lower at h
  split at h
  · have hupper : c + 32 = 78 + 32 := h
    exact Or.inl ((UInt8.add_left_inj 32).mp hupper)
  · exact Or.inr h

/-- A text read to its end is read as a NaN exactly when it spells one. -/
theorem spellsNan_iff {s : Bytes} {c : Conversion} (h : strtod s = some c) (hrest : c.rest = []) :
    c.value.IsNan ↔ SpellsNan s := by
  rw [strtod_nan_iff h]
  constructor
  · rintro ⟨rest, htake, hsequence⟩
    obtain ⟨word, hs, hword⟩ := takeWord_eq_some_iff.mp htake
    obtain ⟨sign, hsign, hsigned⟩ := takeSign_spec (s.dropWhile isSpace)
    refine ⟨s.takeWhile isSpace, sign, word, rest, ?_, fun c hc => List.mem_takeWhile_imp hc, hsign,
      hword, takeNanSequence_eq_nil_iff.mp (hsequence.symm.trans hrest)⟩
    rw [← hs, ← hsigned, List.takeWhile_append_dropWhile]
  · rintro ⟨blanks, sign, word, sequence, rfl, hblanks, hsign, hword, hsequence⟩
    have hnan : ascii "nan" = 110 :: ascii "an" := by decide
    obtain ⟨x, xs, hx, hlower, -⟩ := List.map_eq_cons_iff.mp (hword.trans hnan)
    have hletters : ∀ c ∈ [(78 : UInt8), 110], isSpace c = false ∧ c ≠ 43 ∧ c ≠ 45 := by decide
    obtain ⟨hspace, hplus, hminus⟩ := hletters x (by simpa using eq_of_lower_n hlower)
    have htake : takeWord (ascii "nan")
        (takeSign ((blanks ++ (sign ++ (word ++ sequence))).dropWhile isSpace)).2 = some sequence := by
      rw [hx, List.cons_append, takeSign_dropWhile hblanks hsign hspace hplus hminus,
        ← List.cons_append, ← hx]
      exact takeWord_eq_some_iff.mpr ⟨word, rfl, hword⟩
    exact ⟨sequence, htake, hrest.trans (takeNanSequence_eq_nil_iff.mpr hsequence).symm⟩

end IotMonitoring.Binary64
