import IotMonitoring.Shared.ByteStrings

/-!
# Searching byte strings

`strstr` and `strchr`, and what they find in texts put together from parts. An
HTTP message is a list of lines, a blank line and a body; as long as no line is
blank, the first blank line is the one before the body.
-/

namespace IotMonitoring.ByteStrings

set_option autoImplicit false

/-- The text from the first occurrence of `needle` on. -/
def strstr : Bytes → Bytes → Option Bytes
  | [], needle => if needle = [] then some [] else none
  | c :: cs, needle => if needle.isPrefixOf (c :: cs) then some (c :: cs) else strstr cs needle

/-- The text from the first byte `c` on, for a nonzero `c`. -/
def strchr (s : Bytes) (c : UInt8) : Option Bytes :=
  match s.dropWhile (· != c) with
  | [] => none
  | t => some t

/-- What is left of a string once its first byte `c`, if there is one, is overwritten by the
terminator. -/
def cutAt (s : Bytes) (c : UInt8) : Bytes := s.takeWhile (· != c)

section
variable {c n : UInt8} {cs ns s : Bytes}

theorem notMem_cutAt (s : Bytes) (c : UInt8) : c ∉ cutAt s c := by
  intro h
  have hne := List.mem_takeWhile_imp h
  rw [bne_self_eq_false] at hne
  cases hne

theorem cutAt_sublist (s : Bytes) (c : UInt8) : cutAt s c ⊆ s := (List.takeWhile_sublist _).subset

theorem cutAt_of_notMem (h : c ∉ s) : cutAt s c = s := by
  apply List.takeWhile_eq_self_iff.mpr
  intro d hd
  exact bne_iff_ne.mpr fun heq => h (heq ▸ hd)

theorem cutAt_append (h : c ∉ s) (t : Bytes) : cutAt (s ++ c :: t) c = s := by
  rw [cutAt, List.takeWhile_append_of_pos]
  · rw [List.takeWhile_cons, bne_self_eq_false, if_neg Bool.false_ne_true, List.append_nil]
  · intro d hd
    exact bne_iff_ne.mpr fun heq => h (heq ▸ hd)

theorem cutAt_take (s : Bytes) (c : UInt8) (k : Nat) : cutAt (s.take k) c = (cutAt s c).take k := by
  induction s generalizing k with
  | nil => simp only [List.take_nil, cutAt, List.takeWhile_nil]
  | cons d s ih =>
    cases k with
    | zero => simp only [List.take_zero, cutAt, List.takeWhile_nil]
    | succ k =>
      simp only [cutAt, List.take_succ_cons, List.takeWhile_cons] at ih ⊢
      split
      · rw [ih, List.take_succ_cons]
      · rw [List.take_nil]

/-- What a search returns is the end of the text. -/
theorem strstr_suffix {needle t : Bytes} (h : strstr s needle = some t) : t <:+ s := by
  induction s with
  | nil =>
    rw [strstr] at h
    split at h
    · cases h
      exact List.suffix_refl []
    · cases h
  | cons c cs ih =>
    rw [strstr] at h
    split at h
    · cases h
      exact List.suffix_refl _
    · exact (ih h).trans (List.suffix_cons c cs)

/-- A search finds the first occurrence. -/
theorem strstr_longest {needle t b : Bytes} (h : strstr s needle = some t) (hb : b <:+ s)
    (hneedle : needle <+: b) : b.length ≤ t.length := by
  induction s with
  | nil =>
    rw [List.suffix_nil.mp hb]
    exact Nat.zero_le _
  | cons c cs ih =>
    rw [strstr] at h
    split at h
    · cases h
      exact hb.length_le
    · rename_i hstart
      rcases List.suffix_cons_iff.mp hb with rfl | hb
      · exact absurd (List.isPrefixOf_iff_prefix.mpr hneedle) hstart
      · exact ih h hb

theorem strchr_suffix {t : Bytes} (h : strchr s c = some t) : t <:+ s := by
  rw [strchr] at h
  split at h
  · cases h
  · cases h
    exact List.dropWhile_suffix _

theorem strstr_self_append (needle s : Bytes) : strstr (needle ++ s) needle = some (needle ++ s) := by
  have hstarts : needle.isPrefixOf (needle ++ s) = true :=
    List.isPrefixOf_iff_prefix.mpr (List.prefix_append needle s)
  cases h : needle ++ s with
  | nil => rw [strstr, if_pos (List.append_eq_nil_iff.mp h).1]
  | cons c cs => rw [strstr, ← h, if_pos hstarts]

theorem strstr_cons (hne : (n :: ns).isPrefixOf (c :: cs) = false) :
    strstr (c :: cs) (n :: ns) = strstr cs (n :: ns) := by
  rw [strstr, hne, if_neg Bool.false_ne_true]

theorem strstr_skip {a : Bytes} (ha : ∀ c ∈ a, c ≠ n) :
    strstr (a ++ s) (n :: ns) = strstr s (n :: ns) := by
  induction a with
  | nil => rfl
  | cons c cs ih =>
    have hne : n ≠ c := (ha c List.mem_cons_self).symm
    rw [List.cons_append, strstr_cons, ih fun d hd => ha d (List.mem_cons_of_mem c hd)]
    rw [List.isPrefixOf, beq_eq_false_iff_ne.mpr hne, Bool.false_and]

theorem strchr_append {a : Bytes} (ha : ∀ d ∈ a, d ≠ c) : strchr (a ++ c :: s) c = some (c :: s) := by
  have hskip : ∀ d ∈ a, (d != c) = true := fun d hd => bne_iff_ne.mpr (ha d hd)
  have hstop : (c :: s).dropWhile (· != c) = c :: s := by
    rw [List.dropWhile_cons, bne_self_eq_false, if_neg Bool.false_ne_true]
  rw [strchr, List.dropWhile_append_of_pos hskip, hstop]

end

/-- `strncat(dest, src, size - strlen(dest) - 1)`: what fits into a `char[size]`. -/
def strncat (size : Nat) (dest src : Bytes) : Bytes := dest ++ src.take (size - dest.length - 1)

theorem strncat_of_fits {size : Nat} {dest src : Bytes} (h : dest.length + src.length < size) :
    strncat size dest src = dest ++ src := by
  rw [strncat, List.take_of_length_le (by omega)]

/-! ## Texts in which a search finds nothing -/

/-- No occurrence of a needle that begins with `start` begins in `text`, whatever follows. -/
def Skipped (start text : Bytes) : Prop :=
  ∀ rest more, strstr (text ++ rest) (start ++ more) = strstr rest (start ++ more)

/-- At every position `text` and `start` differ before either of them ends. -/
def differs (start : Bytes) : Bytes → Bool
  | [] => true
  | c :: cs => (! start.isPrefixOf (c :: cs)) && (! (c :: cs).isPrefixOf start) && differs start cs

section
variable {start a b : Bytes}

theorem skipped_nil (start : Bytes) : Skipped start [] := fun _ _ => rfl

theorem Skipped.append (ha : Skipped start a) (hb : Skipped start b) : Skipped start (a ++ b) := by
  intro rest more
  rw [List.append_assoc, ha, hb]

theorem skipped_of_differs (h : differs start a = true) : Skipped start a := by
  induction a with
  | nil => exact skipped_nil start
  | cons c cs ih =>
    rw [differs, Bool.and_eq_true, Bool.and_eq_true, Bool.not_eq_true', Bool.not_eq_true'] at h
    obtain ⟨⟨hneedle, htext⟩, hrest⟩ := h
    intro rest more
    have hnot : (start ++ more).isPrefixOf (c :: (cs ++ rest)) = false := by
      apply Bool.eq_false_iff.mpr
      intro hp
      have hstart : start <+: c :: cs ++ rest :=
        (List.prefix_append start more).trans (List.isPrefixOf_iff_prefix.mp hp)
      rcases List.prefix_or_prefix_of_prefix hstart (List.prefix_append (c :: cs) rest) with h | h
      · rw [List.isPrefixOf_iff_prefix.mpr h] at hneedle
        cases hneedle
      · rw [List.isPrefixOf_iff_prefix.mpr h] at htext
        cases htext
    rw [List.cons_append, strstr, hnot, if_neg Bool.false_ne_true]
    exact ih hrest rest more

/-- Nothing that begins with a byte begins in a text without it. -/
theorem skipped_of_notMem {c : UInt8} {more : Bytes} (h : c ∉ a) : Skipped (c :: more) a := by
  apply skipped_of_differs
  induction a with
  | nil => rfl
  | cons d a ih =>
    have hne : c ≠ d := fun heq => h (heq ▸ List.mem_cons_self)
    rw [differs, ih fun hc => h (List.mem_cons_of_mem d hc), List.isPrefixOf, List.isPrefixOf,
      beq_eq_false_iff_ne.mpr hne, beq_eq_false_iff_ne.mpr hne.symm]
    rfl

/-- Behind a text that is skipped, the needle is found where it begins. -/
theorem strstr_of_skipped (ha : Skipped start a) (more rest : Bytes) :
    strstr (a ++ (start ++ more ++ rest)) (start ++ more) = some (start ++ more ++ rest) := by
  rw [ha, strstr_self_append]

end

/-! ## Separated texts -/

section
variable {c : UInt8} {a needle : Bytes}

/-- A text is one piece, or a piece and a text behind the first separator. -/
theorem separated_induction (c : UInt8) {motive : Bytes → Prop}
    (last : ∀ a, c ∉ a → motive a) (more : ∀ a s, c ∉ a → motive s → motive (a ++ c :: s))
    (s : Bytes) : motive s := by
  have hpieces : ∀ n, ∀ s : Bytes, s.length < n → motive s := by
    intro n
    induction n with
    | zero => exact fun s h => absurd h (Nat.not_lt_zero _)
    | succ n ih =>
      intro s hs
      by_cases hc : c ∈ s
      · obtain ⟨a, rest, rfl, ha⟩ := List.eq_append_cons_of_mem hc
        apply more a rest ha
        apply ih
        rw [List.length_append, List.length_cons] at hs
        omega
      · exact last s hc
  exact hpieces (s.length + 1) s (Nat.lt_succ_self _)

theorem isPrefixOf_separator (hc : c ∉ needle) (a s : Bytes) :
    needle.isPrefixOf (a ++ c :: s) = needle.isPrefixOf a := by
  apply Bool.eq_iff_iff.mpr
  rw [List.isPrefixOf_iff_prefix, List.isPrefixOf_iff_prefix]
  constructor
  · intro h
    rcases List.prefix_or_prefix_of_prefix h (List.prefix_append a (c :: s)) with h' | h'
    · exact h'
    · obtain ⟨t, rfl⟩ := h'
      rw [List.prefix_append_right_inj] at h
      cases t with
      | nil => exact ⟨[], by rw [List.append_nil, List.append_nil]⟩
      | cons d t =>
        cases (List.cons_prefix_cons.mp h).1
        exact absurd (List.mem_append_right a List.mem_cons_self) hc
  · exact fun h => h.trans (List.prefix_append a (c :: s))

/-- A needle without the separator is found in the first piece that holds it. -/
theorem strstr_separator (hne : needle ≠ []) (hc : c ∉ needle) (a s : Bytes) :
    strstr (a ++ c :: s) needle =
      ((strstr a needle).map (· ++ c :: s)).or (strstr s needle) := by
  induction a with
  | nil =>
    have hstarts := isPrefixOf_separator hc [] s
    have hnil : needle.isPrefixOf [] = false := by
      apply Bool.eq_false_iff.mpr
      intro h
      exact hne (List.prefix_nil.mp (List.isPrefixOf_iff_prefix.mp h))
    rw [List.nil_append, hnil] at hstarts
    have hskip : strstr (c :: s) needle = strstr s needle := by
      rw [strstr, hstarts, if_neg Bool.false_ne_true]
    have hempty : strstr [] needle = none := by rw [strstr, if_neg hne]
    rw [List.nil_append, hskip, hempty]
    rfl
  | cons d a ih =>
    have hstarts := isPrefixOf_separator hc (d :: a) s
    rw [List.cons_append] at hstarts
    rw [List.cons_append, strstr, hstarts, strstr]
    split
    · rfl
    · exact ih

end

/-! ## Lines and the blank line after them -/

def crlf : Bytes := [13, 10]

/-- Lines, each with its end. -/
def endedLines : List Bytes → Bytes
  | [] => []
  | l :: ls => l ++ (crlf ++ endedLines ls)

/-- A line of a message head: not blank, without line ends and zero bytes. -/
structure HeadLine (l : Bytes) : Prop where
  nonempty : l ≠ []
  clean : ∀ c ∈ l, c ∉ [(0 : UInt8), 10, 13]

theorem HeadLine.noReturn {l : Bytes} (h : HeadLine l) : ∀ c ∈ l, c ≠ 13 := by
  rintro c hc rfl
  exact h.clean 13 hc (by decide)

theorem zero_notMem_endedLines {ls : List Bytes} (hls : ∀ l ∈ ls, HeadLine l) :
    (0 : UInt8) ∉ endedLines ls := by
  induction ls with
  | nil => exact List.not_mem_nil
  | cons l ls ih =>
    intro hz
    rcases List.mem_append.mp hz with hz | hz
    · exact (hls l List.mem_cons_self).clean 0 hz (by decide)
    rcases List.mem_append.mp hz with hz | hz
    · exact absurd hz (by decide)
    · exact ih (fun m hm => hls m (List.mem_cons_of_mem l hm)) hz

/-- The first blank line is the one after the head. -/
theorem strstr_blankLine {l : Bytes} {ls : List Bytes} (hls : ∀ m ∈ l :: ls, HeadLine m)
    (body : Bytes) : strstr (endedLines (l :: ls) ++ (crlf ++ body)) (crlf ++ crlf) =
      some (crlf ++ crlf ++ body) := by
  induction ls generalizing l with
  | nil =>
    have hl := (hls l List.mem_cons_self).noReturn
    change strstr (l ++ (crlf ++ []) ++ (crlf ++ body)) (13 :: [10, 13, 10]) = _
    rw [List.append_assoc, strstr_skip hl]
    exact strstr_self_append (crlf ++ crlf) body
  | cons m ls ih =>
    have hl := (hls l List.mem_cons_self).noReturn
    have hm := hls m (List.mem_cons_of_mem l List.mem_cons_self)
    have hrest := ih fun x hx => hls x (List.mem_cons_of_mem l hx)
    obtain ⟨c, cs, hcons⟩ := List.exists_cons_of_ne_nil hm.nonempty
    have hc : c ≠ 13 := hm.noReturn c (hcons ▸ List.mem_cons_self)
    rw [endedLines, List.append_assoc, List.append_assoc]
    change strstr (l ++ (13 :: 10 :: (endedLines (m :: ls) ++ (crlf ++ body)))) (13 :: [10, 13, 10]) = _
    rw [strstr_skip hl, strstr_cons, strstr_cons]
    · exact hrest
    · rfl
    · rw [endedLines, hcons, List.cons_append, List.cons_append]
      simp only [List.isPrefixOf, beq_self_eq_true, Bool.true_and,
        beq_eq_false_iff_ne.mpr hc.symm, Bool.false_and]

end IotMonitoring.ByteStrings
