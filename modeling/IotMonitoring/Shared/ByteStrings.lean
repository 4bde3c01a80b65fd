import Mathlib.Algebra.GroupWithZero.Nat
import Mathlib.Data.List.Basic
import Mathlib.Data.List.TakeWhile
import Mathlib.Tactic.Common

/-!
# C strings and fixed buffers

A C string is a byte list without zero bytes; the terminator is not stored.
A `Buffer n` is an array `char[n]` together with the fact that its text is
terminated inside it, so an over-long or unterminated text cannot be built.
`strtok` and `tokens` follow the standard library's re-entrant tokenizer.
-/

namespace IotMonitoring.ByteStrings

set_option autoImplicit false

abbrev Bytes := List UInt8

/-- A property of all bytes of a text is decided byte by byte, and not over all 256 bytes. -/
instance decidableAll {p : UInt8 → Prop} [DecidablePred p] (b : Bytes) :
    Decidable (∀ c ∈ b, p c) := List.decidableBAll p b

/-- The bytes of an ASCII literal. -/
def ascii (s : String) : Bytes := s.toList.map fun c => c.toNat.toUInt8

/-- What the string functions see of a byte array: everything before the first zero byte. -/
def cString (b : Bytes) : Bytes := b.takeWhile (· != 0)

theorem zero_notMem_cString (b : Bytes) : (0 : UInt8) ∉ cString b := by
  intro h
  have := List.mem_takeWhile_imp h
  simp at this

theorem cString_eq_self {b : Bytes} (h : (0 : UInt8) ∉ b) : cString b = b := by
  apply List.takeWhile_eq_self_iff.mpr
  intro c hc
  have hne : c ≠ 0 := by
    rintro rfl
    exact h hc
  simpa using hne

/-- A `char[n]` holding a terminated string. -/
@[ext] structure Buffer (n : Nat) where
  text : Bytes
  length_lt : text.length < n
  zero_notMem : (0 : UInt8) ∉ text
deriving DecidableEq

namespace Buffer
variable {n : Nat}

/-- Bounded copy of a string: at most `n - 1` bytes, always terminated. -/
def copy [NeZero n] (src : Bytes) : Buffer n where
  text := (cString src).take (n - 1)
  length_lt := by
    have := Nat.pos_of_neZero n
    rw [List.length_take]
    omega
  zero_notMem := fun h => zero_notMem_cString src (List.mem_of_mem_take h)

theorem copy_text [NeZero n] (src : Bytes) :
    (copy src : Buffer n).text = (cString src).take (n - 1) := rfl

theorem copy_text_of_fits [NeZero n] {src : Bytes} (h : src.length < n)
    (hz : (0 : UInt8) ∉ src) : (copy src : Buffer n).text = src := by
  rw [copy_text, cString_eq_self hz]
  exact List.take_of_length_le (by omega)

@[simp] theorem copy_buffer [NeZero n] (b : Buffer n) : (copy b.text : Buffer n) = b :=
  Buffer.ext (copy_text_of_fits b.length_lt b.zero_notMem)

/-- The all-zero array. -/
def zero [NeZero n] : Buffer n := ⟨[], by simpa using Nat.pos_of_neZero n, by simp⟩

end Buffer

/-- Formatted output into a `char[size]`: the text is cut to the room before the terminator. -/
def snprintf (size : Nat) (text : Bytes) : Bytes := text.take (size - 1)

theorem snprintf_of_fits {size : Nat} {text : Bytes} (h : text.length < size) :
    snprintf size text = text := List.take_of_length_le (by omega)

/-! ## Tokens -/

/-- One call of the re-entrant tokenizer: skip delimiters, return the word up
to the next delimiter and the text after that delimiter. -/
def strtok (delim : UInt8 → Bool) (s : Bytes) : Option (Bytes × Bytes) :=
  match s.dropWhile delim with
  | [] => none
  | c :: cs => some ((c :: cs).takeWhile (! delim ·), ((c :: cs).dropWhile (! delim ·)).drop 1)

/-- The first `limit` words of a text. -/
def tokens (delim : UInt8 → Bool) : Nat → Bytes → List Bytes
  | 0, _ => []
  | limit + 1, s =>
    match strtok delim s with
    | none => []
    | some (word, rest) => word :: tokens delim limit rest

section Tokens
variable {delim : UInt8 → Bool}

/-- A nonempty text without delimiters. -/
structure IsWord (delim : UInt8 → Bool) (w : Bytes) : Prop where
  nonempty : w ≠ []
  clean : ∀ c ∈ w, delim c = false

instance (delim : UInt8 → Bool) (w : Bytes) : Decidable (IsWord delim w) :=
  have := List.decidableBAll (fun c => delim c = false) w
  decidable_of_iff (w ≠ [] ∧ ∀ c ∈ w, delim c = false)
    ⟨fun h => ⟨h.1, h.2⟩, fun h => ⟨h.nonempty, h.clean⟩⟩

theorem strtok_delim {c : UInt8} (hc : delim c = true) (s : Bytes) :
    strtok delim (c :: s) = strtok delim s := by
  simp only [strtok, List.dropWhile_cons, hc, if_true]

theorem strtok_word {w : Bytes} (hw : IsWord delim w) (rest : Bytes)
    (hrest : ∀ c ∈ rest.head?, delim c = true) :
    strtok delim (w ++ rest) = some (w, rest.drop 1) := by
  obtain ⟨c, cs, rfl⟩ := List.exists_cons_of_ne_nil hw.nonempty
  have hc : delim c = false := hw.clean c List.mem_cons_self
  have hall : ∀ x ∈ c :: cs, (! delim x) = true := fun x hx => by simp [hw.clean x hx]
  have hdrop : ((c :: cs) ++ rest).dropWhile delim = c :: (cs ++ rest) := by
    simp only [List.cons_append, List.dropWhile_cons, hc]
    rfl
  have htake : rest.takeWhile (! delim ·) = [] := by
    cases rest with
    | nil => rfl
    | cons r rs => simp [hrest r (by simp)]
  have hskip : rest.dropWhile (! delim ·) = rest := by
    cases rest with
    | nil => rfl
    | cons r rs => simp [hrest r (by simp)]
  simp only [strtok, hdrop]
  rw [← List.cons_append, List.takeWhile_append_of_pos hall, List.dropWhile_append_of_pos hall,
    htake, hskip, List.append_nil]

theorem tokens_nil (limit : Nat) : tokens delim limit [] = [] := by
  cases limit <;> rfl

theorem tokens_word_end {w : Bytes} (hw : IsWord delim w) (limit : Nat) :
    tokens delim (limit + 1) w = [w] := by
  have h := strtok_word hw [] (by simp)
  rw [List.append_nil] at h
  simp only [tokens, h, List.drop_nil, tokens_nil]

theorem tokens_word {w : Bytes} (hw : IsWord delim w) {d : UInt8} (hd : delim d = true)
    (limit : Nat) (rest : Bytes) :
    tokens delim (limit + 1) (w ++ d :: rest) = w :: tokens delim limit rest := by
  have h := strtok_word hw (d :: rest) (by simpa using hd)
  simp only [tokens, h, List.drop_succ_cons, List.drop_zero]

theorem tokens_delim {d : UInt8} (hd : delim d = true) (limit : Nat) (rest : Bytes) :
    tokens delim (limit + 1) (d :: rest) = tokens delim (limit + 1) rest := by
  simp only [tokens, strtok_delim hd]

/-- Words with one delimiter between them. -/
def joinWords (d : UInt8) : List Bytes → Bytes
  | [] => []
  | [w] => w
  | w :: w' :: ws => w ++ d :: joinWords d (w' :: ws)

/-- A text put together from words is taken apart into them. -/
theorem tokens_joinWords {d : UInt8} (hd : delim d = true) {ws : List Bytes}
    (hws : ∀ w ∈ ws, IsWord delim w) {limit : Nat} (hlimit : ws.length ≤ limit) :
    tokens delim limit (joinWords d ws) = ws := by
  induction ws generalizing limit with
  | nil => exact tokens_nil limit
  | cons w ws ih =>
    have hw := hws w List.mem_cons_self
    obtain ⟨limit, rfl⟩ : ∃ k, limit = k + 1 := by
      cases limit with
      | zero => exact absurd hlimit (Nat.not_succ_le_zero _)
      | succ k => exact ⟨k, rfl⟩
    cases ws with
    | nil => exact tokens_word_end hw limit
    | cons w' ws =>
      rw [joinWords, tokens_word hw hd]
      congr 1
      apply ih
      · exact fun v hv => hws v (List.mem_cons_of_mem w hv)
      · exact Nat.le_of_succ_le_succ hlimit

theorem mem_joinWords {d : UInt8} {ws : List Bytes} {c : UInt8} (h : c ∈ joinWords d ws) :
    c = d ∨ ∃ w ∈ ws, c ∈ w := by
  fun_induction joinWords d ws with
  | case1 => cases h
  | case2 w => exact Or.inr ⟨w, List.mem_cons_self, h⟩
  | case3 w w' ws ih =>
    rcases List.mem_append.mp h with hw | hrest
    · exact Or.inr ⟨w, List.mem_cons_self, hw⟩
    · rcases List.mem_cons.mp hrest with hd | hrest
      · exact Or.inl hd
      · rcases ih hrest with hd | ⟨v, hv, hc⟩
        · exact Or.inl hd
        · exact Or.inr ⟨v, List.mem_cons_of_mem w hv, hc⟩

theorem strtok_spec {s word rest : Bytes} (h : strtok delim s = some (word, rest)) :
    IsWord delim word ∧ word ⊆ s ∧ rest ⊆ s := by
  unfold strtok at h
  split at h
  · cases h
  · rename_i c cs hs
    simp only [Option.some.injEq, Prod.mk.injEq] at h
    obtain ⟨rfl, rfl⟩ := h
    have hsub : c :: cs ⊆ s := hs ▸ (List.dropWhile_sublist delim).subset
    have hc : delim c = false := by
      have := List.head?_dropWhile_not delim s
      simpa [hs] using this
    refine ⟨⟨?_, ?_⟩, ?_, ?_⟩
    · simp [hc]
    · intro x hx
      simpa using List.mem_takeWhile_imp hx
    · exact fun x hx => hsub ((List.takeWhile_sublist _).subset hx)
    · exact fun x hx => hsub ((List.dropWhile_sublist _).subset (List.mem_of_mem_drop hx))

/-- Every token is a word over bytes of the text. -/
theorem tokens_spec {limit : Nat} {s w : Bytes} (hw : w ∈ tokens delim limit s) :
    IsWord delim w ∧ w ⊆ s := by
  induction limit generalizing s with
  | zero => simp [tokens] at hw
  | succ limit ih =>
    unfold tokens at hw
    split at hw
    · simp at hw
    · rename_i word rest hs
      obtain ⟨hword, hsub, hrest⟩ := strtok_spec hs
      rcases List.mem_cons.mp hw with rfl | hw
      · exact ⟨hword, hsub⟩
      · obtain ⟨h1, h2⟩ := ih hw
        exact ⟨h1, fun x hx => hrest (h2 hx)⟩

/-- The maximal parts of a text without delimiters. -/
def runs (delim : UInt8 → Bool) (s : Bytes) : List Bytes := (s.splitOnP delim).filter (· ≠ [])

theorem runs_delim {c : UInt8} (hc : delim c = true) (s : Bytes) :
    runs delim (c :: s) = runs delim s := by
  simp only [runs, List.splitOnP_cons_eq_if_modifyHead, hc, if_true]
  rfl

theorem runs_word {w : Bytes} (hw : IsWord delim w) {d : UInt8} (hd : delim d = true)
    (rest : Bytes) : runs delim (w ++ d :: rest) = w :: runs delim rest := by
  have hne : decide (w ≠ []) = true := decide_eq_true hw.nonempty
  rw [runs, List.splitOnP_append_cons_of_forall_mem hw.clean d hd, List.filter_cons, hne, if_pos rfl]
  rfl

theorem runs_word_end {w : Bytes} (hw : IsWord delim w) : runs delim w = [w] := by
  have hne : decide (w ≠ []) = true := decide_eq_true hw.nonempty
  rw [runs, List.splitOnP_eq_singleton hw.clean, List.filter_cons, hne, if_pos rfl]
  rfl

/-- A call of the tokenizer takes off the first run. -/
theorem runs_strtok (s : Bytes) :
    runs delim s = (strtok delim s).elim [] fun found => found.1 :: runs delim found.2 := by
  induction s with
  | nil => rfl
  | cons c cs ih =>
    by_cases hc : delim c = true
    · rw [runs_delim hc, strtok_delim hc]
      exact ih
    · have hc : delim c = false := Bool.eq_false_iff.mpr hc
      have hword : IsWord delim ((c :: cs).takeWhile (! delim ·)) := by
        refine ⟨?_, ?_⟩
        · rw [List.takeWhile_cons, hc]
          exact List.cons_ne_nil _ _
        · intro x hx
          simpa using List.mem_takeWhile_imp hx
      have hsplit : (c :: cs).takeWhile (! delim ·) ++ (c :: cs).dropWhile (! delim ·) = c :: cs :=
        List.takeWhile_append_dropWhile
      cases hrest : (c :: cs).dropWhile (! delim ·) with
      | nil =>
        rw [hrest, List.append_nil] at hsplit
        rw [hsplit] at hword
        have htok := strtok_word hword [] (fun x hx => (by cases hx))
        rw [List.append_nil] at htok
        rw [htok, runs_word_end hword]
        rfl
      | cons d rest =>
        have hhead := List.head?_dropWhile_not (! delim ·) (c :: cs)
        rw [hrest] at hhead hsplit
        have hd : delim d = true := by simpa using hhead
        rw [← hsplit, runs_word hword hd, strtok_word hword (d :: rest) (by simpa using hd)]
        rfl

/-- The tokenizer returns the first runs. -/
theorem tokens_eq_runs (limit : Nat) (s : Bytes) :
    tokens delim limit s = (runs delim s).take limit := by
  induction limit generalizing s with
  | zero => rfl
  | succ limit ih =>
    rw [tokens, runs_strtok s]
    cases strtok delim s with
    | none => rfl
    | some found => exact congrArg (found.1 :: ·) (ih found.2)

end Tokens

end IotMonitoring.ByteStrings
