import IotMonitoring.Shared.Substrings

/-!
# Pages written by successive `snprintf` calls

A page is built at a running offset that each call advances by the length of
its full text, whether or not the text fitted. A loop over rows goes on as long
as the offset is below a budget, so the offset after the loop can exceed the
budget by one row: `offsets_le_iff` says when it stays inside the buffer.
-/

namespace IotMonitoring.ByteStrings

set_option autoImplicit false

/-! ## String literals -/

/-- Adjacent string literals of the source, joined. -/
def literal (parts : List String) : Bytes := parts.flatMap ascii

theorem literal_length_nil : (literal []).length = 0 := rfl

/-- The length of a literal, part by part; the kernel opens each part as a list of characters. -/
theorem literal_length_cons {cs : List Char} {parts : List String} {m : Nat}
    (h : (literal parts).length = m) :
    (literal (String.ofList cs :: parts)).length = m + cs.length := by
  rw [← h, literal, List.flatMap_cons, List.length_append]
  simp only [ascii, String.toList_ofList, List.length_map, literal]
  omega

theorem literal_cons (cs : List Char) (parts : List String) :
    literal (String.ofList cs :: parts) =
      (cs.map fun c => c.toNat.toUInt8) ++ literal parts := by
  rw [literal, List.flatMap_cons, ascii, String.toList_ofList]
  rfl

theorem startsWith_literal_cons {start : Bytes} {cs : List Char} {parts : List String}
    (h : start <+: cs.map fun c => c.toNat.toUInt8) :
    start <+: literal (String.ofList cs :: parts) := by
  rw [literal_cons]
  exact h.trans (List.prefix_append _ _)

/-- A part that two literals and the byte between them make up. -/
theorem literal_cons_split {cs before after : List Char} {parts : List String} (c : Char)
    {rest : Bytes} (hcs : cs = before ++ c :: after) (hparts : literal parts = rest) :
    literal (String.ofList cs :: parts) = ascii (String.ofList before) ++
      ([c.toNat.toUInt8] ++ (ascii (String.ofList after) ++ rest)) := by
  rw [literal_cons, hcs, hparts, ascii, ascii, String.toList_ofList, String.toList_ofList,
    List.map_append, List.map_cons, List.append_assoc]
  rfl

theorem skipped_literal_nil (start : Bytes) : Skipped start (literal []) := skipped_nil start

theorem skipped_literal_cons {start : Bytes} {cs : List Char} {parts : List String}
    (h : Skipped start (literal parts))
    (hcs : differs start (cs.map fun c => c.toNat.toUInt8) = true) :
    Skipped start (literal (String.ofList cs :: parts)) := by
  rw [literal_cons]
  exact (skipped_of_differs hcs).append h

/-- A part without the first byte of the needle. -/
theorem skipped_literal_text {c : UInt8} {more : Bytes} {cs : List Char} {parts : List String}
    (h : Skipped (c :: more) (literal parts))
    (hcs : ((cs.map fun d => d.toNat.toUInt8).all fun d => d != c) = true) :
    Skipped (c :: more) (literal (String.ofList cs :: parts)) := by
  rw [literal_cons]
  refine Skipped.append (skipped_of_notMem ?_) h
  intro hmem
  exact absurd rfl (bne_iff_ne.mp (List.all_eq_true.mp hcs c hmem))

theorem zero_notMem_literal_nil : (0 : UInt8) ∉ literal [] := List.not_mem_nil

theorem zero_notMem_literal_cons {cs : List Char} {parts : List String}
    (h : (0 : UInt8) ∉ literal parts) (hcs : (0 : UInt8) ∉ cs.map fun c => c.toNat.toUInt8) :
    (0 : UInt8) ∉ literal (String.ofList cs :: parts) := by
  rw [literal_cons, List.mem_append, not_or]
  exact ⟨hcs, h⟩

/-! ## Running offsets -/

/-- A call of `snprintf`: where it writes, and its full text. -/
structure Call where
  offset : Nat
  text : Bytes

/-- The calls that write the texts one after the other. -/
def callsFrom : Nat → List Bytes → List Call
  | _, [] => []
  | offset, text :: texts => ⟨offset, text⟩ :: callsFrom (offset + text.length) texts

/-- The rows written by a loop that stops once the offset reaches the budget. -/
def takeRows (budget : Nat) : Nat → List Bytes → List Bytes
  | _, [] => []
  | offset, row :: rows =>
    if offset < budget then row :: takeRows budget (offset + row.length) rows else []

/-- The calls of a page with a table: the head, the rows the budget allows, the closing tags. -/
def tableCalls (budget : Nat) (head : Bytes) (rows : List Bytes) (tail : Bytes) : List Call :=
  callsFrom 0 (head :: (takeRows budget head.length rows ++ [tail]))

/-- What `snprintf(body + offset, size - offset, ..)` leaves of the string in `body`. Beyond the end
the room wraps around to a huge number and the call writes outside the array. -/
def Call.write (size : Nat) (body : Bytes) (call : Call) : Option Bytes :=
  if call.offset < size then
    some (body.take call.offset ++ snprintf (size - call.offset) call.text)
  else if call.offset = size then some body
  else none

/-- The string left by all calls. -/
def page (size : Nat) (calls : List Call) : Option Bytes := calls.foldlM (Call.write size) []

def totalLength (texts : List Bytes) : Nat := (texts.map List.length).sum

theorem totalLength_cons (text : Bytes) (texts : List Bytes) :
    totalLength (text :: texts) = text.length + totalLength texts := rfl

theorem totalLength_append (texts more : List Bytes) :
    totalLength (texts ++ more) = totalLength texts + totalLength more := by
  rw [totalLength, List.map_append, List.sum_append]
  rfl

theorem totalLength_flatten (texts : List Bytes) : texts.flatten.length = totalLength texts := by
  rw [List.length_flatten]
  rfl

theorem totalLength_le {texts : List Bytes} {m : Nat} (h : ∀ text ∈ texts, text.length ≤ m) :
    totalLength texts ≤ texts.length * m := by
  induction texts with
  | nil => exact Nat.zero_le _
  | cons text texts ih =>
    have hfirst := h text List.mem_cons_self
    have hrest := ih fun next hnext => h next (List.mem_cons_of_mem text hnext)
    rw [totalLength_cons, List.length_cons, Nat.succ_mul]
    omega

/-- No row that is started below the budget ends beyond the buffer. -/
def RowsFit (budget size start : Nat) (rows : List Bytes) : Prop :=
  ∀ k row, rows[k]? = some row → start + totalLength (rows.take k) < budget →
    start + totalLength (rows.take k) + row.length ≤ size

section
variable {budget size start : Nat} {row tail : Bytes} {rows : List Bytes}

theorem rowsFit_cons (hstart : start < budget) : RowsFit budget size start (row :: rows) ↔
    start + row.length ≤ size ∧ RowsFit budget size (start + row.length) rows := by
  constructor
  · intro h
    refine ⟨h 0 row rfl hstart, fun k next hnext hbelow => ?_⟩
    have hrow := h (k + 1) next hnext
    rw [List.take_succ_cons, totalLength_cons, ← Nat.add_assoc] at hrow
    exact hrow hbelow
  · rintro ⟨hfirst, hrest⟩ k next hnext hbelow
    cases k with
    | zero =>
      cases hnext
      exact hfirst
    | succ k =>
      rw [List.take_succ_cons, totalLength_cons, ← Nat.add_assoc] at hbelow ⊢
      exact hrest k next hnext hbelow

theorem rowsFit_of_full (hstart : ¬ start < budget) : RowsFit budget size start rows := by
  intro k next _ hbelow
  exact absurd (Nat.lt_of_le_of_lt (Nat.le_add_right _ _) hbelow) hstart

/-- The calls of a loop over rows, and the call after it, start inside the buffer exactly when no
row passes its end. -/
theorem offsets_le_iff (hbudget : budget ≤ size) :
    (∀ call ∈ callsFrom start (takeRows budget start rows ++ [tail]), call.offset ≤ size) ↔
      start ≤ size ∧ RowsFit budget size start rows := by
  induction rows generalizing start with
  | nil =>
    simp only [takeRows, List.nil_append, callsFrom, List.mem_singleton, forall_eq]
    refine ⟨fun h => ⟨h, fun k next hnext => ?_⟩, fun h => h.1⟩
    cases hnext
  | cons row rows ih =>
    by_cases hstart : start < budget
    · have hle : start ≤ size := Nat.le_trans (Nat.le_of_lt hstart) hbudget
      simp only [takeRows, if_pos hstart, List.cons_append, callsFrom, List.mem_cons,
        forall_eq_or_imp, ih, rowsFit_cons hstart, hle, true_and]
    · simp only [takeRows, if_neg hstart, List.nil_append, callsFrom, List.mem_singleton, forall_eq]
      exact ⟨fun h => ⟨h, rowsFit_of_full hstart⟩, fun h => h.1⟩

/-! ## Which rows are shown -/

/-- `k` of the rows are shown: a row exactly when the head and the rows before it end below the
budget. -/
structure ShownRows (budget start : Nat) (rows : List Bytes) (k : Nat) : Prop where
  le_length : k ≤ rows.length
  shown_iff : ∀ j < rows.length, j < k ↔ start + totalLength (rows.take j) < budget

theorem takeRows_shown (budget start : Nat) (rows : List Bytes) :
    ∃ k, ShownRows budget start rows k ∧ takeRows budget start rows = rows.take k := by
  induction rows generalizing start with
  | nil => exact ⟨0, ⟨Nat.le_refl 0, fun j hj => absurd hj (Nat.not_lt_zero j)⟩, rfl⟩
  | cons row rows ih =>
    by_cases hstart : start < budget
    · obtain ⟨k, hk, htake⟩ := ih (start + row.length)
      refine ⟨k + 1, ⟨Nat.succ_le_succ hk.le_length, ?_⟩, ?_⟩
      · intro j hj
        cases j with
        | zero => simpa [totalLength] using hstart
        | succ j =>
          have hshown := hk.shown_iff j (Nat.lt_of_succ_lt_succ hj)
          rw [List.take_succ_cons, totalLength_cons, ← Nat.add_assoc]
          exact Nat.succ_lt_succ_iff.trans hshown
      · rw [takeRows, if_pos hstart, htake, List.take_succ_cons]
    · refine ⟨0, ⟨Nat.zero_le _, fun j _ => ?_⟩, ?_⟩
      · refine ⟨fun h => absurd h (Nat.not_lt_zero j), fun h => ?_⟩
        exact absurd (Nat.lt_of_le_of_lt (Nat.le_add_right _ _) h) hstart
      · rw [takeRows, if_neg hstart, List.take_zero]

/-- All rows are shown when they end at or below the budget. -/
theorem ShownRows.eq_length {k : Nat} (h : ShownRows budget start rows k)
    (hall : start + totalLength rows ≤ budget) (hrows : ∀ row ∈ rows, row ≠ []) : k = rows.length := by
  apply Nat.le_antisymm h.le_length
  by_contra hlt
  have hk : k < rows.length := Nat.lt_of_not_le hlt
  apply Nat.lt_irrefl k
  rw [h.shown_iff k hk]
  have hsplit := totalLength_append (rows.take k) (rows.drop k)
  rw [List.take_append_drop, List.drop_eq_getElem_cons hk, totalLength_cons] at hsplit
  have hpos := List.length_pos_iff.mpr (hrows _ (List.getElem_mem hk))
  omega

/-- The last row started ends less than one row above the budget. -/
theorem takeRows_end {m : Nat} (hstart : start < budget) (hrows : ∀ row ∈ rows, row.length ≤ m) :
    start + totalLength (takeRows budget start rows) < budget + m := by
  induction rows generalizing start with
  | nil => exact Nat.lt_of_lt_of_le hstart (Nat.le_add_right _ _)
  | cons row rows ih =>
    rw [takeRows, if_pos hstart, totalLength_cons, ← Nat.add_assoc]
    have hrow := hrows row List.mem_cons_self
    have hrest : ∀ next ∈ rows, next.length ≤ m := fun next h =>
      hrows next (List.mem_cons_of_mem row h)
    by_cases hnext : start + row.length < budget
    · exact ih hnext hrest
    · have hnone : takeRows budget (start + row.length) rows = [] := by
        cases rows with
        | nil => rfl
        | cons next rows => exact if_neg hnext
      rw [hnone]
      simp only [totalLength, List.map_nil, List.sum_nil]
      omega

/-! ## What the buffer holds -/

theorem callsFrom_end {texts : List Bytes} {call : Call} (h : call ∈ callsFrom start texts) :
    call.offset + call.text.length ≤ start + totalLength texts := by
  induction texts generalizing start with
  | nil => cases h
  | cons text texts ih =>
    rw [totalLength_cons]
    rcases List.mem_cons.mp h with rfl | h
    · exact Nat.add_le_add_left (Nat.le_add_right _ _) start
    · have := ih h
      omega

/-- Calls that all start inside the buffer leave the joined texts, cut to its size. -/
theorem foldlM_write {texts : List Bytes} (hsize : 0 < size) {body : Bytes}
    (h : ∀ call ∈ callsFrom body.length texts, call.offset ≤ size) :
    (callsFrom body.length texts).foldlM (Call.write size) (body.take (size - 1)) =
      some ((body ++ texts.flatten).take (size - 1)) := by
  induction texts generalizing body with
  | nil => simp [callsFrom]
  | cons text texts ih =>
    have hfirst : body.length ≤ size := h ⟨body.length, text⟩ List.mem_cons_self
    have hwrite : Call.write size (body.take (size - 1)) ⟨body.length, text⟩ =
        some ((body ++ text).take (size - 1)) := by
      by_cases hlt : body.length < size
      · have hbody : body.take (size - 1) = body := List.take_of_length_le (by omega)
        have hroom : size - body.length - 1 = size - 1 - body.length := by omega
        rw [Call.write, if_pos hlt, hbody, List.take_length, snprintf, hroom, List.take_append,
          hbody]
      · have heq : body.length = size := Nat.le_antisymm hfirst (Nat.not_lt.mp hlt)
        have hroom : size - 1 - body.length = 0 := by omega
        rw [Call.write, if_neg hlt, if_pos heq, List.take_append, hroom, List.take_zero,
          List.append_nil]
    have hstart : (body ++ text).length = body.length + text.length := List.length_append
    rw [callsFrom, List.foldlM_cons, hwrite, List.flatten_cons, ← List.append_assoc,
      ← hstart]
    apply ih
    intro call hcall
    rw [hstart] at hcall
    exact h call (List.mem_cons_of_mem _ hcall)

/-- A call at the end of the string appends its text. -/
theorem write_at_end {body text : Bytes} (h : body.length + text.length < size) :
    Call.write size body ⟨body.length, text⟩ = some (body ++ text) := by
  have hlt : body.length < size := Nat.lt_of_le_of_lt (Nat.le_add_right _ _) h
  have hroom : text.length < size - body.length := by omega
  rw [Call.write, if_pos hlt, List.take_length, snprintf_of_fits hroom]

theorem page_callsFrom {texts : List Bytes} (hsize : 0 < size)
    (h : ∀ call ∈ callsFrom 0 texts, call.offset ≤ size) :
    page size (callsFrom 0 texts) = some (texts.flatten.take (size - 1)) := by
  have hpage := @foldlM_write _ texts hsize [] h
  rw [List.take_nil, List.nil_append] at hpage
  exact hpage

theorem write_length {body out : Bytes} {call : Call} (h : Call.write size body call = some out)
    (hbody : body.length < size) : out.length < size := by
  rw [Call.write] at h
  split at h
  · next hlt =>
    rw [← Option.some.inj h, List.length_append, List.length_take, snprintf, List.length_take]
    omega
  · split at h
    · rw [← Option.some.inj h]
      exact hbody
    · cases h

/-- A page that is built at all is a string inside its buffer. -/
theorem page_length {calls : List Call} {out : Bytes} (h : page size calls = some out)
    (hsize : 0 < size) : out.length < size := by
  have hall : ∀ calls : List Call, ∀ body, calls.foldlM (Call.write size) body = some out →
      body.length < size → out.length < size := by
    intro calls
    induction calls with
    | nil =>
      intro body hout hbody
      rw [← Option.some.inj hout]
      exact hbody
    | cons call calls ih =>
      intro body hout hbody
      rw [List.foldlM_cons] at hout
      obtain ⟨next, hnext, hout⟩ := Option.bind_eq_some_iff.mp hout
      exact ih next hout (write_length hnext hbody)
  exact hall calls [] h hsize

/-- Texts that end below the size are all in the buffer, whole. -/
theorem page_of_fits {texts : List Bytes} (h : totalLength texts < size) :
    page size (callsFrom 0 texts) = some texts.flatten := by
  rw [page_callsFrom (Nat.lt_of_le_of_lt (Nat.zero_le _) h)]
  · rw [List.take_of_length_le]
    rw [totalLength_flatten]
    omega
  · intro call hcall
    have := callsFrom_end hcall
    omega

/-- A table whose rows end within the budget is shown in full. -/
theorem page_tableCalls {head : Bytes} (hall : head.length + totalLength rows ≤ budget)
    (hrows : ∀ row ∈ rows, row ≠ []) (htail : budget + tail.length < size) :
    page size (tableCalls budget head rows tail) = some (head ++ rows.flatten ++ tail) := by
  obtain ⟨k, hk, htake⟩ := takeRows_shown budget head.length rows
  rw [hk.eq_length hall hrows, List.take_length] at htake
  rw [tableCalls, htake, page_of_fits]
  · simp only [List.flatten_cons, List.flatten_append, List.flatten_nil, List.append_nil,
      List.append_assoc]
  · have hsingle : totalLength [tail] = tail.length := rfl
    rw [totalLength_cons, totalLength_append, hsingle]
    omega

/-- Rows that fit into what the budget leaves never pass the end. -/
theorem rowsFit_of_short (hrows : ∀ row ∈ rows, budget + row.length ≤ size + 1) :
    RowsFit budget size start rows := by
  intro k row hrow hbelow
  have := hrows row (List.mem_of_getElem? hrow)
  omega

end

end IotMonitoring.ByteStrings
