import IotMonitoring.Server.State

/-!
# Sockets and field checks

`recv_line`, `send_line`, `is_valid_timestamp` and `parse_double` of `utils.c`.
The incoming side of a socket is the list of bytes still to come, followed by
an orderly close or by an error of `recv`.
-/

namespace IotMonitoring

open ByteStrings Binary64
set_option autoImplicit false

inductive Ending where
  | closed | failed
deriving DecidableEq

structure Stream where
  bytes : Bytes
  ending : Ending
deriving DecidableEq

/-- The return value of `recv_line`, the buffer it leaves, the bytes not yet
read, and whether one of its `recv` calls met the end of the stream. -/
structure Received where
  ret : Int
  buf : Bytes
  rest : Bytes
  ended : Bool
deriving DecidableEq

def newline : UInt8 := 10
def carriageReturn : UInt8 := 13

/-- The loop of `recv_line`; `buf` holds the bytes stored so far. -/
def recvLoop (capacity : Nat) (ending : Ending) (buf : Bytes) : Bytes → Received
  | [] =>
    if buf.length < capacity then
      match ending with
      | .failed => ⟨-1, buf, [], true⟩
      | .closed => if buf.length = 0 then ⟨0, buf, [], true⟩ else ⟨buf.length, buf, [], true⟩
    else ⟨buf.length, buf, [], false⟩
  | c :: cs =>
    if buf.length < capacity then
      if c = newline then ⟨buf.length, buf, cs, false⟩
      else if c ≠ carriageReturn then recvLoop capacity ending (buf ++ [c]) cs
      else recvLoop capacity ending buf cs
    else ⟨buf.length, buf, c :: cs, false⟩

/-- The conversion of a count to an `int` of 32 bits. -/
def asInt (i : Int) : Int := i.bmod (2 ^ 32)

def recvLine (bufSize : Nat) (s : Stream) : Received :=
  let r := recvLoop (bufSize - 1) s.ending [] s.bytes
  { r with ret := asInt r.ret }

/-- A text that `recv_line` can deliver with a positive return value. -/
structure IsLine (line : Bytes) : Prop where
  nonempty : line ≠ []
  length_lt : line.length < bufferSize
  clean : ∀ c ∈ line, c ≠ newline ∧ c ≠ carriageReturn

instance (line : Bytes) : Decidable (IsLine line) :=
  have := List.decidableBAll (fun c => c ≠ newline ∧ c ≠ carriageReturn) line
  decidable_of_iff (line ≠ [] ∧ line.length < bufferSize ∧
      ∀ c ∈ line, c ≠ newline ∧ c ≠ carriageReturn)
    ⟨fun h => ⟨h.1, h.2.1, h.2.2⟩, fun h => ⟨h.nonempty, h.length_lt, h.clean⟩⟩

/-- The bytes put on a socket that accepts every send, or `none` for the return value -1. -/
def sendLine (message : Bytes) : Option Bytes :=
  if bufferSize ≤ (message ++ [newline]).length then none else some (message ++ [newline])

/-- Positions of the fixed characters of a timestamp, with the characters. -/
def timestampMarks : List (Nat × UInt8) :=
  [(4, 45), (7, 45), (10, 84), (13, 58), (16, 58), (19, 90)]

def isValidTimestamp (ts : Bytes) : Bool :=
  ts.length == 20 &&
    timestampMarks.all (fun m => ts.getD m.1 0 == m.2) &&
    (List.range 20).all fun i =>
      timestampMarks.any (fun m => m.1 == i) || isDigit (ts.getD i 0)

def parseDouble (str : Bytes) : Option Double :=
  match strtod str with
  | none => none
  | some c => if c.rangeError ∨ c.rest ≠ [] then none else some c.value

/-! ## The bytes `recv_line` delivers -/

section Receive
variable {capacity : Nat} {ending : Ending}

theorem recvLoop_cons {buf : Bytes} {c : UInt8} {cs : Bytes} (hroom : buf.length < capacity)
    (hnl : c ≠ newline) (hcr : c ≠ carriageReturn) :
    recvLoop capacity ending buf (c :: cs) = recvLoop capacity ending (buf ++ [c]) cs := by
  rw [recvLoop, if_pos hroom, if_neg hnl, if_pos hcr]

theorem recvLoop_cr {buf : Bytes} {cs : Bytes} (hroom : buf.length < capacity) :
    recvLoop capacity ending buf (carriageReturn :: cs) = recvLoop capacity ending buf cs := by
  have hne : carriageReturn ≠ newline := by decide
  rw [recvLoop, if_pos hroom, if_neg hne, if_neg (not_not.mpr rfl)]

theorem recvLoop_newline {buf : Bytes} {cs : Bytes} (hroom : buf.length < capacity) :
    recvLoop capacity ending buf (newline :: cs) = ⟨buf.length, buf, cs, false⟩ := by
  rw [recvLoop, if_pos hroom, if_pos rfl]

/-- A line with room in the buffer is stored without its carriage returns. -/
theorem recvLoop_payload {line following : Bytes} (buf : Bytes) (hline : newline ∉ line)
    (hroom : buf.length + (line.filter (· ≠ carriageReturn)).length < capacity) :
    recvLoop capacity ending buf (line ++ newline :: following) =
      ⟨(buf ++ line.filter (· ≠ carriageReturn)).length, buf ++ line.filter (· ≠ carriageReturn),
        following, false⟩ := by
  induction line generalizing buf with
  | nil =>
    have hbuf : buf.length < capacity := hroom
    rw [List.nil_append, recvLoop_newline hbuf, List.filter_nil, List.append_nil]
  | cons c cs ih =>
    obtain ⟨hnl, hcs⟩ := not_or.mp (mt List.mem_cons.mpr hline)
    have hbuf : buf.length < capacity := by omega
    by_cases hcr : c = carriageReturn
    · have hdrop : (c :: cs).filter (· ≠ carriageReturn) = cs.filter (· ≠ carriageReturn) :=
        List.filter_cons_of_neg (by simpa using hcr)
      rw [hdrop] at hroom ⊢
      rw [hcr, List.cons_append, recvLoop_cr hbuf, ih buf hcs hroom]
    · have hkeep : (c :: cs).filter (· ≠ carriageReturn) = c :: cs.filter (· ≠ carriageReturn) :=
        List.filter_cons_of_pos (by simpa using hcr)
      rw [hkeep] at hroom ⊢
      simp only [List.length_cons] at hroom
      have hroom' : (buf ++ [c]).length + (cs.filter (· ≠ carriageReturn)).length < capacity := by
        simp only [List.length_append, List.length_cons, List.length_nil]
        omega
      rw [List.cons_append, recvLoop_cons hbuf (Ne.symm hnl) hcr, ih (buf ++ [c]) hcs hroom',
        List.append_assoc, List.singleton_append]

theorem recvLoop_filled {buf bytes : Bytes} (hfull : capacity ≤ buf.length) :
    recvLoop capacity ending buf bytes = ⟨buf.length, buf, bytes, false⟩ := by
  cases bytes with
  | nil => simp only [recvLoop, if_neg (Nat.not_lt.mpr hfull)]
  | cons c cs => simp only [recvLoop, if_neg (Nat.not_lt.mpr hfull)]

/-- Every byte delivered was consumed. -/
theorem recvLoop_length (bytes buf : Bytes) :
    (recvLoop capacity ending buf bytes).rest.length +
      (recvLoop capacity ending buf bytes).buf.length ≤ bytes.length + buf.length := by
  fun_induction recvLoop capacity ending buf bytes with
  | case6 buf c cs hroom hnl hcr ih =>
    simp only [List.length_append, List.length_cons, List.length_nil] at ih ⊢
    omega
  | case7 buf c cs hroom hnl hcr ih =>
    simp only [List.length_cons]
    omega
  | _ =>
    simp only [List.length_cons, List.length_nil]
    omega

theorem recvLoop_ret (bytes buf : Bytes) :
    (recvLoop capacity ending buf bytes).ret ≤ (recvLoop capacity ending buf bytes).buf.length := by
  fun_induction recvLoop capacity ending buf bytes with
  | case6 buf c cs hroom hnl hcr ih => exact ih
  | case7 buf c cs hroom hnl hcr ih => exact ih
  | _ =>
    simp only
    omega

theorem recvLoop_ret_ge (bytes buf : Bytes) : -1 ≤ (recvLoop capacity ending buf bytes).ret := by
  fun_induction recvLoop capacity ending buf bytes with
  | case6 buf c cs hroom hnl hcr ih => exact ih
  | case7 buf c cs hroom hnl hcr ih => exact ih
  | _ =>
    simp only
    omega

/-- Neither newlines nor carriage returns are stored, and the buffer is never exceeded. -/
theorem recvLoop_clean {bytes : Bytes} (buf : Bytes) (hbuf : buf.length ≤ capacity)
    (hclean : ∀ c ∈ buf, c ≠ newline ∧ c ≠ carriageReturn) :
    (recvLoop capacity ending buf bytes).buf.length ≤ capacity ∧
      ∀ c ∈ (recvLoop capacity ending buf bytes).buf, c ≠ newline ∧ c ≠ carriageReturn := by
  fun_induction recvLoop capacity ending buf bytes with
  | case6 buf c cs hroom hnl hcr ih =>
    apply ih
    · rw [List.length_append, List.length_singleton]
      omega
    · intro d hd
      rcases List.mem_append.mp hd with hd | hd
      · exact hclean d hd
      · rw [List.mem_singleton.mp hd]
        exact ⟨hnl, hcr⟩
  | case7 buf c cs hroom hnl hcr ih => exact ih hbuf hclean
  | _ => exact ⟨hbuf, hclean⟩

end Receive

theorem asInt_eq {i : Int} (hlow : -2 ^ 31 ≤ i) (hhigh : i < 2 ^ 31) : asInt i = i :=
  Int.bmod_eq_of_le (by simpa using hlow) (by simpa using hhigh)

/-- A count is returned as it is if and only if it is below 2^31. -/
theorem asInt_eq_iff {n : Nat} : asInt n = n ↔ n < 2 ^ 31 := by
  constructor
  · intro heq
    have hlt : asInt n < (2 ^ 32 + 1) / 2 := Int.bmod_lt (by decide)
    rw [heq] at hlt
    omega
  · intro hn
    apply asInt_eq <;> omega

/-- With the buffers of the server the count is returned as it is. -/
theorem recvLine_bufferSize (s : Stream) :
    recvLine bufferSize s = recvLoop (bufferSize - 1) s.ending [] s.bytes := by
  have hlow : -1 ≤ (recvLoop (bufferSize - 1) s.ending [] s.bytes).ret :=
    recvLoop_ret_ge s.bytes []
  have hhigh : (recvLoop (bufferSize - 1) s.ending [] s.bytes).ret ≤
      (recvLoop (bufferSize - 1) s.ending [] s.bytes).buf.length := recvLoop_ret s.bytes []
  have hroom : (recvLoop (bufferSize - 1) s.ending [] s.bytes).buf.length ≤ 4095 :=
    (recvLoop_clean [] (Nat.zero_le _) fun c hc => (by cases hc)).1
  unfold recvLine
  simp only
  rw [asInt_eq (by omega) (by omega)]

theorem recvLine_payload {ending : Ending} {line following : Bytes} (hline : newline ∉ line)
    (hroom : (line.filter (· ≠ carriageReturn)).length + 1 < bufferSize) :
    recvLine bufferSize ⟨line ++ newline :: following, ending⟩ =
      ⟨(line.filter (· ≠ carriageReturn)).length, line.filter (· ≠ carriageReturn), following,
        false⟩ := by
  rw [recvLine_bufferSize]
  apply recvLoop_payload [] hline
  rw [List.length_nil]
  omega

theorem recvLine_length (s : Stream) :
    (recvLine bufferSize s).rest.length + (recvLine bufferSize s).buf.length ≤ s.bytes.length :=
  recvLoop_length s.bytes []

/-- What the connection loop goes on to handle is a line. -/
theorem recvLine_isLine {s : Stream} (h : ¬ (recvLine bufferSize s).ret ≤ 0) :
    IsLine (recvLine bufferSize s).buf := by
  have hstored : (recvLine bufferSize s).buf.length ≤ bufferSize - 1 ∧
      ∀ c ∈ (recvLine bufferSize s).buf, c ≠ newline ∧ c ≠ carriageReturn :=
    recvLoop_clean [] (Nat.zero_le _) fun c hc => (by cases hc)
  have hret : (recvLine bufferSize s).ret ≤ (recvLine bufferSize s).buf.length := by
    rw [recvLine_bufferSize]
    exact recvLoop_ret s.bytes []
  refine ⟨?_, Nat.lt_of_le_of_lt hstored.1 (by decide), hstored.2⟩
  intro hnil
  apply h
  rw [hnil] at hret
  exact hret

/-! ## Replies and fields -/

theorem sendLine_isSome_iff {message : Bytes} :
    (sendLine message).isSome ↔ message.length + 1 < bufferSize := by
  unfold sendLine
  split <;> simp_all

theorem isValidTimestamp_length {ts : Bytes} (h : isValidTimestamp ts = true) : ts.length = 20 := by
  simp only [isValidTimestamp, Bool.and_eq_true, beq_iff_eq] at h
  exact h.1.1

/-- A valid timestamp is stored whole. -/
theorem timestamp_fits {ts : Bytes} (h : isValidTimestamp ts = true) :
    ts.length < maxTimestampLen := by
  rw [isValidTimestamp_length h]
  decide

example : isValidTimestamp (ascii "2026-03-30T14:05:00Z") = true := by decide
example : isValidTimestamp (ascii "invalid-ts") = false := by decide

end IotMonitoring
