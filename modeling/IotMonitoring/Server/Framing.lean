import IotMonitoring.Server.SensorHandler

/-!
# From bytes to lines

`split` cuts a stream at its newlines and drops carriage returns: the whole
lines, and the fragment after the last newline. `recv_line` delivers a line
that leaves room in the buffer, and otherwise cuts the text where the buffer is
full. The turns of the connection loop follow from that, one line at a time.
-/

namespace IotMonitoring

open ByteStrings Binary64
set_option autoImplicit false

abbrev SplitText := List Bytes × Bytes

/-- Put a byte in front of the first piece of text. -/
def consText (c : UInt8) : SplitText → SplitText
  | ([], fragment) => ([], c :: fragment)
  | (l :: ls, fragment) => ((c :: l) :: ls, fragment)

/-- The newline-terminated lines of a stream, without carriage returns, and the fragment left. -/
def split : Bytes → SplitText
  | [] => ([], [])
  | c :: cs =>
    if c = newline then ([] :: (split cs).1, (split cs).2)
    else if c = carriageReturn then split cs
    else consText c (split cs)

/-- The text up to the first newline or the end. -/
def headText : SplitText → Bytes
  | ([], fragment) => fragment
  | (l :: _, _) => l

def dropText (k : Nat) : SplitText → SplitText
  | ([], fragment) => ([], fragment.drop k)
  | (l :: ls, fragment) => (l.drop k :: ls, fragment)

@[simp] theorem headText_cons (c : UInt8) (p : SplitText) :
    headText (consText c p) = c :: headText p := by
  obtain ⟨ls, fragment⟩ := p
  cases ls <;> rfl

theorem dropText_cons (k : Nat) (c : UInt8) (p : SplitText) :
    dropText (k + 1) (consText c p) = dropText k p := by
  obtain ⟨ls, fragment⟩ := p
  cases ls <;> rfl

@[simp] theorem dropText_zero (p : SplitText) : dropText 0 p = p := by
  obtain ⟨ls, fragment⟩ := p
  cases ls <;> rfl

/-- The text with its newlines put back. -/
def joinText (p : SplitText) : Bytes := p.1.flatMap (· ++ [newline]) ++ p.2

theorem joinText_cons (c : UInt8) (p : SplitText) : joinText (consText c p) = c :: joinText p := by
  obtain ⟨ls, fragment⟩ := p
  cases ls <;> rfl

/-- Splitting loses nothing but carriage returns. -/
theorem joinText_split (bytes : Bytes) :
    joinText (split bytes) = bytes.filter (· ≠ carriageReturn) := by
  have hne : newline ≠ carriageReturn := by decide
  induction bytes with
  | nil => rfl
  | cons c cs ih =>
    by_cases hnl : c = newline
    · rw [hnl, split, if_pos rfl, List.filter_cons_of_pos (by simpa using hne), ← ih]
      rfl
    · by_cases hcr : c = carriageReturn
      · rw [split, if_neg hnl, if_pos hcr, List.filter_cons_of_neg (by simpa using hcr), ih]
      · rw [split, if_neg hnl, if_neg hcr, List.filter_cons_of_pos (by simpa using hcr),
          joinText_cons, ih]

/-- No piece of a split text holds a newline. -/
theorem newline_notMem_split (bytes : Bytes) :
    (∀ l ∈ (split bytes).1, newline ∉ l) ∧ newline ∉ (split bytes).2 := by
  induction bytes with
  | nil => exact ⟨fun l hl => (by cases hl), List.not_mem_nil⟩
  | cons c cs ih =>
    by_cases hnl : c = newline
    · rw [split, if_pos hnl]
      refine ⟨?_, ih.2⟩
      intro l hl
      rcases List.mem_cons.mp hl with rfl | hl
      · exact List.not_mem_nil
      · exact ih.1 l hl
    · by_cases hcr : c = carriageReturn
      · rw [split, if_neg hnl, if_pos hcr]
        exact ih
      · rw [split, if_neg hnl, if_neg hcr]
        rcases hs : split cs with ⟨ls, fragment⟩
        rw [hs] at ih
        cases ls with
        | nil =>
          refine ⟨ih.1, ?_⟩
          rw [consText, List.mem_cons, not_or]
          exact ⟨Ne.symm hnl, ih.2⟩
        | cons l ls =>
          refine ⟨?_, ih.2⟩
          intro l' hl'
          rcases List.mem_cons.mp hl' with rfl | hl'
          · rw [List.mem_cons, not_or]
            exact ⟨Ne.symm hnl, ih.1 l List.mem_cons_self⟩
          · exact ih.1 l' (List.mem_cons_of_mem l hl')

/-! ## What `recv_line` delivers -/

section Receive
variable {capacity : Nat} {ending : Ending}

/-- A line shorter than the room left is delivered whole, its newline consumed. -/
theorem recvLoop_line {bytes l : Bytes} {ls : List Bytes} {fragment : Bytes} (buf : Bytes)
    (h : split bytes = (l :: ls, fragment)) (hroom : buf.length + l.length < capacity) :
    ∃ rest, recvLoop capacity ending buf bytes =
      ⟨(buf ++ l).length, buf ++ l, rest, false⟩ ∧ split rest = (ls, fragment) := by
  induction bytes generalizing buf l with
  | nil => cases h
  | cons c cs ih =>
    have hbuf : buf.length < capacity := by omega
    by_cases hnl : c = newline
    · subst hnl
      rw [split, if_pos rfl] at h
      simp only [Prod.mk.injEq, List.cons.injEq] at h
      obtain ⟨⟨rfl, rfl⟩, rfl⟩ := h
      rw [recvLoop_newline hbuf, List.append_nil]
      exact ⟨cs, rfl, rfl⟩
    · by_cases hcr : c = carriageReturn
      · subst hcr
        rw [split, if_neg hnl, if_pos rfl] at h
        rw [recvLoop_cr hbuf]
        exact ih buf h hroom
      · rw [split, if_neg hnl, if_neg hcr] at h
        rw [recvLoop_cons hbuf hnl hcr]
        rcases hs : split cs with ⟨ls', fragment'⟩
        rw [hs] at h
        cases ls' with
        | nil => cases h
        | cons l' ls' =>
          cases h
          simp only [List.length_cons] at hroom
          have hroom' : (buf ++ [c]).length + l'.length < capacity := by
            simp only [List.length_append, List.length_cons, List.length_nil]
            omega
          obtain ⟨rest, hr, hrest⟩ := ih (buf ++ [c]) hs hroom'
          refine ⟨rest, ?_, hrest⟩
          rw [hr, List.append_assoc, List.singleton_append]

/-- A text that does not leave room is cut where the buffer is full. -/
theorem recvLoop_cut {bytes : Bytes} (buf : Bytes) (hbuf : buf.length ≤ capacity)
    (hlong : capacity ≤ buf.length + (headText (split bytes)).length) :
    ∃ rest, recvLoop capacity ending buf bytes =
      ⟨capacity, buf ++ (headText (split bytes)).take (capacity - buf.length), rest, false⟩ ∧
        split rest = dropText (capacity - buf.length) (split bytes) := by
  induction bytes generalizing buf with
  | nil =>
    have hfull : capacity = buf.length := by
      simp only [split, headText, List.length_nil] at hlong
      omega
    rw [recvLoop_filled hfull.le, hfull, Nat.sub_self, List.take_zero, List.append_nil]
    exact ⟨[], rfl, (dropText_zero _).symm⟩
  | cons c cs ih =>
    by_cases hfull : capacity = buf.length
    · rw [recvLoop_filled hfull.le, hfull, Nat.sub_self, List.take_zero, List.append_nil]
      exact ⟨c :: cs, rfl, (dropText_zero _).symm⟩
    · have hroom : buf.length < capacity := by omega
      by_cases hnl : c = newline
      · subst hnl
        rw [split, if_pos rfl] at hlong
        simp only [headText, List.length_nil] at hlong
        omega
      · by_cases hcr : c = carriageReturn
        · subst hcr
          rw [split, if_neg hnl, if_pos rfl] at hlong ⊢
          rw [recvLoop_cr hroom]
          exact ih buf hbuf hlong
        · rw [split, if_neg hnl, if_neg hcr, headText_cons] at hlong ⊢
          simp only [List.length_cons] at hlong
          have hlen : (buf ++ [c]).length = buf.length + 1 := by
            simp only [List.length_append, List.length_cons, List.length_nil]
          have hk : capacity - buf.length = (capacity - (buf ++ [c]).length) + 1 := by omega
          rw [recvLoop_cons hroom hnl hcr]
          obtain ⟨rest, hr, hrest⟩ := ih (buf ++ [c]) (by omega) (by omega)
          refine ⟨rest, ?_, ?_⟩
          · rw [hr, hk, List.take_succ_cons, List.append_assoc, List.singleton_append]
          · rw [hrest, hk, dropText_cons]

/-- A fragment shorter than the room left is delivered at the close of the stream, and given up
when `recv` fails. -/
theorem recvLoop_fragment {bytes fragment : Bytes} (buf : Bytes) (h : split bytes = ([], fragment))
    (hroom : buf.length + fragment.length < capacity) : recvLoop capacity ending buf bytes =
      ⟨if ending = .failed then -1 else (buf ++ fragment).length, buf ++ fragment, [], true⟩ := by
  induction bytes generalizing buf fragment with
  | nil =>
    cases h
    have hbuf : buf.length < capacity := by omega
    simp only [List.append_nil, recvLoop, if_pos hbuf]
    cases ending with
    | failed => rfl
    | closed =>
      by_cases hz : buf.length = 0
      · simp only [hz, if_true]
        rfl
      · simp only [hz, if_false]
        rfl
  | cons c cs ih =>
    have hbuf : buf.length < capacity := by omega
    by_cases hnl : c = newline
    · rw [split, if_pos hnl] at h
      cases h
    · by_cases hcr : c = carriageReturn
      · subst hcr
        rw [split, if_neg hnl, if_pos rfl] at h
        rw [recvLoop_cr hbuf]
        exact ih buf h hroom
      · rw [split, if_neg hnl, if_neg hcr] at h
        rw [recvLoop_cons hbuf hnl hcr]
        rcases hs : split cs with ⟨ls', fragment'⟩
        rw [hs] at h
        cases ls' with
        | cons l' ls' => cases h
        | nil =>
          cases h
          simp only [List.length_cons] at hroom
          have hroom' : (buf ++ [c]).length + fragment'.length < capacity := by
            simp only [List.length_append, List.length_cons, List.length_nil]
            omega
          rw [ih (buf ++ [c]) hs hroom', List.append_assoc, List.singleton_append]

end Receive

/-- The most bytes a line can have to be read whole with its newline. -/
abbrev lineRoom : Nat := 4095

section ReceiveLine
variable {bytes : Bytes} (ending : Ending)

theorem recvLine_line {l : Bytes} {ls : List Bytes} {fragment : Bytes}
    (h : split bytes = (l :: ls, fragment)) (hlen : l.length < lineRoom) :
    ∃ rest, recvLine bufferSize ⟨bytes, ending⟩ = ⟨l.length, l, rest, false⟩ ∧
      split rest = (ls, fragment) := by
  rw [recvLine_bufferSize]
  exact recvLoop_line [] h (by simpa using hlen)

theorem recvLine_cut (hlong : lineRoom ≤ (headText (split bytes)).length) :
    ∃ rest, recvLine bufferSize ⟨bytes, ending⟩ =
      ⟨lineRoom, (headText (split bytes)).take lineRoom, rest, false⟩ ∧
        split rest = dropText lineRoom (split bytes) := by
  rw [recvLine_bufferSize]
  exact recvLoop_cut [] (Nat.zero_le _) (by simpa using hlong)

theorem recvLine_fragment {fragment : Bytes} (h : split bytes = ([], fragment))
    (hlen : fragment.length < lineRoom) : recvLine bufferSize ⟨bytes, ending⟩ =
      ⟨if ending = .failed then -1 else fragment.length, fragment, [], true⟩ := by
  rw [recvLine_bufferSize]
  exact recvLoop_fragment [] h (by simpa using hlen)

theorem lineRoom_pos : ¬ ((lineRoom : Nat) : Int) ≤ 0 := by decide

end ReceiveLine

/-! ## One turn of the connection loop -/

/-- A well-formed QUIT. -/
def isQuit (line : Bytes) : Bool :=
  match tokenize line 8 with
  | [command, _] => command == ascii "QUIT"
  | _ => false

section Turn
variable (env : Nat → GlobalState → GlobalState)

/-- The reply to a line and the state after it, with other connections moving in between. -/
def handledLine (line : Bytes) (st : Nat × GlobalState) : (Bytes × Bool) × Nat × GlobalState :=
  ((handleLine line).disturbed env).run st

def loopRun (fuel : Nat) (s : Stream) (st : Nat × GlobalState) : Transcript × Nat × GlobalState :=
  ((connectionLoop fuel s).disturbed env).run st

theorem staying_exit (p : Program GlobalState Bytes) (st : Nat × GlobalState) :
    (((staying p).disturbed env).run st).1.2 = false := by
  simp only [staying, Program.disturbed_bind, Program.disturbed_pure, Program.run_bind,
    Program.run_pure]

theorem handleQuit_exit (ts : List Bytes) (st : Nat × GlobalState) :
    (((handleQuit ts).disturbed env).run st).1.2 = decide (ts.length = 2) := by
  rcases ts with _ | ⟨command, _ | ⟨id, _ | ⟨more, ts⟩⟩⟩
  · rfl
  · rfl
  · rfl
  · simp only [handleQuit, Program.disturbed_pure, Program.run_pure, List.length_cons]
    simp

/-- Only a well-formed QUIT leaves the loop, whatever the state. -/
theorem handledLine_exit (line : Bytes) (st : Nat × GlobalState) :
    (handledLine env line st).1.2 = isQuit line := by
  unfold handledLine handleLine isQuit
  rcases tokenize line 8 with _ | ⟨command, args⟩
  · rfl
  have hother (hne : command ≠ ascii "QUIT") : false = (match command :: args with
      | [command, _] => command == ascii "QUIT"
      | _ => false) := by
    rcases args with _ | ⟨id, _ | ⟨more, args⟩⟩
    · rfl
    · exact (beq_eq_false_iff_ne.mpr hne).symm
    · rfl
  rcases handleTokens_cases command args with ⟨hc, h⟩ | ⟨hc, h⟩ | ⟨hc, h⟩ | ⟨hc, h⟩ | ⟨hc, h⟩ |
    ⟨hc, h⟩
  · rw [h, staying_exit]
    exact hother (by rw [hc]; decide)
  · rw [h, staying_exit]
    exact hother (by rw [hc]; decide)
  · rw [h, staying_exit]
    exact hother (by rw [hc]; decide)
  · rw [h, staying_exit]
    exact hother (by rw [hc]; decide)
  · rw [h, handleQuit_exit, hc]
    rcases args with _ | ⟨id, _ | ⟨more, args⟩⟩
    · rfl
    · rfl
    · simp only [List.length_cons]
      simp
  · rw [h]
    refine hother ?_
    rintro rfl
    simp at hc

variable {env} {fuel : Nat} {s : Stream} {st : Nat × GlobalState}

theorem loopRun_stop (h : (recvLine bufferSize s).ret ≤ 0) :
    loopRun env (fuel + 1) s st = (⟨[], .disconnected (recvLine bufferSize s)⟩, st) := by
  unfold loopRun
  simp only [connectionLoop, if_pos h, Program.disturbed_pure, Program.run_pure]

theorem loopRun_quit (h : ¬ (recvLine bufferSize s).ret ≤ 0)
    (hq : isQuit (recvLine bufferSize s).buf = true) :
    loopRun env (fuel + 1) s st =
      (⟨[⟨(recvLine bufferSize s).buf, (handledLine env (recvLine bufferSize s).buf st).1.1⟩],
        .quit⟩, (handledLine env (recvLine bufferSize s).buf st).2) := by
  have hexit := handledLine_exit env (recvLine bufferSize s).buf st
  rw [hq] at hexit
  unfold loopRun
  simp only [connectionLoop, if_neg h, Program.disturbed_bind, Program.run_bind]
  change ((if (handledLine env (recvLine bufferSize s).buf st).1.2 = true then _ else _ :
    Program GlobalState Transcript).disturbed env).run _ = _
  rw [if_pos hexit]
  rfl

theorem loopRun_turn (h : ¬ (recvLine bufferSize s).ret ≤ 0)
    (hq : isQuit (recvLine bufferSize s).buf = false) :
    loopRun env (fuel + 1) s st =
      (⟨⟨(recvLine bufferSize s).buf, (handledLine env (recvLine bufferSize s).buf st).1.1⟩ ::
          (loopRun env fuel ⟨(recvLine bufferSize s).rest, s.ending⟩
            (handledLine env (recvLine bufferSize s).buf st).2).1.exchanges,
        (loopRun env fuel ⟨(recvLine bufferSize s).rest, s.ending⟩
          (handledLine env (recvLine bufferSize s).buf st).2).1.finish⟩,
        (loopRun env fuel ⟨(recvLine bufferSize s).rest, s.ending⟩
          (handledLine env (recvLine bufferSize s).buf st).2).2) := by
  have hexit := handledLine_exit env (recvLine bufferSize s).buf st
  rw [hq] at hexit
  unfold loopRun
  simp only [connectionLoop, if_neg h, Program.disturbed_bind, Program.run_bind]
  change ((if (handledLine env (recvLine bufferSize s).buf st).1.2 = true then _ else _ :
    Program GlobalState Transcript).disturbed env).run _ = _
  rw [if_neg (by rw [hexit]; exact Bool.false_ne_true)]
  simp only [Program.disturbed_bind, Program.disturbed_pure, Program.run_bind, Program.run_pure]
  rfl

end Turn

/-! ## What a turn does with the next text of the stream -/

section NextText
variable (env : Nat → GlobalState → GlobalState) (fuel : Nat) (ending : Ending)
variable (st : Nat × GlobalState) {bytes l fragment : Bytes} {ls : List Bytes}

/-- A blank line reads as a closed connection. -/
theorem loop_blank (h : split bytes = ([] :: ls, fragment)) :
    ∃ last, loopRun env (fuel + 1) ⟨bytes, ending⟩ st = (⟨[], .disconnected last⟩, st) ∧
      last.ended = false := by
  obtain ⟨rest, hr, -⟩ := recvLine_line ending h (by decide)
  refine ⟨_, loopRun_stop (by rw [hr]; exact Int.le_refl 0), ?_⟩
  rw [hr]

/-- A QUIT that fits the buffer ends the loop. -/
theorem loop_quit (h : split bytes = (l :: ls, fragment)) (hl : l ≠ [])
    (hlen : l.length ≤ lineRoom) (hq : isQuit l = true) :
    loopRun env (fuel + 1) ⟨bytes, ending⟩ st =
      (⟨[⟨l, (handledLine env l st).1.1⟩], .quit⟩, (handledLine env l st).2) := by
  have hpos : 0 < l.length := List.length_pos_iff.mpr hl
  have hread : ∃ rest e, recvLine bufferSize ⟨bytes, ending⟩ = ⟨l.length, l, rest, e⟩ := by
    by_cases hshort : l.length < lineRoom
    · obtain ⟨rest, hr, -⟩ := recvLine_line ending h hshort
      exact ⟨rest, _, hr⟩
    · have hfull : l.length = lineRoom := by omega
      have hhead : headText (split bytes) = l := by rw [h]; rfl
      have hcut : lineRoom ≤ (headText (split bytes)).length := by rw [hhead]; exact hfull.ge
      obtain ⟨rest, hr, -⟩ := recvLine_cut ending hcut
      rw [hhead, List.take_of_length_le hfull.le, ← hfull] at hr
      exact ⟨rest, _, hr⟩
  obtain ⟨rest, e, hr⟩ := hread
  have hret : ¬ (recvLine bufferSize ⟨bytes, ending⟩).ret ≤ 0 := by
    rw [hr]
    simp only
    omega
  rw [loopRun_quit hret (by rw [hr]; exact hq), hr]

/-- A line that fits with its newline is one turn. -/
theorem loop_line (h : split bytes = (l :: ls, fragment)) (hl : l ≠ [])
    (hlen : l.length < lineRoom) (hq : isQuit l = false) :
    ∃ rest, split rest = (ls, fragment) ∧ rest.length < bytes.length ∧
      (loopRun env (fuel + 1) ⟨bytes, ending⟩ st).1 =
        ⟨⟨l, (handledLine env l st).1.1⟩ ::
            (loopRun env fuel ⟨rest, ending⟩ (handledLine env l st).2).1.exchanges,
          (loopRun env fuel ⟨rest, ending⟩ (handledLine env l st).2).1.finish⟩ := by
  have hpos : 0 < l.length := List.length_pos_iff.mpr hl
  obtain ⟨rest, hr, hrest⟩ := recvLine_line ending h hlen
  have hsize := recvLine_length ⟨bytes, ending⟩
  rw [hr] at hsize
  simp only at hsize
  have hret : ¬ (recvLine bufferSize ⟨bytes, ending⟩).ret ≤ 0 := by
    rw [hr]
    simp only
    omega
  refine ⟨rest, hrest, by omega, ?_⟩
  rw [loopRun_turn hret (by rw [hr]; exact hq), hr]

/-- A line that fills the buffer leaves its newline behind, which reads as a closed connection. -/
theorem loop_full (h : split bytes = (l :: ls, fragment)) (hlen : l.length = lineRoom)
    (hq : isQuit l = false) : ∃ last, (loopRun env (fuel + 2) ⟨bytes, ending⟩ st).1 =
      ⟨[⟨l, (handledLine env l st).1.1⟩], .disconnected last⟩ ∧ last.ended = false := by
  have hhead : headText (split bytes) = l := by rw [h]; rfl
  have hcut : lineRoom ≤ (headText (split bytes)).length := by rw [hhead]; exact hlen.ge
  obtain ⟨rest, hr, hrest⟩ := recvLine_cut ending hcut
  have htail : dropText lineRoom (split bytes) = ([] :: ls, fragment) := by
    rw [h, dropText, ← hlen, List.drop_length]
  rw [hhead, List.take_of_length_le hlen.le] at hr
  rw [htail] at hrest
  obtain ⟨last, hstop, hended⟩ := loop_blank env fuel ending (handledLine env l st).2 hrest
  refine ⟨last, ?_, hended⟩
  have hret : ¬ (recvLine bufferSize ⟨bytes, ending⟩).ret ≤ 0 := by
    rw [hr]
    exact lineRoom_pos
  rw [loopRun_turn hret (by rw [hr]; exact hq), hr]
  simp only [hstop]

/-- A turn that reads something is recorded first. -/
theorem loop_first (hret : ¬ (recvLine bufferSize ⟨bytes, ending⟩).ret ≤ 0) :
    ∃ e es, (loopRun env (fuel + 1) ⟨bytes, ending⟩ st).1.exchanges = e :: es ∧
      e.line = (recvLine bufferSize ⟨bytes, ending⟩).buf := by
  cases hq : isQuit (recvLine bufferSize ⟨bytes, ending⟩).buf with
  | true =>
    rw [loopRun_quit hret hq]
    exact ⟨_, _, rfl, rfl⟩
  | false =>
    rw [loopRun_turn hret hq]
    exact ⟨_, _, rfl, rfl⟩

/-- A line longer than the buffer is not executed as the line it is. -/
theorem loop_long (h : split bytes = (l :: ls, fragment)) (hlen : lineRoom < l.length) :
    ∃ e es, (loopRun env (fuel + 1) ⟨bytes, ending⟩ st).1.exchanges = e :: es ∧ e.line ≠ l := by
  have hhead : headText (split bytes) = l := by rw [h]; rfl
  have hcut : lineRoom ≤ (headText (split bytes)).length := by rw [hhead]; exact hlen.le
  obtain ⟨rest, hr, -⟩ := recvLine_cut ending hcut
  have hret : ¬ (recvLine bufferSize ⟨bytes, ending⟩).ret ≤ 0 := by
    rw [hr]
    exact lineRoom_pos
  obtain ⟨e, es, hes, hline⟩ := loop_first env fuel ending st hret
  refine ⟨e, es, hes, ?_⟩
  rw [hline, hr, hhead]
  intro heq
  have hcut := congrArg List.length heq
  rw [List.length_take] at hcut
  omega

/-- What `recv_line` makes of a fragment: a piece of the buffer's size, or at the close the rest. -/
def nextPiece (ending : Ending) (fragment : Bytes) : Bytes :=
  if lineRoom ≤ fragment.length then fragment.take lineRoom
  else if ending = .failed then [] else fragment

theorem nextPiece_closed {fragment : Bytes} : nextPiece .closed fragment = [] ↔ fragment = [] := by
  unfold nextPiece
  split
  · rename_i hlong
    have hpos : 0 < fragment.length := Nat.lt_of_lt_of_le (by decide) hlong
    have hne : fragment ≠ [] := List.length_pos_iff.mp hpos
    simp [List.take_eq_nil_iff, hne]
  · rfl

/-- Without a piece left the loop meets the end of the stream. -/
theorem loop_end (h : split bytes = ([], fragment)) (hp : nextPiece ending fragment = []) :
    ∃ last, loopRun env (fuel + 1) ⟨bytes, ending⟩ st = (⟨[], .disconnected last⟩, st) ∧
      last.ended = true := by
  have hshort : fragment.length < lineRoom := by
    by_contra hlong
    rw [nextPiece, if_pos (Nat.not_lt.mp hlong)] at hp
    have hlen := congrArg List.length hp
    rw [List.length_take, Nat.min_eq_left (Nat.not_lt.mp hlong)] at hlen
    cases hlen
  have hr := recvLine_fragment ending h hshort
  have hret : (recvLine bufferSize ⟨bytes, ending⟩).ret ≤ 0 := by
    rw [hr]
    simp only
    split
    · decide
    · rename_i hopen
      rw [nextPiece, if_neg (Nat.not_le.mpr hshort), if_neg hopen] at hp
      rw [hp]
      exact Int.le_refl 0
  refine ⟨_, loopRun_stop hret, ?_⟩
  rw [hr]

/-- A fragment is read like a line, in pieces of the buffer's size. -/
theorem recvLine_piece (h : split bytes = ([], fragment)) (hp : nextPiece ending fragment ≠ []) :
    ∃ rest, split rest = ([], fragment.drop lineRoom) ∧ rest.length < bytes.length ∧
      (recvLine bufferSize ⟨bytes, ending⟩).buf = nextPiece ending fragment ∧
      (recvLine bufferSize ⟨bytes, ending⟩).rest = rest ∧
      ¬ (recvLine bufferSize ⟨bytes, ending⟩).ret ≤ 0 := by
  have hsize := recvLine_length ⟨bytes, ending⟩
  by_cases hshort : fragment.length < lineRoom
  · have hr := recvLine_fragment ending h hshort
    rw [nextPiece, if_neg (Nat.not_le.mpr hshort)] at hp ⊢
    have hopen : ending ≠ .failed := by
      intro hfail
      rw [if_pos hfail] at hp
      exact hp rfl
    rw [if_neg hopen] at hp hr ⊢
    have hpos : 0 < fragment.length := List.length_pos_iff.mpr hp
    rw [hr] at hsize ⊢
    simp only [List.length_nil] at hsize
    refine ⟨[], ?_, by simp only [List.length_nil]; omega, rfl, rfl, ?_⟩
    · rw [List.drop_of_length_le hshort.le]
      rfl
    · simp only
      omega
  · have hlong : lineRoom ≤ fragment.length := Nat.not_lt.mp hshort
    have hhead : headText (split bytes) = fragment := by rw [h]; rfl
    have hcut : lineRoom ≤ (headText (split bytes)).length := by rw [hhead]; exact hlong
    obtain ⟨rest, hr, hrest⟩ := recvLine_cut ending hcut
    rw [nextPiece, if_pos hlong]
    rw [hr] at hsize ⊢
    rw [hhead] at hsize ⊢
    rw [List.length_take, Nat.min_eq_left hlong] at hsize
    simp only [lineRoom] at hsize
    refine ⟨rest, ?_, by omega, rfl, rfl, lineRoom_pos⟩
    rw [hrest, h]
    rfl

end NextText

/-! ## The state after a run of the loop -/

/-- The state after lines handled one after the other. -/
def linesState (env : Nat → GlobalState → GlobalState) (lines : List Bytes)
    (st : Nat × GlobalState) : Nat × GlobalState :=
  lines.foldl (fun st line => (handledLine env line st).2) st

/-- The loop changes the state by the lines it executes, and by nothing else. -/
theorem loopRun_state (env : Nat → GlobalState → GlobalState) (fuel : Nat) (s : Stream)
    (st : Nat × GlobalState) : (loopRun env fuel s st).2 =
      linesState env ((loopRun env fuel s st).1.exchanges.map (·.line)) st := by
  induction fuel generalizing s st with
  | zero => rfl
  | succ fuel ih =>
    by_cases hret : (recvLine bufferSize s).ret ≤ 0
    · rw [loopRun_stop hret]
      rfl
    · cases hq : isQuit (recvLine bufferSize s).buf with
      | true =>
        rw [loopRun_quit hret hq]
        rfl
      | false =>
        rw [loopRun_turn hret hq]
        exact ih _ _

/-- The lines up to and including the first well-formed QUIT. -/
def upToQuit : List Bytes → List Bytes
  | [] => []
  | l :: ls => if isQuit l then [l] else l :: upToQuit ls

theorem upToQuit_eq_nil_iff {ls : List Bytes} : upToQuit ls = [] ↔ ls = [] := by
  cases ls with
  | nil => exact Iff.rfl
  | cons l ls =>
    unfold upToQuit
    split <;> simp

end IotMonitoring
