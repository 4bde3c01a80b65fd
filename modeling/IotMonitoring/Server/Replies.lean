import IotMonitoring.Server.Framing

/-!
# One reply for each line

`send_line` refuses a text of 4095 bytes or more and its result is ignored. The
only reply that can grow so long is the echo of an id by REGISTER, so a line is
answered unless it is `Unanswered`: a REGISTER with a huge id and room for it.
-/

namespace IotMonitoring

open ByteStrings Binary64
set_option autoImplicit false

/-- The ids from this length on make `200 REGISTERED <id>` too long to be sent. -/
abbrev hugeId : Nat := 4080

/-- A REGISTER that succeeds with an id too long to be echoed. -/
def Unanswered (env : Nat → GlobalState → GlobalState) (line : Bytes) (st : Nat × GlobalState) :
    Prop :=
  match tokenize line 8 with
  | [command, id, typeStr] => command = ascii "REGISTER" ∧ sensorTypeFromStr typeStr ≠ .invalid ∧
      hugeId ≤ id.length ∧ (env st.1 st.2).freeSlot ≠ none
  | _ => False

instance (env : Nat → GlobalState → GlobalState) (line : Bytes) (st : Nat × GlobalState) :
    Decidable (Unanswered env line st) := by
  unfold Unanswered
  split <;> infer_instance

theorem unanswered_iff {env : Nat → GlobalState → GlobalState} {line : Bytes}
    {st : Nat × GlobalState} : Unanswered env line st ↔
      ∃ id typeStr, tokenize line 8 = [ascii "REGISTER", id, typeStr] ∧
        sensorTypeFromStr typeStr ≠ .invalid ∧ hugeId ≤ id.length ∧
          (env st.1 st.2).freeSlot ≠ none := by
  unfold Unanswered
  constructor
  · intro h
    split at h
    · rename_i command id typeStr htok
      obtain ⟨rfl, hrest⟩ := h
      exact ⟨id, typeStr, htok, hrest⟩
    · exact absurd h id
  · rintro ⟨id, typeStr, htok, hrest⟩
    rw [htok]
    exact ⟨rfl, hrest⟩

/-! ## The length of replies -/

/-- A reply that `send_line` accepts. -/
def Sendable (resp : Bytes) : Prop := resp.length + 1 < bufferSize

theorem sendable_iff {resp : Bytes} : (sendLine resp).isSome = true ↔ Sendable resp :=
  sendLine_isSome_iff

theorem sendable_of_mem {resp : Bytes} (h : resp ∈ [badRequest, sensorNotRegistered, sensorNotFound,
    sensorAlreadyExists, invalidSensorType, invalidValue, internalError, metricOk, pong, bye]) :
    Sendable resp := by
  have hall : ∀ resp ∈ [badRequest, sensorNotRegistered, sensorNotFound, sensorAlreadyExists,
      invalidSensorType, invalidValue, internalError, metricOk, pong, bye],
      resp.length + 1 < bufferSize := by decide
  exact hall resp h

theorem sendable_registerReply {id : Bytes} {result : RegisterResult} :
    Sendable (registerReply id result) ↔ ¬ (result = .ok ∧ hugeId ≤ id.length) := by
  cases result with
  | ok =>
    have hhead : (ascii "200 REGISTERED ").length = 15 := by decide
    simp only [Sendable, registerReply, snprintf, registered, List.length_take, List.length_append,
      hhead, bufferSize, hugeId, true_and]
    omega
  | tableFull =>
    have hshort : Sendable (registerReply [] .tableFull) := sendable_of_mem (by decide)
    exact ⟨fun _ h => (by cases h.1), fun _ => hshort⟩
  | alreadyExists =>
    have hshort : Sendable (registerReply [] .alreadyExists) := sendable_of_mem (by decide)
    exact ⟨fun _ h => (by cases h.1), fun _ => hshort⟩
  | invalidType =>
    have hshort : Sendable (registerReply [] .invalidType) := sendable_of_mem (by decide)
    exact ⟨fun _ h => (by cases h.1), fun _ => hshort⟩

section Handlers
variable (env : Nat → GlobalState → GlobalState) (st : Nat × GlobalState)

theorem staying_reply (p : Program GlobalState Bytes) :
    (((staying p).disturbed env).run st).1.1 = ((p.disturbed env).run st).1 := by
  simp only [staying, Program.disturbed_bind, Program.disturbed_pure, Program.run_bind,
    Program.run_pure]

theorem recordMetric_reply (id : Bytes) (value : Double) (timestamp : Bytes) (type : SensorType)
    (st : Nat × GlobalState) :
    (((recordMetric id value timestamp type).disturbed env).run st).1 ∈ [metricOk, internalError] := by
  have hafter : ∀ (stored : Bool) (st : Nat × GlobalState), (((if stored then do
      let _ ← alertsEvaluate id value type timestamp
      pure metricOk
      else pure internalError : Program GlobalState Bytes).disturbed env).run st).1 ∈
        [metricOk, internalError] := by
    intro stored st
    cases stored <;> simp
  simp only [recordMetric, Program.disturbed_bind, Program.run_bind]
  exact hafter _ _

theorem sendable_metric (ts : List Bytes) : Sendable (((handleMetric ts).disturbed env).run st).1 := by
  rcases ts with _ | ⟨command, _ | ⟨id, _ | ⟨valueStr, _ | ⟨timestamp, _ | ⟨more, ts⟩⟩⟩⟩⟩
  case cons.cons.cons.cons.nil =>
    simp only [handleMetric, Program.disturbed_bind, Program.run_bind, Program.run_disturbed_call]
    cases hcheck : checkMetric valueStr timestamp (stateFindSensor id (env st.1 st.2)).1 with
    | error resp =>
      have hmem := checkMetric_error hcheck
      apply sendable_of_mem
      simp only [Program.disturbed_pure, Program.run_pure]
      revert hmem
      simp only [List.mem_cons, List.not_mem_nil, or_false]
      rintro (rfl | rfl | rfl | rfl) <;> simp
    | ok checked =>
      have hmem := recordMetric_reply env id checked.1 timestamp checked.2
        (st.1 + 1, (stateFindSensor id (env st.1 st.2)).2)
      apply sendable_of_mem
      simp only [List.mem_cons, List.not_mem_nil, or_false] at hmem ⊢
      rcases hmem with hmem | hmem
      · simp [hmem]
      · simp [hmem]
  all_goals exact sendable_of_mem (by simp [handleMetric])

theorem sendable_status (ts : List Bytes) : Sendable (((handleStatus ts).disturbed env).run st).1 := by
  rcases ts with _ | ⟨command, _ | ⟨id, _ | ⟨more, ts⟩⟩⟩
  case cons.cons.nil =>
    simp only [handleStatus, Program.disturbed_bind, Program.run_bind, Program.run_disturbed_call,
      Program.disturbed_pure, Program.run_pure]
    cases (stateFindSensor id (env st.1 st.2)).1 with
    | none => exact sendable_of_mem (by simp [statusReply])
    | some found =>
      rw [statusReply_some]
      exact statusText_length found.2
  all_goals exact sendable_of_mem (by simp [handleStatus])

theorem sendable_ping (ts : List Bytes) : Sendable (((handlePing ts).disturbed env).run st).1 := by
  rcases ts with _ | ⟨command, _ | ⟨id, _ | ⟨more, ts⟩⟩⟩ <;>
    exact sendable_of_mem (by simp [handlePing])

theorem sendable_quit (ts : List Bytes) : Sendable (((handleQuit ts).disturbed env).run st).1.1 := by
  rcases ts with _ | ⟨command, _ | ⟨id, _ | ⟨more, ts⟩⟩⟩
  case cons.cons.nil => exact sendable_of_mem (by simp [handleQuit])
  all_goals exact sendable_of_mem (by simp [handleQuit])

/-- A REGISTER of a huge id succeeds exactly when its type is valid and there is a free slot. -/
theorem register_huge {id : Bytes} {type : SensorType} {g : GlobalState} (hid : hugeId ≤ id.length) :
    (stateRegisterSensor id type g).1 = .ok ↔ type ≠ .invalid ∧ g.freeSlot ≠ none := by
  have hlong : maxIdLen ≤ id.length := by
    simp only [hugeId, maxIdLen] at hid ⊢
    omega
  have hlost : g.slotOf id = none := slotOf_overlong hlong
  rcases stateRegisterSensor_cases id type g with ⟨ht, h⟩ | ⟨i, -, hs, -, -⟩ | ⟨i, -, hs, -, -⟩ |
    ⟨ht, -, hf, h⟩ | ⟨i, ht, -, hf, h⟩
  · rw [h]
    exact ⟨fun hok => (by cases hok), fun hvalid => absurd ht hvalid.1⟩
  · rw [hlost] at hs
    cases hs
  · rw [hlost] at hs
    cases hs
  · simp [h, hf]
  · simp [h, ht, hf]

theorem sendable_register (command id typeStr : Bytes) :
    Sendable (((handleRegister [command, id, typeStr]).disturbed env).run st).1 ↔
      ¬ (sensorTypeFromStr typeStr ≠ .invalid ∧ hugeId ≤ id.length ∧
        (env st.1 st.2).freeSlot ≠ none) := by
  unfold handleRegister
  by_cases htype : sensorTypeFromStr typeStr = .invalid
  · simp only [if_pos htype, Program.disturbed_pure, Program.run_pure]
    exact ⟨fun _ h => h.1 htype, fun _ => sendable_of_mem (by simp)⟩
  · simp only [if_neg htype, Program.disturbed_bind, Program.run_bind, Program.run_disturbed_call,
      Program.disturbed_pure, Program.run_pure]
    rw [sendable_registerReply]
    apply not_congr
    constructor
    · rintro ⟨hok, hid⟩
      exact ⟨htype, hid, ((register_huge hid).mp hok).2⟩
    · rintro ⟨-, hid, hfree⟩
      exact ⟨(register_huge hid).mpr ⟨htype, hfree⟩, hid⟩

/-- A line is answered unless it registers a huge id. -/
theorem sendable_line (line : Bytes) :
    Sendable (handledLine env line st).1.1 ↔ ¬ Unanswered env line st := by
  rw [unanswered_iff]
  unfold handledLine handleLine
  rcases tokenize line 8 with _ | ⟨command, args⟩
  · refine ⟨?_, fun _ => sendable_of_mem (by simp [handleTokens])⟩
    rintro - ⟨id, typeStr, htok, -⟩
    cases htok
  have hother (hne : command ≠ ascii "REGISTER")
      (hsend : Sendable (((handleTokens (command :: args)).disturbed env).run st).1.1) :
      Sendable (((handleTokens (command :: args)).disturbed env).run st).1.1 ↔
        ¬ ∃ id typeStr, command :: args = [ascii "REGISTER", id, typeStr] ∧
          sensorTypeFromStr typeStr ≠ .invalid ∧ hugeId ≤ id.length ∧
            (env st.1 st.2).freeSlot ≠ none := by
    refine ⟨?_, fun _ => hsend⟩
    rintro - ⟨id, typeStr, htok, -⟩
    exact hne (List.cons.inj htok).1
  rcases handleTokens_cases command args with ⟨hc, h⟩ | ⟨hc, h⟩ | ⟨hc, h⟩ | ⟨hc, h⟩ | ⟨hc, h⟩ |
    ⟨hc, h⟩
  · rw [h, staying_reply]
    rcases args with _ | ⟨id, _ | ⟨typeStr, _ | ⟨more, args⟩⟩⟩
    case cons.cons.nil =>
      rw [sendable_register]
      simp only [hc, List.cons.injEq, and_true, true_and, existsAndEq]
    all_goals
      refine ⟨?_, fun _ => sendable_of_mem (by simp [handleRegister])⟩
      rintro - ⟨id', typeStr', htok, -⟩
      cases htok
  · refine hother (by rw [hc]; decide) ?_
    rw [h, staying_reply]
    exact sendable_metric env st _
  · refine hother (by rw [hc]; decide) ?_
    rw [h, staying_reply]
    exact sendable_status env st _
  · refine hother (by rw [hc]; decide) ?_
    rw [h, staying_reply]
    exact sendable_ping env st _
  · refine hother (by rw [hc]; decide) ?_
    rw [h]
    exact sendable_quit env st _
  · refine hother ?_ ?_
    · rintro rfl
      simp at hc
    · rw [h]
      exact sendable_of_mem (by simp)

end Handlers

/-! ## One reply for each line -/

/-- The turns of a connection answer the lines one by one, a blank one with 400, and send nothing
in any turn after them. -/
def Paired : List Bytes → List Exchange → Prop
  | [], es => ∀ e ∈ es, sendLine e.resp = none
  | _ :: _, [] => False
  | l :: ls, e :: es => e.line = l ∧ (sendLine e.resp).isSome = true ∧
      (l = [] → e.resp = badRequest) ∧ Paired ls es

/-- The connection was left at a QUIT or at the end of the peer's stream. -/
def Finish.IsDue : Finish → Prop
  | .quit => True
  | .disconnected last => last.ended = true
  | .unfinished => False

structure Answered (lines : List Bytes) (t : Transcript) : Prop where
  paired : Paired lines t.exchanges
  due : t.finish.IsDue

/-- The texts in which a fragment is read. -/
def pieces (ending : Ending) : Nat → Bytes → List Bytes
  | 0, _ => []
  | n + 1, fragment =>
    if nextPiece ending fragment = [] then []
    else nextPiece ending fragment :: pieces ending n (fragment.drop lineRoom)

section Served
variable (env : Nat → GlobalState → GlobalState) (ending : Ending)

def AllUnanswered : List Bytes → Nat × GlobalState → Prop
  | [], _ => True
  | l :: ls, st => Unanswered env l st ∧ AllUnanswered ls (handledLine env l st).2

/-- No line is blank, too long or a huge REGISTER with room for it, and without a QUIT nothing
but such REGISTERs is left after the last newline. -/
def Served : List Bytes → Bytes → Nat × GlobalState → Prop
  | [], fragment, st => AllUnanswered env (pieces ending fragment.length fragment) st
  | l :: ls, fragment, st => l ≠ [] ∧ ¬ Unanswered env l st ∧
      if isQuit l then l.length ≤ lineRoom
      else l.length < lineRoom ∧ Served ls fragment (handledLine env l st).2

variable {env ending} {st : Nat × GlobalState} {line : Bytes}

theorem isSome_reply : (sendLine (handledLine env line st).1.1).isSome = true ↔
    ¬ Unanswered env line st := by
  rw [sendable_iff]
  exact sendable_line env st line

theorem reply_none : sendLine (handledLine env line st).1.1 = none ↔ Unanswered env line st := by
  rw [← not_iff_not, ← isSome_reply, Option.isSome_iff_ne_none]

/-- A REGISTER is not a QUIT. -/
theorem isQuit_of_unanswered (h : Unanswered env line st) : isQuit line = false := by
  obtain ⟨id, typeStr, htok, -⟩ := unanswered_iff.mp h
  unfold isQuit
  rw [htok]

theorem paired_nil_cons {e : Exchange} {es : List Exchange} :
    Paired [] (e :: es) ↔ sendLine e.resp = none ∧ Paired [] es := by
  simp only [Paired, List.forall_mem_cons]

theorem answered_nil_cons {e : Exchange} {es : List Exchange} {finish : Finish} :
    Answered [] ⟨e :: es, finish⟩ ↔ sendLine e.resp = none ∧ Answered [] ⟨es, finish⟩ := by
  constructor
  · intro h
    obtain ⟨hnone, hrest⟩ := paired_nil_cons.mp h.paired
    exact ⟨hnone, hrest, h.due⟩
  · rintro ⟨hnone, hrest⟩
    exact ⟨paired_nil_cons.mpr ⟨hnone, hrest.paired⟩, hrest.due⟩

theorem answered_cons_cons {l : Bytes} {ls : List Bytes} {e : Exchange} {es : List Exchange}
    {finish : Finish} (hl : l ≠ []) : Answered (l :: ls) ⟨e :: es, finish⟩ ↔
      e.line = l ∧ (sendLine e.resp).isSome = true ∧ Answered ls ⟨es, finish⟩ := by
  constructor
  · intro h
    obtain ⟨hline, hsome, -, hrest⟩ := h.paired
    exact ⟨hline, hsome, hrest, h.due⟩
  · rintro ⟨hline, hsome, hrest⟩
    exact ⟨⟨hline, hsome, fun hnil => absurd hnil hl, hrest.paired⟩, hrest.due⟩

/-- After the last newline nothing is answered exactly when every piece is a huge REGISTER. -/
theorem answered_fragment {n fuel : Nat} {bytes fragment : Bytes} (st : Nat × GlobalState)
    (h : split bytes = ([], fragment)) (hfuel : bytes.length < fuel) (hn : fragment.length ≤ n) :
    Answered [] (loopRun env fuel ⟨bytes, ending⟩ st).1 ↔
      AllUnanswered env (pieces ending n fragment) st := by
  induction fuel generalizing n bytes fragment st with
  | zero => omega
  | succ fuel ih =>
    by_cases hp : nextPiece ending fragment = []
    · obtain ⟨last, hstop, hended⟩ := loop_end env fuel ending st h hp
      have hpieces : pieces ending n fragment = [] := by
        cases n with
        | zero => rfl
        | succ n => rw [pieces, if_pos hp]
      rw [hstop, hpieces]
      exact ⟨fun _ => trivial, fun _ => ⟨fun e he => (by cases he), hended⟩⟩
    · obtain ⟨rest, hrest, hshorter, hbuf, hleft, hret⟩ := recvLine_piece ending h hp
      have hne : fragment ≠ [] := by
        rintro rfl
        apply hp
        cases ending <;> rfl
      have hpos : 0 < fragment.length := List.length_pos_iff.mpr hne
      obtain ⟨n, rfl⟩ : ∃ k, n = k + 1 := ⟨n - 1, by omega⟩
      rw [pieces, if_neg hp, AllUnanswered, ← reply_none]
      have hdrop : (fragment.drop lineRoom).length ≤ n := by
        simp only [List.length_drop, lineRoom]
        omega
      rw [← ih _ hrest (by omega) hdrop]
      cases hq : isQuit (nextPiece ending fragment) with
      | true =>
        have hanswered : ¬ sendLine (handledLine env (nextPiece ending fragment) st).1.1 = none := by
          intro hnone
          rw [isQuit_of_unanswered (reply_none.mp hnone)] at hq
          cases hq
        rw [loopRun_quit hret (by rw [hbuf]; exact hq), hbuf, answered_nil_cons]
        exact ⟨fun hno => absurd hno.1 hanswered, fun hno => absurd hno.1 hanswered⟩
      | false =>
        rw [loopRun_turn hret (by rw [hbuf]; exact hq), hbuf, hleft, answered_nil_cons]

theorem answered_iff_served {ls : List Bytes} {fragment bytes : Bytes} {fuel : Nat}
    (st : Nat × GlobalState) (h : split bytes = (ls, fragment)) (hfuel : bytes.length < fuel) :
    Answered (upToQuit ls) (loopRun env fuel ⟨bytes, ending⟩ st).1 ↔
      Served env ending ls fragment st := by
  induction ls generalizing bytes fuel st with
  | nil => exact answered_fragment st h hfuel (Nat.le_refl _)
  | cons l ls ih =>
    obtain ⟨fuel, rfl⟩ : ∃ k, fuel = k + 1 := ⟨fuel - 1, by omega⟩
    by_cases hl : l = []
    · subst hl
      obtain ⟨last, hstop, hended⟩ := loop_blank env fuel ending st h
      rw [hstop]
      constructor
      · intro hans
        have hdue : last.ended = true := hans.due
        rw [hended] at hdue
        cases hdue
      · exact fun hserved => absurd rfl hserved.1
    · rcases Nat.lt_trichotomy l.length lineRoom with hlen | hlen | hlen
      · cases hq : isQuit l with
        | true =>
          rw [loop_quit env fuel ending st h hl hlen.le hq, upToQuit, if_pos hq, answered_cons_cons hl,
            isSome_reply]
          simp only [Served, hq, if_true]
          constructor
          · exact fun hans => ⟨hl, hans.2.1, hlen.le⟩
          · exact fun hserved => ⟨trivial, hserved.2.1, fun e he => (by cases he), trivial⟩
        | false =>
          obtain ⟨rest, hrest, hshorter, hrun⟩ := loop_line env fuel ending st h hl hlen hq
          have hfuel' : rest.length < fuel := by omega
          have hih := ih (handledLine env l st).2 hrest hfuel'
          rw [hrun, upToQuit, if_neg (by rw [hq]; exact Bool.false_ne_true),
            answered_cons_cons hl, isSome_reply]
          simp only [Served, hq, Bool.false_eq_true, if_false]
          rw [← hih]
          constructor
          · exact fun hans => ⟨hl, hans.2.1, hlen, hans.2.2⟩
          · exact fun hserved => ⟨trivial, hserved.2.1, hserved.2.2.2⟩
      · cases hq : isQuit l with
        | true =>
          rw [loop_quit env fuel ending st h hl hlen.le hq, upToQuit, if_pos hq, answered_cons_cons hl,
            isSome_reply]
          simp only [Served, hq, if_true]
          constructor
          · exact fun hans => ⟨hl, hans.2.1, hlen.le⟩
          · exact fun hserved => ⟨trivial, hserved.2.1, fun e he => (by cases he), trivial⟩
        | false =>
          obtain ⟨fuel, rfl⟩ : ∃ k, fuel = k + 1 := by
            have hbytes : bytes ≠ [] := by
              rintro rfl
              cases h
            have := List.length_pos_iff.mpr hbytes
            exact ⟨fuel - 1, by omega⟩
          obtain ⟨last, hrun, hended⟩ := loop_full env fuel ending st h hlen hq
          rw [hrun]
          constructor
          · intro hans
            have hdue : last.ended = true := hans.due
            rw [hended] at hdue
            cases hdue
          · rintro ⟨-, -, hfits⟩
            rw [if_neg (by rw [hq]; exact Bool.false_ne_true)] at hfits
            omega
      · obtain ⟨e, es, hes, hline⟩ :=
          loop_long env fuel ending st h hlen
        constructor
        · intro hans
          have hpaired := hans.paired
          rw [hes, upToQuit] at hpaired
          split at hpaired <;> exact absurd hpaired.1 hline
        · rintro ⟨-, -, hfits⟩
          split at hfits <;> omega

end Served

/-- A connection that accepts every reply answers each line of its stream once, in order, and
stays open until a QUIT or the stream's end, exactly when its stream is served. -/
theorem answers_everyLine_iff (env : Nat → GlobalState → GlobalState) (s : Stream)
    (st : Nat × GlobalState) :
    Answered (upToQuit (split s.bytes).1)
        (((handleSensorConnection s).disturbed env).run st).1 ↔
      Served env s.ending (split s.bytes).1 (split s.bytes).2 st :=
  answered_iff_served st rfl (Nat.lt_succ_self _)

/-- A blank line closes the connection: neither it nor the PING after it is answered. -/
theorem unanswered_blankLine : ∃ t g,
    (handleSensorConnection ⟨ascii "\nPING s1\n", .closed⟩).run stateInit = (t, g) ∧
      t.exchanges = [] ∧ ¬ Answered (upToQuit (split (ascii "\nPING s1\n")).1) t := by
  have hlines : upToQuit (split (ascii "\nPING s1\n")).1 = [[], ascii "PING s1"] := by
    decide +kernel
  refine ⟨_, _, rfl, by decide +kernel, ?_⟩
  rw [hlines]
  exact fun hans => hans.paired

end IotMonitoring
