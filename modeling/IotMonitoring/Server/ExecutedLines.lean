import IotMonitoring.Server.Framing

/-!
# Which commands a stream executes

The lines a connection executes are the whole lines of its stream, up to the
first QUIT, exactly when each of them is neither blank nor too long for the
buffer and no text is left after the last newline.
-/

namespace IotMonitoring

open ByteStrings Binary64
set_option autoImplicit false

/-- Every line has 1 to 4094 bytes, the QUIT that ends the session up to 4095, and without a QUIT
nothing follows the last newline. A last line of 4095 bytes closes the connection by itself. -/
def Framed : List Bytes → Bytes → Prop
  | [], fragment => fragment = []
  | l :: ls, fragment => l ≠ [] ∧
      if isQuit l then l.length ≤ lineRoom
      else l.length < lineRoom ∧ Framed ls fragment ∨ l.length = lineRoom ∧ ls = []

instance decidableFramed : ∀ (ls : List Bytes) (fragment : Bytes), Decidable (Framed ls fragment)
  | [], fragment => inferInstanceAs (Decidable (fragment = []))
  | l :: ls, fragment =>
    have := decidableFramed ls fragment
    inferInstanceAs (Decidable (l ≠ [] ∧ if isQuit l then l.length ≤ lineRoom
      else l.length < lineRoom ∧ Framed ls fragment ∨ l.length = lineRoom ∧ ls = []))

section Executed
variable (env : Nat → GlobalState → GlobalState)

def executedLines (t : Transcript) : List Bytes := t.exchanges.map (·.line)

theorem executedLines_cons (e : Exchange) (es : List Exchange) (finish : Finish) :
    executedLines ⟨e :: es, finish⟩ = e.line :: executedLines ⟨es, finish⟩ := rfl

theorem executed_fragment {fuel : Nat} {bytes fragment : Bytes} (st : Nat × GlobalState)
    (h : split bytes = ([], fragment)) (hfuel : bytes.length < fuel) :
    executedLines (loopRun env fuel ⟨bytes, .closed⟩ st).1 = [] ↔ fragment = [] := by
  obtain ⟨fuel, rfl⟩ : ∃ k, fuel = k + 1 := ⟨fuel - 1, by omega⟩
  constructor
  · intro hnone
    by_contra hf
    have hp : nextPiece .closed fragment ≠ [] := fun hnil => hf (nextPiece_closed.mp hnil)
    obtain ⟨rest, -, -, -, -, hret⟩ := recvLine_piece .closed h hp
    obtain ⟨e, es, hes, -⟩ := loop_first env fuel .closed st hret
    rw [executedLines, hes] at hnone
    cases hnone
  · rintro rfl
    obtain ⟨last, hstop, -⟩ := loop_end env fuel .closed st h (nextPiece_closed.mpr rfl)
    rw [hstop]
    rfl

theorem executed_iff_framed {ls : List Bytes} {fragment bytes : Bytes} {fuel : Nat}
    (st : Nat × GlobalState) (h : split bytes = (ls, fragment)) (hfuel : bytes.length < fuel) :
    executedLines (loopRun env fuel ⟨bytes, .closed⟩ st).1 = upToQuit ls ↔ Framed ls fragment := by
  induction ls generalizing bytes fuel st with
  | nil => exact executed_fragment env st h hfuel
  | cons l ls ih =>
    obtain ⟨fuel, rfl⟩ : ∃ k, fuel = k + 1 := ⟨fuel - 1, by omega⟩
    by_cases hl : l = []
    · subst hl
      obtain ⟨last, hstop, -⟩ := loop_blank env fuel .closed st h
      rw [hstop]
      have hne : upToQuit ([] :: ls) ≠ [] := fun hnil => by cases upToQuit_eq_nil_iff.mp hnil
      exact ⟨fun heq => absurd heq.symm hne, fun hf => absurd rfl hf.1⟩
    · rcases Nat.lt_trichotomy l.length lineRoom with hlen | hlen | hlen
      · cases hq : isQuit l with
        | true =>
          rw [loop_quit env fuel .closed st h hl hlen.le hq]
          simp only [Framed, upToQuit, hq, if_true]
          exact ⟨fun _ => ⟨hl, hlen.le⟩, fun _ => rfl⟩
        | false =>
          obtain ⟨rest, hrest, hshorter, hrun⟩ := loop_line env fuel .closed st h hl hlen hq
          have hfuel' : rest.length < fuel := by omega
          have hih := ih (handledLine env l st).2 hrest hfuel'
          rw [hrun, executedLines_cons, upToQuit, if_neg (by rw [hq]; exact Bool.false_ne_true)]
          simp only [Framed, hq, Bool.false_eq_true, if_false, List.cons.injEq, true_and]
          rw [← hih]
          constructor
          · exact fun heq => ⟨hl, Or.inl ⟨hlen, heq⟩⟩
          · rintro ⟨-, ⟨-, heq⟩ | ⟨hfull, -⟩⟩
            · exact heq
            · omega
      · cases hq : isQuit l with
        | true =>
          rw [loop_quit env fuel .closed st h hl hlen.le hq]
          simp only [Framed, upToQuit, hq, if_true]
          exact ⟨fun _ => ⟨hl, hlen.le⟩, fun _ => rfl⟩
        | false =>
          obtain ⟨fuel, rfl⟩ : ∃ k, fuel = k + 1 := by
            have hbytes : bytes ≠ [] := by
              rintro rfl
              cases h
            have := List.length_pos_iff.mpr hbytes
            exact ⟨fuel - 1, by omega⟩
          obtain ⟨last, hrun, -⟩ := loop_full env fuel .closed st h hlen hq
          rw [hrun, executedLines_cons, upToQuit, if_neg (by rw [hq]; exact Bool.false_ne_true)]
          simp only [Framed, hq, Bool.false_eq_true, if_false, List.cons.injEq, true_and]
          have hempty : executedLines ⟨[], .disconnected last⟩ = upToQuit ls ↔ ls = [] :=
            ⟨fun heq => upToQuit_eq_nil_iff.mp heq.symm, fun hls => by rw [hls]; rfl⟩
          rw [hempty]
          constructor
          · exact fun hls => ⟨hl, Or.inr ⟨hlen, hls⟩⟩
          · rintro ⟨-, ⟨hshort, -⟩ | ⟨-, hls⟩⟩
            · omega
            · exact hls
      · obtain ⟨e, es, hes, hline⟩ :=
          loop_long env fuel .closed st h hlen
        have hfirst : upToQuit (l :: ls) = l :: (upToQuit (l :: ls)).tail := by
          unfold upToQuit
          split <;> rfl
        rw [executedLines, hes, hfirst]
        constructor
        · exact fun heq => absurd (List.cons.inj heq).1 hline
        · rintro ⟨-, hf⟩
          split at hf
          · omega
          · rcases hf with ⟨hshort, -⟩ | ⟨hfull, -⟩ <;> omega

end Executed

/-- A closed stream executes exactly its whole lines up to the first QUIT, and changes the state by
them alone, exactly when it is well framed. Other connections may move the state in between. -/
theorem executes_wholeLines_iff (env : Nat → GlobalState → GlobalState) (bytes : Bytes)
    (st : Nat × GlobalState) :
    (executedLines (((handleSensorConnection ⟨bytes, .closed⟩).disturbed env).run st).1 =
        upToQuit (split bytes).1 ∧
      (((handleSensorConnection ⟨bytes, .closed⟩).disturbed env).run st).2 =
        linesState env (upToQuit (split bytes).1) st) ↔
      Framed (split bytes).1 (split bytes).2 := by
  have hiff := executed_iff_framed env st (rfl : split bytes = (_, _)) (Nat.lt_succ_self _)
  rw [← hiff]
  constructor
  · exact fun h => h.1
  · intro h
    refine ⟨h, ?_⟩
    rw [← h]
    exact loopRun_state env (bytes.length + 1) ⟨bytes, .closed⟩ st

/-- A QUIT cut off before its newline is executed for the shorter id. -/
theorem executes_fragment : ∃ t g, (handleSensorConnection ⟨ascii "REGISTER s1 TEMP\nQUIT s1",
      .closed⟩).run stateInit = (t, g) ∧
    executedLines t ≠ upToQuit (split (ascii "REGISTER s1 TEMP\nQUIT s1")).1 ∧
      (g.sensors 0).status = .inactive := by
  refine ⟨_, _, rfl, ?_, ?_⟩ <;> decide +kernel

end IotMonitoring
