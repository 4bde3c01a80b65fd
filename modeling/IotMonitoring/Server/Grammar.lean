import IotMonitoring.Server.SensorHandler

/-!
# The grammar of the commands

A line is one of five commands with their numbers of words, or it is malformed.
The tokenizer keeps at most eight words, which is more than any command has, so
a line with more of them is malformed either way.
-/

namespace IotMonitoring

open ByteStrings
set_option autoImplicit false

inductive CommandName where
  | register | metric | status | ping | quit
deriving DecidableEq

namespace CommandName

def text : CommandName → Bytes
  | register => ascii "REGISTER"
  | metric => ascii "METRIC"
  | status => ascii "STATUS"
  | ping => ascii "PING"
  | quit => ascii "QUIT"

/-- The number of words of a well-formed line, the command included. -/
def arity : CommandName → Nat
  | register => 3
  | metric => 4
  | status => 2
  | ping => 2
  | quit => 2

def handler : CommandName → List Bytes → Program GlobalState (Bytes × Bool)
  | register, tokens => staying (handleRegister tokens)
  | metric, tokens => staying (handleMetric tokens)
  | status, tokens => staying (handleStatus tokens)
  | ping, tokens => staying (handlePing tokens)
  | quit, tokens => handleQuit tokens

theorem text_injective {c c' : CommandName} (h : c.text = c'.text) : c = c' := by
  revert h
  cases c <;> cases c' <;> decide

end CommandName

/-- The words of a line: the runs of bytes other than blanks before the first zero byte. -/
def words (line : Bytes) : List Bytes := runs isBlank (cString line)

def Malformed (w : List Bytes) : Prop :=
  w = [] ∨ (∀ c : CommandName, w.head? ≠ some c.text) ∨
    ∃ c : CommandName, w.head? = some c.text ∧ w.length ≠ c.arity

theorem tokenize_words_take (line : Bytes) (maxTokens : Nat) :
    tokenize line maxTokens = (words line).take maxTokens := tokens_eq_runs maxTokens (cString line)

/-! ## One command -/

theorem handleTokens_command (c : CommandName) (args : List Bytes) :
    handleTokens (c.text :: args) = c.handler (c.text :: args) := by
  cases c <;> rfl

theorem handleTokens_unknown {command : Bytes} {args : List Bytes}
    (h : ∀ c : CommandName, command ≠ c.text) :
    handleTokens (command :: args) = pure (badRequest, false) := by
  rcases handleTokens_cases command args with hc | hc | hc | hc | hc | hc
  · exact absurd hc.1 (h .register)
  · exact absurd hc.1 (h .metric)
  · exact absurd hc.1 (h .status)
  · exact absurd hc.1 (h .ping)
  · exact absurd hc.1 (h .quit)
  · exact hc.2

theorem handler_of_length_ne {c : CommandName} {w : List Bytes} (h : w.length ≠ c.arity) :
    c.handler w = pure (badRequest, false) := by
  cases c with
  | register =>
    simp only [CommandName.handler, handleRegister]
    split
    · exact absurd rfl h
    · rfl
  | metric =>
    simp only [CommandName.handler, handleMetric]
    split
    · exact absurd rfl h
    · rfl
  | status =>
    simp only [CommandName.handler, handleStatus]
    split
    · exact absurd rfl h
    · rfl
  | ping =>
    simp only [CommandName.handler, handlePing]
    split
    · exact absurd rfl h
    · rfl
  | quit =>
    simp only [CommandName.handler, handleQuit]
    split
    · exact absurd rfl h
    · rfl

theorem pure_ne_badRequest {resp : Bytes} {exit : Bool} (h : resp ≠ badRequest) :
    (pure (resp, exit) : Program GlobalState (Bytes × Bool)) ≠ pure (badRequest, false) := by
  intro heq
  injection heq with heq
  injection heq with heq
  exact h heq

/-- A handler given the right number of words replies something else, or reads the state first. -/
theorem handler_of_length_eq {c : CommandName} {w : List Bytes} (h : w.length = c.arity) :
    c.handler w ≠ pure (badRequest, false) := by
  cases c with
  | register =>
    obtain ⟨command, sensorId, typeStr, rfl⟩ := List.length_eq_three.mp h
    simp only [CommandName.handler, handleRegister]
    split
    · exact pure_ne_badRequest (by decide)
    · intro heq
      cases heq
  | metric =>
    obtain ⟨command, args, rfl⟩ := List.exists_of_length_succ w h
    obtain ⟨sensorId, valueStr, timestamp, rfl⟩ := List.length_eq_three.mp (Nat.succ.inj h)
    intro heq
    cases heq
  | status =>
    obtain ⟨command, sensorId, rfl⟩ := List.length_eq_two.mp h
    intro heq
    cases heq
  | ping =>
    obtain ⟨command, sensorId, rfl⟩ := List.length_eq_two.mp h
    exact pure_ne_badRequest (by decide)
  | quit =>
    obtain ⟨command, sensorId, rfl⟩ := List.length_eq_two.mp h
    intro heq
    cases heq

/-! ## One line -/

theorem handleTokens_malformed_iff (w : List Bytes) :
    handleTokens w = pure (badRequest, false) ↔ Malformed w := by
  cases w with
  | nil => exact ⟨fun _ => Or.inl rfl, fun _ => rfl⟩
  | cons command args =>
    by_cases hknown : ∃ c : CommandName, command = c.text
    · obtain ⟨c, rfl⟩ := hknown
      rw [handleTokens_command]
      by_cases hlen : (c.text :: args).length = c.arity
      · refine ⟨fun h => absurd h (handler_of_length_eq hlen), ?_⟩
        rintro (hnil | hunknown | ⟨c', htext, hne⟩)
        · cases hnil
        · exact absurd rfl (hunknown c)
        · have hc : c = c' := by
            injection htext with htext
            exact CommandName.text_injective htext
          exact absurd hlen (hc ▸ hne)
      · exact ⟨fun _ => Or.inr (Or.inr ⟨c, rfl, hlen⟩), fun _ => handler_of_length_ne hlen⟩
    · have hunknown : ∀ c : CommandName, command ≠ c.text := fun c hc => hknown ⟨c, hc⟩
      refine ⟨fun _ => Or.inr (Or.inl fun c hc => hunknown c ?_), fun _ => handleTokens_unknown hunknown⟩
      injection hc

/-- Dropping the words behind the eighth changes nothing: no command has that many. -/
theorem handleTokens_take (w : List Bytes) : handleTokens (w.take 8) = handleTokens w := by
  by_cases hlen : w.length ≤ 8
  · rw [List.take_of_length_le hlen]
  · have hmalformed : ∀ v : List Bytes, v.head? = w.head? → 8 ≤ v.length → Malformed v := by
      intro v hhead hv
      by_cases hknown : ∃ c : CommandName, v.head? = some c.text
      · obtain ⟨c, hc⟩ := hknown
        refine Or.inr (Or.inr ⟨c, hc, ?_⟩)
        have harity : c.arity ≤ 4 := by cases c <;> decide
        omega
      · exact Or.inr (Or.inl fun c hc => hknown ⟨c, hc⟩)
    have hcut : Malformed (w.take 8) := by
      apply hmalformed
      · rw [List.head?_take, if_neg (by decide)]
      · rw [List.length_take]
        omega
    have hall : Malformed w := hmalformed w rfl (by omega)
    rw [(handleTokens_malformed_iff _).mpr hcut, (handleTokens_malformed_iff _).mpr hall]

/-- For every line: it is rejected for its shape exactly when its words are malformed, otherwise
the handler of its command gets all of them, and the cap on their number changes nothing. -/
theorem handleLine_grammar (line : Bytes) :
    (handleLine line = pure (badRequest, false) ↔ Malformed (words line)) ∧
    (¬ Malformed (words line) → ∃ c : CommandName,
      words line = c.text :: (words line).drop 1 ∧
        handleLine line = c.handler (c.text :: (words line).drop 1)) ∧
    handleLine line = handleTokens (words line) := by
  have hline : handleLine line = handleTokens (words line) := by
    rw [handleLine, tokenize_words_take, handleTokens_take]
  refine ⟨?_, ?_, hline⟩
  · rw [hline, handleTokens_malformed_iff]
  · intro hshape
    rw [hline]
    cases hw : words line with
    | nil => exact absurd (Or.inl hw) hshape
    | cons command args =>
      by_cases hknown : ∃ c : CommandName, command = c.text
      · obtain ⟨c, rfl⟩ := hknown
        exact ⟨c, rfl, handleTokens_command c args⟩
      · refine absurd (Or.inr (Or.inl fun c hc => hknown ⟨c, ?_⟩)) hshape
        rw [hw] at hc
        injection hc

end IotMonitoring
