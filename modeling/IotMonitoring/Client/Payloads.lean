import IotMonitoring.Client.SensorClient
import IotMonitoring.Server.SensorHandler

/-!
# Payloads and the lines they are read as

Words without line ends, blanks and zero bytes survive encoding, framing and
tokenizing: joined by spaces and ended by a newline they are read as one line,
whatever follows, and taken apart into the same words.
-/

namespace IotMonitoring

open ByteStrings Binary64 UnicodeTexts
set_option autoImplicit false

/-- `recv_line` reads the payload as this line and nothing beyond it. -/
def ReadAs (payload line : Bytes) : Prop :=
  ∀ following ending, recvLine bufferSize ⟨payload ++ following, ending⟩ =
    ⟨line.length, line, following, false⟩

/-- A line that fills the buffer leaves something of itself behind. -/
theorem recvLoop_overfull {capacity : Nat} {ending : Ending} {line following : Bytes} (buf : Bytes)
    (hclean : ∀ c ∈ line, c ≠ newline ∧ c ≠ carriageReturn)
    (hfull : capacity ≤ buf.length + line.length) : following.length <
      (recvLoop capacity ending buf (line ++ newline :: following)).rest.length := by
  induction line generalizing buf with
  | nil =>
    rw [List.nil_append, recvLoop_filled hfull]
    exact Nat.lt_succ_self _
  | cons c cs ih =>
    rcases Nat.lt_or_ge buf.length capacity with hbuf | hbuf
    · obtain ⟨hnl, hcr⟩ := hclean c List.mem_cons_self
      rw [List.cons_append, recvLoop_cons hbuf hnl hcr]
      apply ih (buf ++ [c]) fun d hd => hclean d (List.mem_cons_of_mem c hd)
      simp only [List.length_cons, List.length_append, List.length_nil] at hfull ⊢
      omega
    · rw [recvLoop_filled hbuf]
      simp only [List.length_append, List.length_cons]
      omega

theorem readAs_line {line : Bytes} (hclean : ∀ c ∈ line, c ≠ newline ∧ c ≠ carriageReturn)
    (hlen : line.length + 1 < bufferSize) : ReadAs (line ++ [newline]) line := by
  intro following ending
  have hfilter : line.filter (· ≠ carriageReturn) = line :=
    List.filter_eq_self.mpr fun c hc => decide_eq_true (hclean c hc).2
  have hread := @recvLine_payload ending line following (fun h => (hclean newline h).1 rfl)
  rw [hfilter] at hread
  rw [List.append_assoc, List.singleton_append, hread hlen]

theorem ReadAs.fits {line line' : Bytes} (h : ReadAs (line ++ [newline]) line')
    (hclean : ∀ c ∈ line, c ≠ newline ∧ c ≠ carriageReturn) : line.length + 1 < bufferSize := by
  by_contra hnot
  have hread := h [] .closed
  have hleft := @recvLoop_overfull (bufferSize - 1) .closed line [] [] hclean (by
    simp only [List.length_nil]
    omega)
  rw [List.append_nil, recvLine_bufferSize] at hread
  simp only [hread] at hleft
  exact Nat.lt_irrefl _ hleft

theorem ReadAs.isLine {payload line : Bytes} (h : ReadAs payload line) (hne : line ≠ []) :
    IsLine line := by
  have hread := h [] .closed
  have hret : ¬ (recvLine bufferSize ⟨payload ++ [], .closed⟩).ret ≤ 0 := by
    have hpos := List.length_pos_of_ne_nil hne
    have hnot : ¬ (line.length : Int) ≤ 0 := by omega
    rw [hread]
    exact hnot
  have hline := recvLine_isLine hret
  rw [hread] at hline
  exact hline

theorem ReadAs.unique {payload line line' : Bytes} (h : ReadAs payload line)
    (h' : ReadAs payload line') : line = line' := by
  have hread := (h [] .closed).symm.trans (h' [] .closed)
  exact (Received.mk.inj hread).2.1

/-- A word that no byte of ends a line, a token or a string. -/
structure WireWord (w : Bytes) : Prop where
  nonempty : w ≠ []
  clean : ∀ c ∈ w, c ∉ [(0 : UInt8), 9, newline, carriageReturn, space]

theorem WireWord.isWord {w : Bytes} (h : WireWord w) : IsWord isBlank w ∧ (0 : UInt8) ∉ w := by
  refine ⟨⟨h.nonempty, fun c hc => ?_⟩, fun hz => h.clean 0 hz (by decide)⟩
  have hnot := h.clean c hc
  simp only [List.mem_cons, List.not_mem_nil, or_false, not_or] at hnot
  obtain ⟨-, htab, -, -, hspace⟩ := hnot
  simp only [isBlank, beq_eq_false_iff_ne.mpr hspace, beq_eq_false_iff_ne.mpr htab, Bool.or_self]

theorem WireWord.lineEnds {w : Bytes} (h : WireWord w) :
    ∀ c ∈ w, c ≠ newline ∧ c ≠ carriageReturn := by
  intro c hc
  have hnot := h.clean c hc
  simp only [List.mem_cons, List.not_mem_nil, or_false, not_or] at hnot
  exact ⟨hnot.2.2.1, hnot.2.2.2.1⟩

theorem wireWord_of_visible {w : Bytes} (hne : w ≠ []) (h : ∀ c ∈ w, 32 < c) : WireWord w where
  nonempty := hne
  clean := by
    intro c hc hmem
    have hlow : ∀ d ∈ [(0 : UInt8), 9, newline, carriageReturn, space], ¬ 32 < d := by decide
    exact hlow c hmem (h c hc)

theorem wireWord_type {type : SensorType} : WireWord (sensorTypeToStr type) := by
  have hall : ∀ type, sensorTypeToStr type ≠ [] ∧ ∀ c ∈ sensorTypeToStr type, 32 < c := by
    intro type
    cases type <;> decide
  exact wireWord_of_visible (hall type).1 (hall type).2

theorem WireWord.take {w : Bytes} (h : WireWord w) {k : Nat} (hk : 0 < k) : WireWord (w.take k) where
  nonempty := by
    obtain ⟨c, cs, rfl⟩ := List.exists_cons_of_ne_nil h.nonempty
    obtain ⟨k, rfl⟩ : ∃ j, k = j + 1 := ⟨k - 1, by omega⟩
    exact List.cons_ne_nil _ _
  clean := fun c hc => h.clean c (List.mem_of_mem_take hc)

/-- The tokens of a received line can be sent back in one. -/
theorem wireWord_token {line w : Bytes} (hline : IsLine line) (hw : w ∈ tokenize line 8) :
    WireWord w where
  nonempty := (tokens_spec hw).1.nonempty
  clean := by
    intro c hc hmem
    have hblank := (tokens_spec hw).1.clean c hc
    have hends := hline.clean c ((List.takeWhile_sublist _).subset ((tokens_spec hw).2 hc))
    simp only [List.mem_cons, List.not_mem_nil, or_false] at hmem
    rcases hmem with rfl | rfl | rfl | rfl | rfl
    · exact tokenize_zero_notMem hw hc
    · cases hblank
    · exact hends.1 rfl
    · exact hends.2 rfl
    · cases hblank

section
variable {ws : List Bytes}

theorem joinWords_clean (hws : ∀ w ∈ ws, WireWord w) :
    ∀ c ∈ joinWords space ws, c ≠ newline ∧ c ≠ carriageReturn := by
  intro c hc
  rcases mem_joinWords hc with rfl | ⟨w, hw, hcw⟩
  · decide
  · exact (hws w hw).lineEnds c hcw

/-- The words of a command reach the server as they are. -/
theorem words_heard (hws : ∀ w ∈ ws, WireWord w) (hcount : ws.length ≤ 8)
    (hlen : (joinWords space ws).length + 1 < bufferSize) :
    ReadAs (joinWords space ws ++ [newline]) (joinWords space ws) ∧
      tokenize (joinWords space ws) 8 = ws := by
  constructor
  · exact readAs_line (joinWords_clean hws) hlen
  · exact tokenize_words (fun w hw => (hws w hw).isWord) hcount

end

/-! ## Payloads -/

theorem Platform.encode_some (p : Platform) {t : Text} {b : Bytes} (h : UnicodeTexts.encode t = some b) :
    p.encode t = some b := by
  cases p with
  | python => exact h
  | java jvm => exact congrArg some (encodeReplacing_eq h)

theorem encode_ascii {s : Bytes} (hs : ∀ c ∈ s, c < 128) {t : Text} {b : Bytes}
    (ht : UnicodeTexts.encode t = some b) : UnicodeTexts.encode (ofAscii s ++ t) = some (s ++ b) :=
  encode_append_some (encode_ofAscii hs) ht

namespace SensorClient
variable (c : SensorClient) {name : Bytes}

theorem sendCommand_some {command : Text} {line : Bytes}
    (h : UnicodeTexts.encode command = some line) :
    c.sendCommand command = some (line ++ [newline]) := by
  apply c.platform.encode_some
  apply encode_append_some h
  exact encode_ofAscii (by decide)

variable (hname : UnicodeTexts.encode c.sensorId = some name)
include hname

theorem register_some : c.register =
    some (joinWords space [ascii "REGISTER", name, sensorTypeToStr c.sensorType] ++ [newline]) := by
  have htype : ∀ type, ∀ b ∈ sensorTypeToStr type, b < 128 := by
    intro type
    cases type <;> decide
  have hcommand := encode_append_some (encode_append_some (encode_append_some
    (encode_ofAscii (b := ascii "REGISTER ") (by decide)) hname)
    (encode_ofAscii (b := ascii " ") (by decide))) (encode_ofAscii (htype c.sensorType))
  have hline : ascii "REGISTER " ++ name ++ ascii " " ++ sensorTypeToStr c.sensorType =
      joinWords space [ascii "REGISTER", name, sensorTypeToStr c.sensorType] := by
    simp only [joinWords, List.append_assoc]
    rfl
  rw [register, c.sendCommand_some hcommand, hline]

theorem sendStatus_some : c.sendStatus =
    some (joinWords space [ascii "STATUS", name] ++ [newline]) :=
  c.sendCommand_some (encode_ascii (s := ascii "STATUS ") (by decide) hname)

theorem sendPing_some : c.sendPing = some (joinWords space [ascii "PING", name] ++ [newline]) :=
  c.sendCommand_some (encode_ascii (s := ascii "PING ") (by decide) hname)

theorem sendQuit_some : c.sendQuit = some (joinWords space [ascii "QUIT", name] ++ [newline]) :=
  c.sendCommand_some (encode_ascii (s := ascii "QUIT ") (by decide) hname)

theorem sendMetric_some {value : Double} {number timestamp : Bytes}
    (hnumber : UnicodeTexts.encode (c.platform.fixed2 value) = some number)
    (htime : ∀ b ∈ timestamp, b < 128) : c.sendMetric value timestamp =
      some (joinWords space [ascii "METRIC", name, number, timestamp] ++ [newline]) := by
  have hcommand := encode_append_some (encode_append_some (encode_append_some (encode_append_some
    (encode_append_some (encode_ofAscii (b := ascii "METRIC ") (by decide)) hname)
    (encode_ofAscii (b := ascii " ") (by decide))) hnumber)
    (encode_ofAscii (b := ascii " ") (by decide))) (encode_ofAscii htime)
  have hline : ascii "METRIC " ++ name ++ ascii " " ++ number ++ ascii " " ++ timestamp =
      joinWords space [ascii "METRIC", name, number, timestamp] := by
    simp only [joinWords, List.append_assoc]
    rfl
  rw [sendMetric, c.sendCommand_some hcommand, hline]

end SensorClient

/-! ## Timestamps -/

theorem isValidTimestamp_digits (a b c d e f g h i j k l m n : UInt8) :
    isValidTimestamp [a, b, c, d, 45, e, f, 45, g, h, 84, i, j, 58, k, l, 58, m, n, 90] =
      [a, b, c, d, e, f, g, h, i, j, k, l, m, n].all isDigit := by
  have hrange : List.range 20 =
      [0, 1, 2, 3, 4, 5, 6, 7, 8, 9, 10, 11, 12, 13, 14, 15, 16, 17, 18, 19] := rfl
  simp only [isValidTimestamp, timestampMarks, hrange, List.all_cons, List.all_nil, List.any_cons,
    List.any_nil, List.length_cons, List.length_nil, List.getD_cons_succ, List.getD_cons_zero,
    beq_self_eq_true, Bool.true_and, Bool.and_true, Nat.reduceAdd, Nat.reduceBEq, Bool.or_false,
    Bool.false_or, Bool.true_or]

theorem twoDigits_all {n : Nat} (hn : n < 100) : (twoDigits n).all isDigit = true := by
  simp only [twoDigits, List.all_cons, List.all_nil, isDigit_digitByte (show n / 10 < 10 by omega),
    isDigit_digitByte (show n % 10 < 10 by omega), Bool.and_self]

/-- The timestamps of the clients have the form the server asks for. -/
theorem utcTimestamp_valid (now : Instant) : isValidTimestamp (utcTimestamp now) = true := by
  have hfields : isValidTimestamp (utcTimestamp now) =
      (twoDigits (now.year / 100) ++ twoDigits (now.year % 100) ++ twoDigits now.month ++
        twoDigits now.day ++ twoDigits now.hour ++ twoDigits now.minute ++
        twoDigits now.second).all isDigit := isValidTimestamp_digits _ _ _ _ _ _ _ _ _ _ _ _ _ _
  have hyear := now.year_range
  have hmonth := now.month_range
  have hday := now.day_range
  have hhour := now.hour_lt
  have hminute := now.minute_lt
  have hsecond := now.second_lt
  rw [hfields]
  simp only [List.all_append, Bool.and_eq_true]
  refine ⟨⟨⟨⟨⟨⟨?_, ?_⟩, ?_⟩, ?_⟩, ?_⟩, ?_⟩, ?_⟩ <;> apply twoDigits_all <;> omega

theorem utcTimestamp_bytes {now : Instant} {c : UInt8} (hc : c ∈ utcTimestamp now) :
    32 < c ∧ c < 128 := by
  have hdigits : ∀ n, n < 100 → ∀ b ∈ twoDigits n, 32 < b ∧ b < 128 := by
    intro n hn b hb
    obtain ⟨hlow, hhigh⟩ := isDigit_bounds (List.all_eq_true.mp (twoDigits_all hn) b hb)
    exact ⟨UInt8.lt_of_lt_of_le (by decide) hlow, UInt8.lt_of_le_of_lt hhigh (by decide)⟩
  have hmarks : ∀ s ∈ [ascii "-", ascii "T", ascii ":", ascii "Z"], ∀ b ∈ s, 32 < b ∧ b < 128 := by
    decide
  have hyear := now.year_range
  have hmonth := now.month_range
  have hday := now.day_range
  have hhour := now.hour_lt
  have hminute := now.minute_lt
  have hsecond := now.second_lt
  simp only [utcTimestamp, List.mem_append] at hc
  rcases hc with (((((((((((hc | hc) | hc) | hc) | hc) | hc) | hc) | hc) | hc) | hc) | hc) | hc) | hc
  · exact hdigits _ (by omega) c hc
  · exact hdigits _ (by omega) c hc
  · exact hmarks (ascii "-") (by simp) c hc
  · exact hdigits _ (by omega) c hc
  · exact hmarks (ascii "-") (by simp) c hc
  · exact hdigits _ (by omega) c hc
  · exact hmarks (ascii "T") (by simp) c hc
  · exact hdigits _ (by omega) c hc
  · exact hmarks (ascii ":") (by simp) c hc
  · exact hdigits _ (by omega) c hc
  · exact hmarks (ascii ":") (by simp) c hc
  · exact hdigits _ (by omega) c hc
  · exact hmarks (ascii "Z") (by simp) c hc

end IotMonitoring
