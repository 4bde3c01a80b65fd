import IotMonitoring.Client.Readings
import IotMonitoring.Server.Clients
import IotMonitoring.Server.LineRuns
import IotMonitoring.Server.TableShape

/-!
# The name a client gives and the name the server hears

Neither client looks at its id beyond a test for blankness, so the id decides
whether the commands built from it survive framing and tokenizing, and its
length whether the sensor registered under it can be found.
-/

namespace IotMonitoring

open ByteStrings Binary64 UnicodeTexts
set_option autoImplicit false

/-- The payload is read as one line, which is taken apart into this many words: the command, the
name, and what else the command needs. -/
def CommandHeard (payload : Option Bytes) (command name : Bytes) (count : Nat) : Prop :=
  ∃ bytes line, payload = some bytes ∧ ReadAs bytes line ∧
    (tokenize line 8).head? = some command ∧ (tokenize line 8)[1]? = some name ∧
    (tokenize line 8).length = count

/-- After the line, a REGISTER, is answered 200 the sensor of that name is found from then on. -/
def FoundAfter (line name : Bytes) : Prop :=
  ∀ (n : Nat) (s s' : System n) actions k resp, Runs.run System.step (System.init n) actions = some s →
    s.conn k = .busy (.start (tokenize line 8)) → s.step (.proceed k) = some s' →
    s'.log.head? = some (.answered k resp) → accepted resp = true →
    ∃ i, ∀ more t, Runs.run System.step s' more = some t → t.g.slotOf name = some i

/-- Every command of the client is heard under the name that its id encodes, and a registered
sensor is found under it. -/
structure Heard (c : SensorClient) (name : Bytes) : Prop where
  encoded : UnicodeTexts.encode c.sensorId = some name
  register : CommandHeard c.register (ascii "REGISTER") name 3
  metric : ∀ d value now, c.generateValue d = some value →
    CommandHeard (c.sendMetric value (utcTimestamp now)) (ascii "METRIC") name 4
  status : CommandHeard c.sendStatus (ascii "STATUS") name 2
  ping : CommandHeard c.sendPing (ascii "PING") name 2
  quit : CommandHeard c.sendQuit (ascii "QUIT") name 2
  found : ∀ bytes line, c.register = some bytes → ReadAs bytes line → FoundAfter line name

/-- An id whose bytes survive framing and tokenizing, and fit their field. -/
def Speakable (id : Text) : Prop :=
  ∃ name, UnicodeTexts.encode id = some name ∧ WireWord name ∧ name.length < maxIdLen

theorem commandHeard_words {command name : Bytes} {args : List Bytes} {payload : Option Bytes}
    (hpayload : payload = some (joinWords space (command :: name :: args) ++ [newline]))
    (hcommand : WireWord command) (hname : WireWord name) (hargs : ∀ w ∈ args, WireWord w)
    (hcount : args.length ≤ 6)
    (hlen : (joinWords space (command :: name :: args)).length + 1 < bufferSize) :
    CommandHeard payload command name (args.length + 2) := by
  have hwords : ∀ w ∈ command :: name :: args, WireWord w := by
    intro w hw
    rcases List.mem_cons.mp hw with rfl | hw
    · exact hcommand
    rcases List.mem_cons.mp hw with rfl | hw
    · exact hname
    · exact hargs w hw
  have hcount' : (command :: name :: args).length ≤ 8 := by
    simp only [List.length_cons]
    omega
  obtain ⟨hread, htokens⟩ := words_heard hwords hcount' hlen
  refine ⟨_, _, hpayload, hread, ?_⟩
  rw [htokens]
  exact ⟨rfl, rfl, rfl⟩

theorem CommandHeard.word {payload : Option Bytes} {command name : Bytes} {count : Nat}
    (h : CommandHeard payload command name count) : WireWord name := by
  obtain ⟨bytes, line, -, hread, -, hname, -⟩ := h
  have hmem : name ∈ tokenize line 8 := List.mem_of_getElem? hname
  apply wireWord_token (hread.isLine _) hmem
  rintro rfl
  have hnone : tokenize [] 8 = [] := by decide
  rw [hnone] at hmem
  cases hmem

theorem start_register {type : SensorType} (htype : type ≠ .invalid) (command name : Bytes)
    (hcommand : command = ascii "REGISTER") :
    Phase.start [command, name, sensorTypeToStr type] = .register name type := by
  simp only [Phase.start, hcommand, if_true, Phase.startRegister, sensorTypeFromStr_toStr htype,
    if_neg htype]

/-- A name that fits its field is found in the slot it was registered in, whatever follows. -/
theorem foundAfter_register {line name : Bytes} {type : SensorType} (hname : WireWord name)
    (hfits : name.length < maxIdLen)
    (hphase : Phase.start (tokenize line 8) = .register name type) : FoundAfter line name := by
  intro n s s' actions k resp hrun hconn hstep hreply haccepted
  have h := System.systemOk_run hrun
  have h' := System.systemOk_step h hstep
  rw [hphase] at hconn
  have hfound : ∃ i, s'.g.slotOf name = some i := by
    cases System.step_cases hstep with
    | proceed k φ call hc hcall =>
      rw [hconn] at hc
      cases hc
      cases hcall
      simp only [Phase.next, System.settle, List.head?_cons, Option.some.injEq,
        Entry.answered.injEq, true_and] at hreply
      rw [← hreply] at haccepted
      have hok := (accepted_registerReply_iff name _).mp haccepted
      obtain ⟨e, he⟩ := Option.isSome_iff_exists.mp ((event_register_isSome name type s.g).mpr hok)
      obtain ⟨i, rfl, -⟩ := event_register he
      rw [System.settle_g]
      exact ⟨i, (slotOf_registered h.table he fun _ =>
        newSensor_id type hname.isWord.2 hfits).1⟩
  obtain ⟨i, hi⟩ := hfound
  exact ⟨i, fun more t hmore => slotOf_extends h'.table (System.extends_run hmore) hi⟩

section
variable {c : SensorClient} {name : Bytes}

theorem registerWords (hname : WireWord name) :
    ∀ w ∈ [ascii "REGISTER", name, sensorTypeToStr c.sensorType], WireWord w := by
  intro w hw
  simp only [List.mem_cons, List.not_mem_nil, or_false] at hw
  rcases hw with rfl | rfl | rfl
  · exact wireWord_of_visible (by decide) (by decide)
  · exact hname
  · exact wireWord_type

/-- What REGISTER is read as tells the server the name and the type. -/
theorem start_readAs {bytes line : Bytes} (htype : c.sensorType ≠ .invalid)
    (hencoded : UnicodeTexts.encode c.sensorId = some name) (hname : WireWord name)
    (hbytes : c.register = some bytes) (hread : ReadAs bytes line) :
    Phase.start (tokenize line 8) = .register name c.sensorType := by
  rw [c.register_some hencoded] at hbytes
  cases hbytes
  have hwords := registerWords (c := c) hname
  obtain ⟨hread', htokens⟩ := words_heard hwords (show 3 ≤ 8 by omega)
    (hread.fits (joinWords_clean hwords))
  cases hread.unique hread'
  rw [htokens]
  exact start_register htype _ _ rfl

theorem heard_of_speakable (htype : c.sensorType ≠ .invalid)
    (hencoded : UnicodeTexts.encode c.sensorId = some name) (hname : WireWord name)
    (hfits : name.length < maxIdLen) : Heard c name := by
  have hshort : ∀ command, WireWord command → command.length ≤ 8 → ∀ payload,
      payload = some (joinWords space [command, name] ++ [newline]) →
        CommandHeard payload command name 2 := by
    intro command hcommand hlen payload hpayload
    apply commandHeard_words hpayload hcommand hname (fun w hw => (by cases hw))
    · exact Nat.zero_le 6
    · simp only [joinWords, List.length_append, List.length_cons, bufferSize]
      simp only [maxIdLen] at hfits
      omega
  refine ⟨hencoded, ?_, ?_, ?_, ?_, ?_, ?_⟩
  · apply commandHeard_words (c.register_some hencoded)
      (registerWords (c := c) hname _ List.mem_cons_self) hname
    · intro w hw
      rw [List.mem_singleton.mp hw]
      exact wireWord_type
    · exact Nat.le_add_left 1 5
    · have hhead : (ascii "REGISTER").length = 8 := by decide
      have hlen : ∀ type, (sensorTypeToStr type).length ≤ 7 := by
        intro type
        cases type <;> decide
      have htypeLen := hlen c.sensorType
      simp only [joinWords, List.length_append, List.length_cons, hhead, bufferSize]
      simp only [maxIdLen] at hfits
      omega
  · intro d value now hvalue
    obtain ⟨line, hsend, hread, htokens⟩ := metric_heard hencoded hname hfits hvalue now
    refine ⟨_, line, hsend, hread, ?_⟩
    rw [htokens]
    exact ⟨rfl, rfl, rfl⟩
  · exact hshort _ (wireWord_of_visible (by decide) (by decide)) (by decide) _
      (c.sendStatus_some hencoded)
  · exact hshort _ (wireWord_of_visible (by decide) (by decide)) (by decide) _
      (c.sendPing_some hencoded)
  · exact hshort _ (wireWord_of_visible (by decide) (by decide)) (by decide) _
      (c.sendQuit_some hencoded)
  · intro bytes line hbytes hread
    exact foundAfter_register hname hfits (start_readAs htype hencoded hname hbytes hread)

end

theorem registered_first {line name : Bytes} {type : SensorType} (hline : IsLine line)
    (htype : type ≠ .invalid) (hphase : Phase.start (tokenize line 8) = .register name type) :
    ∃ s s' : System 1, Runs.run System.step (System.init 1) [.connect 0, .receive 0 line] = some s ∧
      s.conn 0 = .busy (.start (tokenize line 8)) ∧ s.step (.proceed 0) = some s' ∧
      ∃ resp, s'.log.head? = some (.answered 0 resp) ∧ accepted resp = true := by
  have hfree : stateInit.freeSlot = some 0 := by decide +kernel
  have hok : (stateRegisterSensor name type stateInit).1 = .ok := by
    rcases stateRegisterSensor_cases name type stateInit with ⟨hinvalid, -⟩ | ⟨i, -, hs, -⟩ |
      ⟨i, -, hs, -⟩ | ⟨-, -, hfull, -⟩ | ⟨i, -, -, -, h⟩
    · exact absurd hinvalid htype
    · cases slotOf_occupied hs
    · cases slotOf_occupied hs
    · rw [hfree] at hfull
      cases hfull
    · rw [h]
  obtain ⟨t, hconnect, hg, hidle⟩ : ∃ t : System 1, (System.init 1).step (.connect 0) = some t ∧
      t.g = stateInit ∧ t.conn 0 = .idle := ⟨_, rfl, rfl, rfl⟩
  have hreceive : t.step (.receive 0 line) = some (t.settle 0 (.register name type)) := by
    simp only [System.step, hidle, if_pos hline, hphase]
  refine ⟨t.settle 0 (.register name type), _, ?_, ?_, System.step_settle rfl t 0, _, rfl, ?_⟩
  · simp only [Runs.run, hconnect, hreceive, Option.bind_some]
  · rw [hphase]
    exact Function.update_self 0 (ConnState.busy _) t.conn
  · rw [hg]
    exact (accepted_registerReply_iff name _).mpr hok

theorem speakable_of_heard {c : SensorClient} {name : Bytes} (htype : c.sensorType ≠ .invalid)
    (h : Heard c name) : WireWord name ∧ name.length < maxIdLen := by
  have hname := h.register.word
  refine ⟨hname, ?_⟩
  obtain ⟨bytes, line, hbytes, hread, hcommand, -, -⟩ := h.register
  have hphase := start_readAs htype h.encoded hname hbytes hread
  have hline : IsLine line := by
    apply hread.isLine
    rintro rfl
    have hnone : tokenize [] 8 = [] := by decide
    rw [hnone] at hcommand
    cases hcommand
  obtain ⟨s, s', hrun, hconn, hstep, resp, hreply, haccepted⟩ := registered_first hline htype hphase
  obtain ⟨i, hfound⟩ := h.found bytes line hbytes hread 1 s s' _ 0 resp hrun hconn hstep hreply
    haccepted
  exact slotOf_length (hfound [] s' rfl)

/-- For every client that starts, what it names is what the server hears exactly when its id has a
UTF-8 form of 1 to 63 bytes, none of them a zero byte, a tab, a line end or a space. -/
theorem heard_iff {c : SensorClient} (hstarts : c.Starts) :
    (∃ name, Heard c name) ↔ Speakable c.sensorId := by
  constructor
  · rintro ⟨name, h⟩
    exact ⟨name, h.encoded, speakable_of_heard hstarts.1 h⟩
  · rintro ⟨name, hencoded, hname, hfits⟩
    exact ⟨name, heard_of_speakable hstarts.1 hencoded hname hfits⟩

theorem heard_s1 : ∃ name, Heard ⟨.python, ofAscii (ascii "s1"), .temp, ofNat 0⟩ name := by
  apply (heard_iff (by decide)).mpr
  exact ⟨ascii "s1", encode_ofAscii (by decide), wireWord_of_visible (by decide) (by decide),
    by decide⟩

/-- An id with a space inside is admitted by both clients, and heard as another one. -/
theorem unheard_space : ∃ c : SensorClient, c.Starts ∧ c.platform = .python ∧
    c.sensorId = ofAscii (ascii "a b") ∧ ¬ ∃ name, Heard c name := by
  refine ⟨⟨.python, ofAscii (ascii "a b"), .temp, ofNat 0⟩, by decide, rfl, rfl, ?_⟩
  rintro ⟨name, h⟩
  have hname := (speakable_of_heard (by decide) h).1
  have hencoded := h.encoded.symm.trans (encode_ofAscii (b := ascii "a b") (by decide))
  cases hencoded
  exact hname.clean space (by decide) (by decide)

end IotMonitoring
