import IotMonitoring.Server.Reachable

/-!
# Every reply is one line

Ids and timestamps reach the shared state from the tokens of a line, so no
stored text holds a newline, and no reply built from tokens and stored texts
does. A reply that is sent is therefore one line on the wire. The triple of a
handler is the invariant of its phases, so the result passes from one
connection to any interleaving of connections.
-/

namespace IotMonitoring

open ByteStrings Binary64 Program
set_option autoImplicit false

/-- The texts of a sensor that replies print hold no newline. -/
def Sensor.OneLine (s : Sensor) : Prop := newline ∉ s.id.text ∧ newline ∉ s.lastTimestamp.text

def GlobalState.OneLine (g : GlobalState) : Prop := ∀ i, (g.sensors i).OneLine

theorem oneLine_init : stateInit.OneLine :=
  fun _ => ⟨List.not_mem_nil, List.not_mem_nil⟩

theorem newline_notMem_copy {n : Nat} [NeZero n] {src : Bytes} (h : newline ∉ src) :
    newline ∉ (safeStrncpy src : Buffer n).text := by
  intro hmem
  apply h
  exact (List.takeWhile_prefix _).subset (List.mem_of_mem_take hmem)

theorem newline_notMem_tokenize {line w : Bytes} {n : Nat} (hline : newline ∉ line)
    (h : w ∈ tokenize line n) : newline ∉ w := by
  intro hmem
  apply hline
  exact (List.takeWhile_prefix _).subset ((tokens_spec h).2 hmem)

/-! ## What the operations store -/

section Operations
variable {g : GlobalState} {id : Bytes}

theorem oneLine_setSensor (h : g.OneLine) (i : Fin maxSensors) {s : Sensor} (hs : s.OneLine) :
    (g.setSensor i s).OneLine := by
  intro j
  rw [setSensor_sensors]
  by_cases hj : j = i
  · rw [hj, Function.update_self]
    exact hs
  · rw [Function.update_of_ne hj]
    exact h j

theorem oneLine_updateSensor (h : g.OneLine) {f : Sensor → Sensor}
    (hf : ∀ s : Sensor, s.OneLine → (f s).OneLine) : (g.updateSensor id f).2.OneLine := by
  cases hs : g.slotOf id with
  | some i =>
    rw [updateSensor_found hs]
    exact oneLine_setSensor h i (hf _ (h i))
  | none =>
    rw [updateSensor_missing hs]
    exact h

theorem oneLine_register (h : g.OneLine) (hid : newline ∉ id) (type : SensorType) :
    (stateRegisterSensor id type g).2.OneLine := by
  have hna : newline ∉ ascii "N/A" := by decide
  rcases stateRegisterSensor_cases id type g with ⟨-, hr⟩ | ⟨i, -, -, -, hr⟩ | ⟨i, -, -, -, hr⟩ |
    ⟨-, -, -, hr⟩ | ⟨i, -, -, -, hr⟩
  · rw [hr]
    exact h
  · rw [hr]
    exact oneLine_setSensor h i (h i)
  · rw [hr]
    exact h
  · rw [hr]
    exact h
  · rw [hr]
    exact oneLine_setSensor h i ⟨newline_notMem_copy hid, newline_notMem_copy hna⟩

theorem oneLine_addMetric (h : g.OneLine) {timestamp : Bytes} (hts : newline ∉ timestamp)
    (value : Double) (typeStr : Bytes) :
    (stateAddMetric id value timestamp typeStr g).2.OneLine := by
  cases hs : g.slotOf id with
  | some i =>
    rw [stateAddMetric_found hs]
    exact oneLine_setSensor h i ⟨(h i).1, newline_notMem_copy hts⟩
  | none =>
    rw [stateAddMetric_missing hs]
    exact h

end Operations

/-! ## What the replies print -/

theorem newline_notMem_fixed2 (d : Double) : newline ∉ fixed2 d := by
  intro hmem
  have hnot : ¬ 45 ≤ newline := by decide
  exact hnot (fixed2_bytes hmem).1

theorem newline_notMem_statusText {s : Sensor} (h : s.OneLine) : newline ∉ statusText s := by
  have hhead : newline ∉ ascii "200 STATUS " := by decide
  have hspace : newline ≠ space := by decide
  have hstatus : newline ∉ sensorStatusToStr s.status := by cases s.status <;> decide
  have htype : newline ∉ sensorTypeToStr s.type := by cases s.type <;> decide
  have hlevel : newline ∉ alertLevelToStr s.alertLevel := by cases s.alertLevel <;> decide
  simp only [statusText, List.mem_append, List.mem_cons, List.not_mem_nil, hhead, h.1,
    hspace, hstatus, htype, newline_notMem_fixed2, h.2, hlevel, or_self, not_false_eq_true]

/-! ## The handlers -/

/-- A byte that stays out of the replies: no operation given texts without it breaks an invariant
of the state under which no sensor's status prints it. -/
structure KeepsOut (I : GlobalState → Prop) (b : UInt8) : Prop where
  constants : ∀ resp ∈ [badRequest, sensorNotRegistered, sensorNotFound, sensorAlreadyExists,
    invalidSensorType, invalidValue, internalError, metricOk, pong, bye], b ∉ resp
  registered : ∀ id : Bytes, b ∉ id → b ∉ registered id
  register : ∀ id type g, I g → b ∉ id → I (stateRegisterSensor id type g).2
  report : ∀ id timestamp, b ∉ timestamp → KeptByReport I id timestamp
  deactivate : ∀ id g, I g → I (stateDeactivateSensor id g).2
  status : ∀ g i, I g → b ∉ statusText (g.sensors i)

section Handlers
variable {I : GlobalState → Prop} {b : UInt8} (h : KeepsOut I b)
include h

theorem ensures_constant {resp : Bytes} (hresp : resp ∈ [badRequest, sensorNotRegistered,
    sensorNotFound, sensorAlreadyExists, invalidSensorType, invalidValue, internalError, metricOk,
    pong, bye]) : Ensures I (b ∉ ·) (pure resp) := ensures_pure (h.constants resp hresp)

theorem ensures_handleRegister {ts : List Bytes} (hts : ∀ w ∈ ts, b ∉ w) :
    Ensures I (b ∉ ·) (handleRegister ts) := by
  unfold handleRegister
  split
  · rename_i command id typeStr
    split
    · exact ensures_constant h (by simp)
    · have hid : b ∉ id := hts id (by simp)
      refine ensures_bind (Q := fun _ => True) ?_ ?_
      · exact ensures_call fun g hg => ⟨h.register id _ g hg hid, trivial⟩
      · intro result _
        apply ensures_pure
        intro hmem
        cases result with
        | ok => exact h.registered id hid (List.mem_of_mem_take hmem)
        | _ => exact h.constants _ (by simp) (List.mem_of_mem_take hmem)
  · exact ensures_constant h (by simp)

theorem ensures_handleMetric {ts : List Bytes} (hts : ∀ w ∈ ts, b ∉ w) :
    Ensures I (b ∉ ·) (handleMetric ts) := by
  unfold handleMetric
  split
  · rename_i command id valueStr timestamp
    refine ensures_bind (Q := fun _ => True) (ensures_call fun g hg => ⟨hg, trivial⟩) ?_
    intro found _
    cases hcheck : checkMetric valueStr timestamp found with
    | error resp =>
      have hmem := checkMetric_error hcheck
      apply ensures_constant h
      simp only [List.mem_cons, List.not_mem_nil, or_false] at hmem ⊢
      rcases hmem with rfl | rfl | rfl | rfl <;> simp
    | ok checked =>
      have hreport := h.report id timestamp (hts timestamp (by simp))
      exact hreport.record (h.constants metricOk (by simp))
        (h.constants internalError (by simp)) checked.1 checked.2
  · exact ensures_constant h (by simp)

theorem ensures_handleStatus (ts : List Bytes) : Ensures I (b ∉ ·) (handleStatus ts) := by
  unfold handleStatus
  split
  · refine ensures_bind (Q := fun found => ∀ i s, found = some (i, s) → b ∉ statusText s) ?_ ?_
    · apply ensures_call
      intro g hg
      refine ⟨hg, ?_⟩
      intro i s hfound
      obtain ⟨j, -, heq⟩ := Option.map_eq_some_iff.mp hfound
      obtain ⟨rfl, rfl⟩ := Prod.mk.inj heq
      exact h.status g _ hg
    · intro found hfound
      cases found with
      | none => exact ensures_constant h (by simp [statusReply])
      | some copied =>
        obtain ⟨i, s⟩ := copied
        rw [statusReply_some]
        exact ensures_pure (hfound i s rfl)
  · exact ensures_constant h (by simp)

theorem ensures_handlePing (ts : List Bytes) : Ensures I (b ∉ ·) (handlePing ts) := by
  unfold handlePing
  split <;> exact ensures_constant h (by simp)

theorem ensures_handleQuit (ts : List Bytes) : Ensures I (fun r => b ∉ r.1) (handleQuit ts) := by
  unfold handleQuit
  split
  · refine ensures_bind (Q := fun _ => True) ?_ ?_
    · exact ensures_call fun g hg => ⟨h.deactivate _ g hg, trivial⟩
    · exact fun _ _ => ensures_pure (h.constants bye (by simp))
  · exact ensures_pure (h.constants badRequest (by simp))

theorem ensures_handleTokens {ts : List Bytes} (hts : ∀ w ∈ ts, b ∉ w) :
    Ensures I (fun r => b ∉ r.1) (handleTokens ts) := by
  have hbad : Ensures I (fun r : Bytes × Bool => b ∉ r.1) (pure (badRequest, false)) :=
    ensures_pure (h.constants badRequest (by simp))
  rcases ts with _ | ⟨command, args⟩
  · exact hbad
  rcases handleTokens_cases command args with ⟨-, hc⟩ | ⟨-, hc⟩ | ⟨-, hc⟩ | ⟨-, hc⟩ | ⟨-, hc⟩ |
    ⟨-, hc⟩
  · rw [hc]
    exact ensures_staying (ensures_handleRegister h hts)
  · rw [hc]
    exact ensures_staying (ensures_handleMetric h hts)
  · rw [hc]
    exact ensures_staying (ensures_handleStatus h _)
  · rw [hc]
    exact ensures_staying (ensures_handlePing h _)
  · rw [hc]
    exact ensures_handleQuit h _
  · rw [hc]
    exact hbad

end Handlers

theorem keepsOut_newline : KeepsOut GlobalState.OneLine newline where
  constants := by decide
  registered id hid hmem := by
    have hhead : newline ∉ ascii "200 REGISTERED " := by decide
    exact (List.mem_append.mp hmem).elim hhead hid
  register _ type _ hg hid := oneLine_register hg hid type
  report _ _ hts := {
    addMetric := fun value typeStr _ hg => oneLine_addMetric hg hts value typeStr
    addAlert := fun _ _ _ _ _ hg => hg
    setLevel := fun _ _ hg => oneLine_updateSensor hg fun _ hs => hs }
  deactivate _ _ hg := oneLine_updateSensor hg fun _ hs => hs
  status _ i hg := newline_notMem_statusText (hg i)

theorem ensures_handleLine {line : Bytes} (hline : IsLine line) :
    Ensures GlobalState.OneLine (fun r => newline ∉ r.1) (handleLine line) := by
  apply ensures_handleTokens keepsOut_newline
  intro w hw
  exact newline_notMem_tokenize (fun hmem => (hline.clean newline hmem).1 rfl) hw

theorem ensures_connectionLoop (fuel : Nat) (s : Stream) : Ensures GlobalState.OneLine
    (fun t => ∀ e ∈ t.exchanges, newline ∉ e.resp) (connectionLoop fuel s) := by
  induction fuel generalizing s with
  | zero => exact ensures_pure fun e he => (by cases he)
  | succ fuel ih =>
    unfold connectionLoop
    by_cases hret : (recvLine bufferSize s).ret ≤ 0
    · simp only [if_pos hret]
      exact ensures_pure fun e he => (by cases he)
    · simp only [if_neg hret]
      refine ensures_bind (ensures_handleLine (recvLine_isLine hret)) ?_
      rintro ⟨resp, shouldExit⟩ hresp
      cases shouldExit with
      | true =>
        apply ensures_pure
        intro e he
        rw [List.mem_singleton.mp he]
        exact hresp
      | false =>
        refine ensures_bind (ih _) ?_
        intro t ht
        apply ensures_pure
        intro e he
        rcases List.mem_cons.mp he with rfl | he
        · exact hresp
        · exact ht e he

/-- As long as the others store no newlines either, no reply of a connection holds one. -/
theorem replies_oneLine {env : Nat → GlobalState → GlobalState}
    (henv : ∀ k g, g.OneLine → (env k g).OneLine) (s : Stream) {st : Nat × GlobalState}
    (hst : st.2.OneLine) :
    ∀ e ∈ (((handleSensorConnection s).disturbed env).run st).1.exchanges, newline ∉ e.resp :=
  (Ensures.run (ensures_connectionLoop _ s) henv hst).1

/-! ## Any interleaving -/

namespace System
variable {n : Nat}

structure TextsOk (s : System n) : Prop where
  state : s.g.OneLine
  phases : ∀ c φ, s.conn c = .busy φ →
    Ensures GlobalState.OneLine (fun r => newline ∉ r.1) φ.program
  answers : ∀ c resp, Entry.answered c resp ∈ s.log → newline ∉ resp

theorem textsOk_init : TextsOk (init n) where
  state := oneLine_init
  phases := by
    intro c φ h
    cases h
  answers := by
    intro c resp h
    cases h

theorem textsOk_settle {s : System n} (h : TextsOk s) (c : Fin n) {φ : Phase}
    (hφ : Ensures GlobalState.OneLine (fun r => newline ∉ r.1) φ.program) :
    TextsOk (s.settle c φ) := by
  refine ⟨?_, phases_settle h.phases c hφ, ?_⟩
  · rw [settle_g]
    exact h.state
  · intro c' resp' hmem
    cases φ with
    | answered resp leave =>
      rcases List.mem_cons.mp hmem with heq | hmem
      · cases heq
        exact hφ
      · exact h.answers c' resp' hmem
    | _ => exact h.answers c' resp' hmem

theorem textsOk_step {s s' : System n} {a : Action n} (h : TextsOk s)
    (hstep : s.step a = some s') : TextsOk s' := by
  cases step_cases hstep with
  | connect c hc =>
    exact ⟨h.state, phases_update h.phases c fun φ hb => (by cases hb), h.answers⟩
  | receive c line hc hline =>
    apply textsOk_settle h c
    rw [Phase.start_program]
    exact ensures_handleLine hline
  | proceed c φ call hc hcall =>
    -- one critical section of the handler's triple
    have hprogram := h.phases c φ hc
    rw [Phase.program_eq_locked hcall] at hprogram
    obtain ⟨hkept, hnext⟩ := hprogram s.g h.state
    have hexecuted : TextsOk (s.execute c call) := by
      refine ⟨hkept, h.phases, ?_⟩
      intro c' resp hmem
      rw [execute_log] at hmem
      rcases List.mem_append.mp hmem with hdid | hmem
      · obtain ⟨e, -, heq⟩ := List.mem_map.mp hdid
        cases heq
      · exact h.answers c' resp hmem
    exact textsOk_settle hexecuted c hnext
  | disconnect c hc =>
    exact ⟨h.state, phases_update h.phases c fun φ hb => (by cases hb), h.answers⟩

/-- Whatever the connections send, every reply given is one line. -/
theorem answers_oneLine {s : System n} {actions : List (Action n)}
    (hrun : Runs.run step (init n) actions = some s) :
    ∀ c resp, Entry.answered c resp ∈ s.log → newline ∉ resp :=
  (Runs.invariant_run textsOk_step textsOk_init hrun).answers

end System

end IotMonitoring
