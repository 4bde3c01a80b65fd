import IotMonitoring.Server.Alerts
import IotMonitoring.Server.Utils

/-!
# SMP commands

The handlers of `sensor_handler.c` as programs over the shared state. A handler
returns the text it passes to `send_response`; `handleQuit` also returns its
exit flag. A token list of the right length stands for the test on
`token_count`.
-/

namespace IotMonitoring

open ByteStrings Binary64
set_option autoImplicit false

def badRequest : Bytes := ascii "400 BAD_REQUEST"
def sensorNotRegistered : Bytes := ascii "403 SENSOR_NOT_REGISTERED"
def sensorNotFound : Bytes := ascii "404 SENSOR_NOT_FOUND"
def sensorAlreadyExists : Bytes := ascii "409 SENSOR_ALREADY_EXISTS"
def invalidSensorType : Bytes := ascii "422 INVALID_SENSOR_TYPE"
def invalidValue : Bytes := ascii "422 INVALID_VALUE"
def internalError : Bytes := ascii "500 INTERNAL_ERROR"
def metricOk : Bytes := ascii "200 OK"
def pong : Bytes := ascii "200 PONG"
def bye : Bytes := ascii "200 BYE"
def registered (id : Bytes) : Bytes := ascii "200 REGISTERED " ++ id

def space : UInt8 := 32

/-- The delimiters of `tokenize`, `" \t"`. -/
def isBlank (c : UInt8) : Bool := c == space || c == 9

def tokenize (line : Bytes) (maxTokens : Nat) : List Bytes := tokens isBlank maxTokens (cString line)

def registerReply (sensorId : Bytes) : RegisterResult → Bytes
  | .ok => snprintf bufferSize (registered sensorId)
  | .tableFull => snprintf bufferSize internalError
  | .alreadyExists => snprintf bufferSize sensorAlreadyExists
  | .invalidType => snprintf bufferSize invalidSensorType

def handleRegister : List Bytes → Program GlobalState Bytes
  | [_, sensorId, typeStr] =>
    if sensorTypeFromStr typeStr = .invalid then pure invalidSensorType
    else do
      let result ← Program.call (stateRegisterSensor sensorId (sensorTypeFromStr typeStr))
      pure (registerReply sensorId result)
  | _ => pure badRequest

/-- The part of `handle_metric` after its checks. -/
def recordMetric (sensorId : Bytes) (value : Double) (timestamp : Bytes) (type : SensorType) :
    Program GlobalState Bytes := do
  let stored ← Program.call (stateAddMetric sensorId value timestamp (sensorTypeToStr type))
  if stored then do
    let _ ← alertsEvaluate sensorId value type timestamp
    pure metricOk
  else pure internalError

/-- The checks of `handle_metric` on the copy of the sensor, in their order. -/
def checkMetric (valueStr timestamp : Bytes) : Option (Fin maxSensors × Sensor) →
    Except Bytes (Double × SensorType)
  | none => .error sensorNotFound
  | some (_, sensor) =>
    if sensor.status ≠ .active then .error sensorNotRegistered
    else
      match parseDouble valueStr with
      | none => .error invalidValue
      | some value =>
        if isValidTimestamp timestamp then .ok (value, sensor.type) else .error badRequest

def handleMetric : List Bytes → Program GlobalState Bytes
  | [_, sensorId, valueStr, timestamp] => do
    let found ← Program.call (stateFindSensor sensorId)
    match checkMetric valueStr timestamp found with
    | .error resp => pure resp
    | .ok (value, type) => recordMetric sensorId value timestamp type
  | _ => pure badRequest

def statusText (s : Sensor) : Bytes :=
  ascii "200 STATUS " ++ s.id.text ++ [space] ++ sensorStatusToStr s.status ++ [space] ++
    sensorTypeToStr s.type ++ [space] ++ fixed2 s.lastValue ++ [space] ++ s.lastTimestamp.text ++
    [space] ++ alertLevelToStr s.alertLevel

def statusReply : Option (Fin maxSensors × Sensor) → Bytes
  | none => sensorNotFound
  | some (_, sensor) => snprintf bufferSize (statusText sensor)

def handleStatus : List Bytes → Program GlobalState Bytes
  | [_, sensorId] => do
    let found ← Program.call (stateFindSensor sensorId)
    pure (statusReply found)
  | _ => pure badRequest

def handlePing : List Bytes → Program GlobalState Bytes
  | [_, _] => pure pong
  | _ => pure badRequest

def handleQuit : List Bytes → Program GlobalState (Bytes × Bool)
  | [_, sensorId] => do
    let _ ← Program.call (stateDeactivateSensor sensorId)
    pure (bye, true)
  | _ => pure (badRequest, false)

def staying (p : Program GlobalState Bytes) : Program GlobalState (Bytes × Bool) := do
  let resp ← p
  pure (resp, false)

/-- The dispatch in the loop of `handle_sensor_connection`: the reply and whether to leave the loop. -/
def handleTokens : List Bytes → Program GlobalState (Bytes × Bool)
  | [] => pure (badRequest, false)
  | command :: args =>
    if command = ascii "REGISTER" then staying (handleRegister (command :: args))
    else if command = ascii "METRIC" then staying (handleMetric (command :: args))
    else if command = ascii "STATUS" then staying (handleStatus (command :: args))
    else if command = ascii "PING" then staying (handlePing (command :: args))
    else if command = ascii "QUIT" then handleQuit (command :: args)
    else pure (badRequest, false)

def handleLine (line : Bytes) : Program GlobalState (Bytes × Bool) := handleTokens (tokenize line 8)

/-! ## The connection loop -/

/-- One turn of the loop: the bytes delivered by `recv_line` and the reply given to `send_response`. -/
structure Exchange where
  line : Bytes
  resp : Bytes
deriving DecidableEq

inductive Finish where
  | quit
  | disconnected (last : Received)
  | unfinished

structure Transcript where
  exchanges : List Exchange
  finish : Finish

/-- At most `fuel` turns of `handle_sensor_connection`. -/
def connectionLoop : Nat → Stream → Program GlobalState Transcript
  | 0, _ => pure ⟨[], .unfinished⟩
  | fuel + 1, s =>
    let r := recvLine bufferSize s
    if r.ret ≤ 0 then pure ⟨[], .disconnected r⟩
    else do
      let (resp, shouldExit) ← handleLine r.buf
      if shouldExit then pure ⟨[⟨r.buf, resp⟩], .quit⟩
      else do
        let t ← connectionLoop fuel ⟨r.rest, s.ending⟩
        pure ⟨⟨r.buf, resp⟩ :: t.exchanges, t.finish⟩

/-- Every turn but the last reads at least one byte, so the stream's length bounds their number. -/
def handleSensorConnection (s : Stream) : Program GlobalState Transcript :=
  connectionLoop (s.bytes.length + 1) s

/-! ## The decisions of the handlers -/

theorem handleTokens_cases (command : Bytes) (args : List Bytes) :
    (command = ascii "REGISTER" ∧
      handleTokens (command :: args) = staying (handleRegister (command :: args))) ∨
    (command = ascii "METRIC" ∧
      handleTokens (command :: args) = staying (handleMetric (command :: args))) ∨
    (command = ascii "STATUS" ∧
      handleTokens (command :: args) = staying (handleStatus (command :: args))) ∨
    (command = ascii "PING" ∧
      handleTokens (command :: args) = staying (handlePing (command :: args))) ∨
    (command = ascii "QUIT" ∧ handleTokens (command :: args) = handleQuit (command :: args)) ∨
    (command ∉ [ascii "REGISTER", ascii "METRIC", ascii "STATUS", ascii "PING", ascii "QUIT"] ∧
      handleTokens (command :: args) = pure (badRequest, false)) := by
  simp only [handleTokens]
  by_cases hregister : command = ascii "REGISTER"
  · exact Or.inl ⟨hregister, if_pos hregister⟩
  rw [if_neg hregister]
  by_cases hmetric : command = ascii "METRIC"
  · exact Or.inr (Or.inl ⟨hmetric, if_pos hmetric⟩)
  rw [if_neg hmetric]
  by_cases hstatus : command = ascii "STATUS"
  · exact Or.inr (Or.inr (Or.inl ⟨hstatus, if_pos hstatus⟩))
  rw [if_neg hstatus]
  by_cases hping : command = ascii "PING"
  · exact Or.inr (Or.inr (Or.inr (Or.inl ⟨hping, if_pos hping⟩)))
  rw [if_neg hping]
  by_cases hquit : command = ascii "QUIT"
  · exact Or.inr (Or.inr (Or.inr (Or.inr (Or.inl ⟨hquit, if_pos hquit⟩))))
  rw [if_neg hquit]
  refine Or.inr (Or.inr (Or.inr (Or.inr (Or.inr ⟨?_, rfl⟩))))
  simp only [List.mem_cons, hregister, hmetric, hstatus, hping, hquit, List.not_mem_nil, or_self,
    not_false_eq_true]

theorem checkMetric_ok {valueStr timestamp : Bytes} {found : Option (Fin maxSensors × Sensor)}
    {value : Double} {type : SensorType} (h : checkMetric valueStr timestamp found = .ok (value, type)) :
    ∃ i s, found = some (i, s) ∧ s.status = .active ∧ s.type = type ∧
      parseDouble valueStr = some value ∧ isValidTimestamp timestamp = true := by
  unfold checkMetric at h
  split at h
  · cases h
  · rename_i i s
    split at h
    · cases h
    · rename_i hact
      split at h
      · cases h
      · rename_i v hv
        split at h
        · rename_i hts
          cases h
          exact ⟨i, s, rfl, by simpa using hact, rfl, hv, hts⟩
        · cases h

theorem checkMetric_error {valueStr timestamp resp : Bytes}
    {found : Option (Fin maxSensors × Sensor)}
    (h : checkMetric valueStr timestamp found = .error resp) :
    resp ∈ [sensorNotFound, sensorNotRegistered, invalidValue, badRequest] := by
  unfold checkMetric at h
  split at h
  · cases h
    simp
  · split at h
    · cases h
      simp
    · split at h
      · cases h
        simp
      · split at h
        · cases h
        · cases h
          simp

/-! ## What the handlers keep -/

theorem ensures_staying {I : GlobalState → Prop} {Q : Bytes → Prop} {p : Program GlobalState Bytes}
    (h : Program.Ensures I Q p) : Program.Ensures I (fun r => Q r.1) (staying p) :=
  Program.ensures_bind h fun _ hresp => Program.ensures_pure hresp

/-- Kept by each operation of a METRIC that is past its checks. -/
structure KeptByReport (I : GlobalState → Prop) (id timestamp : Bytes) : Prop where
  addMetric : ∀ value typeStr g, I g → I (stateAddMetric id value timestamp typeStr g).2
  addAlert : ∀ value threshold typeStr message g, I g →
    I (stateAddAlert id value threshold timestamp typeStr message g).2
  setLevel : ∀ level g, I g → I (stateSetAlertLevel id level g).2

namespace KeptByReport
variable {I : GlobalState → Prop} {id timestamp : Bytes} (h : KeptByReport I id timestamp)
include h

theorem evaluate (value : Double) (type : SensorType) :
    Program.Ensures I (fun _ => True) (alertsEvaluate id value type timestamp) := by
  have hlevel : ∀ level, Program.Ensures I (fun _ => True)
      (Program.call (stateSetAlertLevel id level)) := fun level =>
    Program.ensures_call fun g hg => ⟨h.setLevel level g hg, trivial⟩
  unfold alertsEvaluate
  split
  · rename_i threshold message _
    apply Program.ensures_bind (Q := fun _ => True)
    · apply Program.ensures_call
      exact fun g hg => ⟨h.addAlert value threshold (sensorTypeToStr type) message g hg, trivial⟩
    · intro _ _
      exact Program.ensures_bind (hlevel .alert) fun _ _ => Program.ensures_pure trivial
  · exact Program.ensures_bind (hlevel .normal) fun _ _ => Program.ensures_pure trivial

/-- Recording replies whether the metric was stored. -/
theorem record {Q : Bytes → Prop} (hok : Q metricOk) (herror : Q internalError) (value : Double)
    (type : SensorType) : Program.Ensures I Q (recordMetric id value timestamp type) := by
  unfold recordMetric
  apply Program.ensures_bind (Q := fun _ => True)
  · apply Program.ensures_call
    exact fun g hg => ⟨h.addMetric value (sensorTypeToStr type) g hg, trivial⟩
  · intro stored _
    cases stored with
    | false => exact Program.ensures_pure herror
    | true =>
      apply Program.ensures_bind (h.evaluate value type)
      exact fun _ _ => Program.ensures_pure hok

end KeptByReport

/-! ## Replies -/

theorem registerReply_ok {id : Bytes} (hid : id.length < maxIdLen) :
    registerReply id .ok = registered id := by
  apply snprintf_of_fits
  have hhead : (ascii "200 REGISTERED ").length = 15 := by decide
  simp only [maxIdLen] at hid
  simp only [registered, List.length_append, hhead, bufferSize]
  omega

theorem tokenize_zero_notMem {line w : Bytes} {n : Nat} (h : w ∈ tokenize line n) :
    (0 : UInt8) ∉ w :=
  fun hz => zero_notMem_cString line ((tokens_spec h).2 hz)

/-- A line of up to eight words is taken apart into them. -/
theorem tokenize_words {ws : List Bytes} (hws : ∀ w ∈ ws, IsWord isBlank w ∧ (0 : UInt8) ∉ w)
    (hlen : ws.length ≤ 8) : tokenize (joinWords space ws) 8 = ws := by
  have htext : cString (joinWords space ws) = joinWords space ws := by
    apply cString_eq_self
    intro hz
    rcases mem_joinWords hz with hspace | ⟨w, hw, hzero⟩
    · cases hspace
    · exact (hws w hw).2 hzero
  have hblank : isBlank space = true := by decide
  rw [tokenize, htext]
  exact tokens_joinWords hblank (fun w hw => (hws w hw).1) hlen

theorem statusText_length (s : Sensor) : (statusText s).length + 1 < bufferSize := by
  have hid : s.id.text.length < 64 := s.id.length_lt
  have hts : s.lastTimestamp.text.length < 32 := s.lastTimestamp.length_lt
  have hval := fixed2_length_le s.lastValue
  have hstatus : (sensorStatusToStr s.status).length ≤ 8 := by cases s.status <;> decide
  have htype : (sensorTypeToStr s.type).length ≤ 7 := by cases s.type <;> decide
  have hlevel : (alertLevelToStr s.alertLevel).length ≤ 6 := by cases s.alertLevel <;> decide
  have hhead : (ascii "200 STATUS ").length = 11 := by decide
  simp only [statusText, bufferSize, List.length_append, List.length_cons, List.length_nil]
  omega

theorem statusReply_some (i : Fin maxSensors) (s : Sensor) :
    statusReply (some (i, s)) = statusText s := by
  have hlen := statusText_length s
  exact snprintf_of_fits (by omega)

end IotMonitoring
