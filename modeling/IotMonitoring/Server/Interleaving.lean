import Mathlib.Data.Fintype.Defs
import IotMonitoring.Shared.Runs
import IotMonitoring.Server.Calls
import IotMonitoring.Server.SensorHandler

/-!
# Connections interleaved at their critical sections

A `Phase` is a point of a command just before one of its critical sections, or
its reply. `Phase.program` is what remains of the handler there, and
`program_eq_locked` with `start_program` prove that the phases are exactly the
control points of the handlers; `connectionLoop_turn` hands them the lines of a
connection. A `System` is the shared state, any number of connections, and the
history of everything done and answered, newest first.
-/

namespace IotMonitoring

open ByteStrings Binary64
set_option autoImplicit false

inductive Phase where
  | register (id : Bytes) (type : SensorType)
  | findMetric (id valueStr timestamp : Bytes)
  | addMetric (id : Bytes) (value : Double) (timestamp : Bytes) (type : SensorType)
  | addAlert (id : Bytes) (value threshold : Double) (timestamp : Bytes) (type : SensorType)
      (message : Bytes)
  | setLevel (id : Bytes) (level : AlertLevel)
  | findStatus (id : Bytes)
  | deactivate (id : Bytes)
  | answered (resp : Bytes) (leave : Bool)

namespace Phase

/-- The critical section about to be entered. -/
def call : Phase → Option StateCall
  | register id type => some (.register id type)
  | findMetric id _ _ => some (.find id)
  | addMetric id value timestamp type =>
    some (.addMetric id value timestamp (sensorTypeToStr type))
  | addAlert id value threshold timestamp type message =>
    some (.addAlert id value threshold timestamp (sensorTypeToStr type) message)
  | setLevel id level => some (.setAlertLevel id level)
  | findStatus id => some (.find id)
  | deactivate id => some (.deactivate id)
  | answered _ _ => none

/-- Where `alerts_evaluate` starts. -/
def evaluate (id : Bytes) (value : Double) (timestamp : Bytes) (type : SensorType) : Phase :=
  match anomaly type value with
  | some (threshold, message) => addAlert id value threshold timestamp type message
  | none => setLevel id .normal

/-- The phase after the critical section entered in state `g`. -/
def next : Phase → GlobalState → Phase
  | register id type, g => answered (registerReply id (stateRegisterSensor id type g).1) false
  | findMetric id valueStr timestamp, g =>
    match checkMetric valueStr timestamp (stateFindSensor id g).1 with
    | .error resp => answered resp false
    | .ok (value, type) => addMetric id value timestamp type
  | addMetric id value timestamp type, g =>
    if (stateAddMetric id value timestamp (sensorTypeToStr type) g).1 then
      evaluate id value timestamp type
    else answered internalError false
  | addAlert id _ _ _ _ _, _ => setLevel id .alert
  | setLevel _ _, _ => answered metricOk false
  | findStatus id, g => answered (statusReply (stateFindSensor id g).1) false
  | deactivate _, _ => answered bye true
  | answered resp leave, _ => answered resp leave

/-- The phases of a METRIC. -/
def isMetric : Phase → Bool
  | .findMetric .. | .addMetric .. | .addAlert .. | .setLevel .. => true
  | _ => false

/-- What remains of the handler. -/
def program : Phase → Program GlobalState (Bytes × Bool)
  | register id type => staying do
    let result ← Program.call (stateRegisterSensor id type)
    pure (registerReply id result)
  | findMetric id valueStr timestamp => staying do
    let found ← Program.call (stateFindSensor id)
    match checkMetric valueStr timestamp found with
    | .error resp => pure resp
    | .ok (value, type) => recordMetric id value timestamp type
  | addMetric id value timestamp type => staying (recordMetric id value timestamp type)
  | addAlert id value threshold timestamp type message => staying do
    Program.call (stateAddAlert id value threshold timestamp (sensorTypeToStr type) message)
    let _ ← Program.call (stateSetAlertLevel id .alert)
    pure metricOk
  | setLevel id level => staying do
    let _ ← Program.call (stateSetAlertLevel id level)
    pure metricOk
  | findStatus id => staying do
    let found ← Program.call (stateFindSensor id)
    pure (statusReply found)
  | deactivate id => do
    let _ ← Program.call (stateDeactivateSensor id)
    pure (bye, true)
  | answered resp leave => pure (resp, leave)

def startRegister : List Bytes → Phase
  | [_, id, typeStr] =>
    if sensorTypeFromStr typeStr = .invalid then answered invalidSensorType false
    else register id (sensorTypeFromStr typeStr)
  | _ => answered badRequest false

def startMetric : List Bytes → Phase
  | [_, id, valueStr, timestamp] => findMetric id valueStr timestamp
  | _ => answered badRequest false

def startStatus : List Bytes → Phase
  | [_, id] => findStatus id
  | _ => answered badRequest false

def startPing : List Bytes → Phase
  | [_, _] => answered pong false
  | _ => answered badRequest false

def startQuit : List Bytes → Phase
  | [_, id] => deactivate id
  | _ => answered badRequest false

/-- The phase in which the handler of a token list begins. -/
def start : List Bytes → Phase
  | [] => answered badRequest false
  | command :: args =>
    if command = ascii "REGISTER" then startRegister (command :: args)
    else if command = ascii "METRIC" then startMetric (command :: args)
    else if command = ascii "STATUS" then startStatus (command :: args)
    else if command = ascii "PING" then startPing (command :: args)
    else if command = ascii "QUIT" then startQuit (command :: args)
    else answered badRequest false

/-- The phases a command can begin in; no command leaves the loop without a critical section. -/
def isFirst : Phase → Bool
  | register .. | findMetric .. | findStatus .. | deactivate .. => true
  | answered _ leave => ! leave
  | _ => false

theorem start_isFirst (ts : List Bytes) : (start ts).isFirst = true := by
  cases ts with
  | nil => rfl
  | cons command args =>
    simp only [start]
    split
    · unfold startRegister
      split
      · split <;> rfl
      · rfl
    split
    · unfold startMetric
      split <;> rfl
    split
    · unfold startStatus
      split <;> rfl
    split
    · unfold startPing
      split <;> rfl
    split
    · unfold startQuit
      split <;> rfl
    · rfl

/-! ## The phases are the control points of the handlers -/

theorem evaluate_program (id : Bytes) (value : Double) (timestamp : Bytes) (type : SensorType) :
    (evaluate id value timestamp type).program = staying (do
      let _ ← alertsEvaluate id value type timestamp
      pure metricOk) := by
  unfold evaluate alertsEvaluate
  cases anomaly type value with
  | none => rfl
  | some crossed => rfl

/-- Entering the critical section of a phase is one step of the handler. -/
theorem program_eq_locked {φ : Phase} {c : StateCall} (h : φ.call = some c) :
    φ.program = .locked c.exec fun g => (φ.next g).program := by
  cases φ with
  | register id type =>
    cases h
    rfl
  | findMetric id valueStr timestamp =>
    cases h
    change Program.locked _ _ = Program.locked _ _
    congr 1
    funext g
    change staying (match checkMetric valueStr timestamp (stateFindSensor id g).1 with
      | .error resp => pure resp
      | .ok (value, type) => recordMetric id value timestamp type) = _
    simp only [next]
    cases checkMetric valueStr timestamp (stateFindSensor id g).1 <;> rfl
  | addMetric id value timestamp type =>
    cases h
    change Program.locked _ _ = Program.locked _ _
    congr 1
    funext g
    simp only [next]
    change staying (if (stateAddMetric id value timestamp (sensorTypeToStr type) g).1 then do
      let _ ← alertsEvaluate id value type timestamp
      pure metricOk
      else pure internalError) = _
    cases (stateAddMetric id value timestamp (sensorTypeToStr type) g).1 with
    | false => rfl
    | true => exact (evaluate_program id value timestamp type).symm
  | addAlert id value threshold timestamp type message =>
    cases h
    rfl
  | setLevel id level =>
    cases h
    rfl
  | findStatus id =>
    cases h
    rfl
  | deactivate id =>
    cases h
    rfl
  | answered resp leave => cases h

theorem startRegister_program : ∀ ts : List Bytes,
    (startRegister ts).program = staying (handleRegister ts)
  | [] | [_] | [_, _] | _ :: _ :: _ :: _ :: _ => rfl
  | [_, id, typeStr] => by
    simp only [startRegister, handleRegister]
    split <;> rfl

theorem startMetric_program : ∀ ts : List Bytes,
    (startMetric ts).program = staying (handleMetric ts)
  | [] | [_] | [_, _] | [_, _, _] | [_, _, _, _] | _ :: _ :: _ :: _ :: _ :: _ => rfl

theorem startStatus_program : ∀ ts : List Bytes,
    (startStatus ts).program = staying (handleStatus ts)
  | [] | [_] | [_, _] | _ :: _ :: _ :: _ => rfl

theorem startPing_program : ∀ ts : List Bytes, (startPing ts).program = staying (handlePing ts)
  | [] | [_] | [_, _] | _ :: _ :: _ :: _ => rfl

theorem startQuit_program : ∀ ts : List Bytes, (startQuit ts).program = handleQuit ts
  | [] | [_] | [_, _] | _ :: _ :: _ :: _ => rfl

theorem start_program (ts : List Bytes) : (start ts).program = handleTokens ts := by
  cases ts with
  | nil => rfl
  | cons command args =>
    simp only [start, handleTokens]
    split
    · exact startRegister_program _
    split
    · exact startMetric_program _
    split
    · exact startStatus_program _
    split
    · exact startPing_program _
    split
    · exact startQuit_program _
    · rfl

/-- A turn of the connection loop that goes on runs the phases of a line. -/
theorem connectionLoop_turn {fuel : Nat} {s : Stream} (h : ¬ (recvLine bufferSize s).ret ≤ 0) :
    IsLine (recvLine bufferSize s).buf ∧ connectionLoop (fuel + 1) s =
      (start (tokenize (recvLine bufferSize s).buf 8)).program >>= fun reply =>
        if reply.2 then pure ⟨[⟨(recvLine bufferSize s).buf, reply.1⟩], .quit⟩
        else connectionLoop fuel ⟨(recvLine bufferSize s).rest, s.ending⟩ >>= fun t =>
          pure ⟨⟨(recvLine bufferSize s).buf, reply.1⟩ :: t.exchanges, t.finish⟩ := by
  refine ⟨recvLine_isLine h, ?_⟩
  rw [start_program]
  simp only [connectionLoop, if_neg h]
  rfl

end Phase

/-! ## The system -/

inductive ConnState where
  | fresh
  | idle
  | busy (phase : Phase)
  | closed

def ConnState.inMetric : ConnState → Bool
  | .busy φ => φ.isMetric
  | _ => false

/-- One line of the history: what a connection's critical section did, or the
reply it was given. -/
inductive Entry (n : Nat) where
  | did (c : Fin n) (e : Event)
  | answered (c : Fin n) (resp : Bytes)

structure System (n : Nat) where
  g : GlobalState
  conn : Fin n → ConnState
  log : List (Entry n)

inductive Action (n : Nat) where
  | connect (c : Fin n)
  | receive (c : Fin n) (line : Bytes)
  | proceed (c : Fin n)
  | disconnect (c : Fin n)

def Action.conn {n : Nat} : Action n → Fin n
  | connect c | receive c _ | proceed c | disconnect c => c

namespace System
variable {n : Nat}

def init (n : Nat) : System n := ⟨stateInit, fun _ => .fresh, []⟩

/-- No METRIC is in progress. -/
def Quiet (s : System n) : Prop := ∀ c, (s.conn c).inMetric = false

instance (s : System n) : Decidable s.Quiet := inferInstanceAs (Decidable (∀ _, _))

/-- Put a connection into a phase; a finished command is answered at once. -/
def settle (s : System n) (c : Fin n) : Phase → System n
  | .answered resp leave => { s with
      conn := Function.update s.conn c (if leave then .closed else .idle)
      log := .answered c resp :: s.log }
  | φ => { s with conn := Function.update s.conn c (.busy φ) }

def execute (s : System n) (c : Fin n) (call : StateCall) : System n :=
  { s with g := call.exec s.g, log := (call.event s.g).toList.map (.did c) ++ s.log }

/-- `disconnect` is every way `recv_line` has of returning 0 or less. -/
def step (s : System n) : Action n → Option (System n)
  | .connect c =>
    match s.conn c with
    | .fresh => some { s with conn := Function.update s.conn c .idle }
    | _ => none
  | .receive c line =>
    match s.conn c with
    | .idle => if IsLine line then some (s.settle c (.start (tokenize line 8))) else none
    | _ => none
  | .proceed c =>
    match s.conn c with
    | .busy φ =>
      match φ.call with
      | some call => some ((s.execute c call).settle c (φ.next s.g))
      | none => none
    | _ => none
  | .disconnect c =>
    match s.conn c with
    | .idle => some { s with conn := Function.update s.conn c .closed }
    | _ => none

/-- The four kinds of step, with what each requires. -/
inductive Stepped (s : System n) : Action n → System n → Prop where
  | connect (c : Fin n) (h : s.conn c = .fresh) :
      Stepped s (.connect c) { s with conn := Function.update s.conn c .idle }
  | receive (c : Fin n) (line : Bytes) (h : s.conn c = .idle) (hline : IsLine line) :
      Stepped s (.receive c line) (s.settle c (.start (tokenize line 8)))
  | proceed (c : Fin n) (φ : Phase) (call : StateCall) (h : s.conn c = .busy φ)
      (hcall : φ.call = some call) :
      Stepped s (.proceed c) ((s.execute c call).settle c (φ.next s.g))
  | disconnect (c : Fin n) (h : s.conn c = .idle) :
      Stepped s (.disconnect c) { s with conn := Function.update s.conn c .closed }

theorem step_cases {s s' : System n} {a : Action n} (h : s.step a = some s') : Stepped s a s' := by
  cases a with
  | connect c =>
    simp only [step] at h
    split at h
    · cases h
      exact .connect c ‹_›
    · cases h
  | receive c line =>
    simp only [step] at h
    split at h
    · split at h
      · cases h
        exact .receive c line ‹_› ‹_›
      · cases h
    · cases h
  | proceed c =>
    simp only [step] at h
    split at h
    · split at h
      · cases h
        exact .proceed c _ _ ‹_› ‹_›
      · cases h
    · cases h
  | disconnect c =>
    simp only [step] at h
    split at h
    · cases h
      exact .disconnect c ‹_›
    · cases h

/-! ## The history -/

def eventsOf (log : List (Entry n)) : List Event := log.filterMap fun
  | .did _ e => some e
  | .answered _ _ => none

def eventsBy (c : Fin n) (log : List (Entry n)) : List Event := log.filterMap fun
  | .did c' e => if c' = c then some e else none
  | .answered _ _ => none

theorem eventsOf_did (c : Fin n) (e : Option Event) (log : List (Entry n)) :
    eventsOf (e.toList.map (.did c) ++ log) = e.toList ++ eventsOf log := by
  cases e <;> rfl

theorem eventsBy_did_self (c : Fin n) (e : Option Event) (log : List (Entry n)) :
    eventsBy c (e.toList.map (.did c) ++ log) = e.toList ++ eventsBy c log := by
  cases e <;> simp [eventsBy]

theorem eventsBy_did_other {c c' : Fin n} (hne : c' ≠ c) (e : Option Event)
    (log : List (Entry n)) : eventsBy c (e.toList.map (.did c') ++ log) = eventsBy c log := by
  cases e <;> simp [eventsBy, hne]

section Settle
variable (s : System n) (c : Fin n) (φ : Phase)

@[simp] theorem settle_g : (s.settle c φ).g = s.g := by
  cases φ <;> rfl

@[simp] theorem eventsOf_settle : eventsOf (s.settle c φ).log = eventsOf s.log := by
  cases φ <;> rfl

@[simp] theorem eventsBy_settle (c' : Fin n) :
    eventsBy c' (s.settle c φ).log = eventsBy c' s.log := by
  cases φ <;> rfl

theorem settle_conn_other {c' : Fin n} (h : c' ≠ c) : (s.settle c φ).conn c' = s.conn c' := by
  cases φ <;> exact Function.update_of_ne h _ _

/-- A settled connection is busy only in the phase it was put into. -/
theorem settle_conn_busy {ψ : Phase} (h : (s.settle c φ).conn c = .busy ψ) : ψ = φ := by
  cases φ with
  | answered resp leave =>
    simp only [settle, Function.update_self] at h
    cases leave <;> cases h
  | _ =>
    simp only [settle, Function.update_self, ConnState.busy.injEq] at h
    exact h.symm

end Settle

@[simp] theorem execute_g (s : System n) (c : Fin n) (call : StateCall) :
    (s.execute c call).g = call.exec s.g := rfl

@[simp] theorem execute_conn (s : System n) (c : Fin n) (call : StateCall) :
    (s.execute c call).conn = s.conn := rfl

@[simp] theorem execute_log (s : System n) (c : Fin n) (call : StateCall) :
    (s.execute c call).log = (call.event s.g).toList.map (.did c) ++ s.log := rfl

/-- No step frees a slot or changes what identifies its sensor. -/
theorem extends_step {s s' : System n} {a : Action n} (hstep : s.step a = some s') :
    Extends s.g s'.g := by
  cases step_cases hstep with
  | connect c hc => exact Extends.refl s.g
  | receive c line hc hline =>
    rw [settle_g]
    exact Extends.refl s.g
  | proceed c φ call hc hcall =>
    rw [settle_g]
    exact extends_exec call s.g
  | disconnect c hc => exact Extends.refl s.g

/-- An action moves no other connection. -/
theorem step_conn_other {s s' : System n} {a : Action n} {c : Fin n} (hstep : s.step a = some s')
    (hne : c ≠ a.conn) : s'.conn c = s.conn c := by
  cases step_cases hstep with
  | connect c' hc => exact Function.update_of_ne hne _ _
  | receive c' line hc hline => exact settle_conn_other _ _ _ hne
  | proceed c' φ call hc hcall => exact settle_conn_other _ _ _ hne
  | disconnect c' hc => exact Function.update_of_ne hne _ _

end System

end IotMonitoring
