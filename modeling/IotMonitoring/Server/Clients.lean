import IotMonitoring.Server.Identity

/-!
# Sensor clients against the server

Any number of clients run `SensorClient.run`, in Python or in Java: connect,
REGISTER, METRICs while the registration stood, and a QUIT of their own id
whatever happened. A `Fleet` is the server's system with
one such client behind each connection; requests interleave at the server's
critical sections. A request counts as sent when the server begins to read it,
and `recv_line` makes its lines of it: an id may hold carriage returns, which
are dropped, and newlines, behind which the rest of the request is a further line.
-/

namespace IotMonitoring

open ByteStrings Binary64
set_option autoImplicit false

/-- What a client is started with. The id is one argument without blanks that fits the id field. -/
structure Client where
  id : Bytes
  type : SensorType
  fits : id.length < maxIdLen
  clean : ∀ c ∈ id, isBlank c = false ∧ c ≠ 0
  valid : type ≠ .invalid

namespace Client

/-- The client the server takes it for: `recv_line` drops carriage returns. -/
def heard (k : Client) : Client where
  id := k.id.filter (· ≠ carriageReturn)
  type := k.type
  fits := Nat.lt_of_le_of_lt (List.length_filter_le _ _) k.fits
  clean := fun c hc => k.clean c (List.mem_of_mem_filter hc)
  valid := k.valid

def registerLine (k : Client) : Bytes :=
  ascii "REGISTER " ++ (k.id ++ space :: sensorTypeToStr k.type)

def metricLine (k : Client) (value timestamp : Bytes) : Bytes :=
  ascii "METRIC " ++ (k.id ++ space :: (value ++ space :: timestamp))

def quitLine (k : Client) : Bytes := ascii "QUIT " ++ k.id

/-- A command as `_send_line` and `sendCommand` put it on the socket. -/
def payload (command : Bytes) : Bytes := command ++ [newline]

end Client

/-- A value and a timestamp that pass the server's checks, each one word of the line. -/
structure ValidReading (value timestamp : Bytes) : Prop where
  valueWord : IsWord isBlank value
  valueText : (0 : UInt8) ∉ value
  valueEnds : ∀ c ∈ value, c ≠ newline ∧ c ≠ carriageReturn
  timestampWord : IsWord isBlank timestamp
  timestampText : (0 : UInt8) ∉ timestamp
  timestampEnds : ∀ c ∈ timestamp, c ≠ newline ∧ c ≠ carriageReturn
  valueOk : (parseDouble value).isSome = true
  timestampOk : isValidTimestamp timestamp = true

instance (value timestamp : Bytes) : Decidable (ValidReading value timestamp) :=
  decidable_of_iff ((IsWord isBlank value ∧ (0 : UInt8) ∉ value ∧
        ∀ c ∈ value, c ≠ newline ∧ c ≠ carriageReturn) ∧
      (IsWord isBlank timestamp ∧ (0 : UInt8) ∉ timestamp ∧
        ∀ c ∈ timestamp, c ≠ newline ∧ c ≠ carriageReturn) ∧
      (parseDouble value).isSome = true ∧ isValidTimestamp timestamp = true)
    ⟨fun ⟨⟨h1, h2, h3⟩, ⟨h4, h5, h6⟩, h7, h8⟩ => ⟨h1, h2, h3, h4, h5, h6, h7, h8⟩,
      fun h => ⟨⟨h.valueWord, h.valueText, h.valueEnds⟩,
        ⟨h.timestampWord, h.timestampText, h.timestampEnds⟩, h.valueOk, h.timestampOk⟩⟩

/-! ## What the server makes of the clients' lines -/

theorem clean_of_word {w : Bytes} (hw : IsWord isBlank w) (hz : (0 : UInt8) ∉ w) :
    ∀ c ∈ w, isBlank c = false ∧ c ≠ 0 := by
  intro c hc
  refine ⟨hw.clean c hc, ?_⟩
  rintro rfl
  exact hz hc

theorem isBlank_space : isBlank space = true := by decide

namespace Client
variable (k : Client)

theorem zero_notMem_id : (0 : UInt8) ∉ k.id := fun h => (k.clean 0 h).2 rfl

theorem word_id (hid : k.id ≠ []) : IsWord isBlank k.id := ⟨hid, fun c hc => (k.clean c hc).1⟩

theorem typeWord : IsWord isBlank (sensorTypeToStr k.type) := by
  cases k.type <;> decide

theorem zero_notMem_type : (0 : UInt8) ∉ sensorTypeToStr k.type := by
  cases k.type <;> decide

theorem start_registerLine : Phase.start (tokenize k.registerLine 8) =
    if k.id = [] then .answered badRequest false else .register k.id k.type := by
  have htext : cString k.registerLine = k.registerLine := by
    apply cString_eq_self
    have hcmd : (0 : UInt8) ∉ ascii "REGISTER " := by decide
    have hspace : (0 : UInt8) ≠ space := by decide
    simp only [registerLine, List.mem_append, List.mem_cons, hcmd, k.zero_notMem_id, hspace,
      k.zero_notMem_type, or_self, not_false_eq_true]
  have hword : IsWord isBlank (ascii "REGISTER") := by decide
  have hcmd : k.registerLine = ascii "REGISTER" ++ space :: (k.id ++ space :: sensorTypeToStr k.type) :=
    rfl
  rw [tokenize, htext, hcmd, tokens_word hword isBlank_space]
  by_cases hid : k.id = []
  · rw [if_pos hid, hid, List.nil_append, tokens_delim isBlank_space, tokens_word_end k.typeWord]
    rfl
  · rw [if_neg hid, tokens_word (k.word_id hid) isBlank_space, tokens_word_end k.typeWord]
    have htype : sensorTypeFromStr (sensorTypeToStr k.type) = k.type :=
      sensorTypeFromStr_toStr k.valid
    simp only [Phase.start, Phase.startRegister, if_true, htype, if_neg k.valid]

theorem start_metricLine {value timestamp : Bytes} (hid : k.id ≠ [])
    (hr : ValidReading value timestamp) : Phase.start (tokenize (k.metricLine value timestamp) 8) =
      .findMetric k.id value timestamp := by
  have htext : cString (k.metricLine value timestamp) = k.metricLine value timestamp := by
    apply cString_eq_self
    have hcmd : (0 : UInt8) ∉ ascii "METRIC " := by decide
    have hspace : (0 : UInt8) ≠ space := by decide
    simp only [metricLine, List.mem_append, List.mem_cons, hcmd, k.zero_notMem_id, hspace,
      hr.valueText, hr.timestampText, or_self, not_false_eq_true]
  have hword : IsWord isBlank (ascii "METRIC") := by decide
  have hcmd : k.metricLine value timestamp =
      ascii "METRIC" ++ space :: (k.id ++ space :: (value ++ space :: timestamp)) := rfl
  rw [tokenize, htext, hcmd, tokens_word hword isBlank_space,
    tokens_word (k.word_id hid) isBlank_space, tokens_word hr.valueWord isBlank_space,
    tokens_word_end hr.timestampWord]
  have hne : ascii "METRIC" ≠ ascii "REGISTER" := by decide
  simp only [Phase.start, Phase.startMetric, if_neg hne, if_true]

theorem start_quitLine : Phase.start (tokenize k.quitLine 8) =
    if k.id = [] then .answered badRequest false else .deactivate k.id := by
  have htext : cString k.quitLine = k.quitLine := by
    apply cString_eq_self
    have hcmd : (0 : UInt8) ∉ ascii "QUIT " := by decide
    simp only [quitLine, List.mem_append, hcmd, k.zero_notMem_id, or_self, not_false_eq_true]
  have hword : IsWord isBlank (ascii "QUIT") := by decide
  have hcmd : k.quitLine = ascii "QUIT" ++ space :: k.id := rfl
  rw [tokenize, htext, hcmd, tokens_word hword isBlank_space]
  have hne : ascii "QUIT" ∉ [ascii "REGISTER", ascii "METRIC", ascii "STATUS", ascii "PING"] := by
    decide
  simp only [List.mem_cons, List.not_mem_nil, or_false, not_or] at hne
  obtain ⟨h1, h2, h3, h4⟩ := hne
  by_cases hid : k.id = []
  · rw [if_pos hid, hid, tokens_nil]
    simp only [Phase.start, Phase.startQuit, if_neg h1, if_neg h2, if_neg h3, if_neg h4, if_true]
  · rw [if_neg hid, tokens_word_end (k.word_id hid)]
    simp only [Phase.start, Phase.startQuit, if_neg h1, if_neg h2, if_neg h3, if_neg h4, if_true]

/-- Of an id with a newline the server hears a REGISTER that lacks its type. -/
theorem start_registerCut {w : Bytes} (hw : ∀ c ∈ w, isBlank c = false ∧ c ≠ 0) :
    Phase.start (tokenize (ascii "REGISTER " ++ w) 8) = .answered badRequest false := by
  have htext : cString (ascii "REGISTER " ++ w) = ascii "REGISTER " ++ w := by
    apply cString_eq_self
    have hcmd : (0 : UInt8) ∉ ascii "REGISTER " := by decide
    have hzero : (0 : UInt8) ∉ w := fun h => (hw 0 h).2 rfl
    simp only [List.mem_append, hcmd, hzero, or_self, not_false_eq_true]
  have hword : IsWord isBlank (ascii "REGISTER") := by decide
  have hcmd : ascii "REGISTER " ++ w = ascii "REGISTER" ++ space :: w := rfl
  rw [tokenize, htext, hcmd, tokens_word hword isBlank_space]
  by_cases hne : w = []
  · rw [hne, tokens_nil]
    rfl
  · rw [tokens_word_end ⟨hne, fun c hc => (hw c hc).1⟩]
    rfl

/-! ## The lines the clients' commands are heard as -/

theorem lineEnds_type : ∀ c ∈ sensorTypeToStr k.type, c ≠ newline ∧ c ≠ carriageReturn := by
  cases k.type <;> decide

theorem filter_lineEnds {w : Bytes} (hw : ∀ c ∈ w, c ≠ newline ∧ c ≠ carriageReturn) :
    w.filter (· ≠ carriageReturn) = w :=
  List.filter_eq_self.mpr fun c hc => decide_eq_true (hw c hc).2

theorem filter_space (w : Bytes) :
    (space :: w).filter (· ≠ carriageReturn) = space :: w.filter (· ≠ carriageReturn) :=
  List.filter_cons_of_pos (by decide)

theorem registerLine_heard :
    k.registerLine.filter (· ≠ carriageReturn) = k.heard.registerLine := by
  have hcmd : (ascii "REGISTER ").filter (· ≠ carriageReturn) = ascii "REGISTER " := by decide
  rw [registerLine, List.filter_append, List.filter_append, hcmd, filter_space,
    filter_lineEnds k.lineEnds_type]
  rfl

theorem metricLine_heard {value timestamp : Bytes} (hr : ValidReading value timestamp) :
    (k.metricLine value timestamp).filter (· ≠ carriageReturn) = k.heard.metricLine value timestamp := by
  have hcmd : (ascii "METRIC ").filter (· ≠ carriageReturn) = ascii "METRIC " := by decide
  rw [metricLine, List.filter_append, List.filter_append, hcmd, filter_space, List.filter_append,
    filter_lineEnds hr.valueEnds, filter_space, filter_lineEnds hr.timestampEnds]
  rfl

theorem quitLine_heard : k.quitLine.filter (· ≠ carriageReturn) = k.heard.quitLine := by
  have hcmd : (ascii "QUIT ").filter (· ≠ carriageReturn) = ascii "QUIT " := by decide
  rw [quitLine, List.filter_append, hcmd]
  rfl

theorem newline_notMem_registerLine (hid : newline ∉ k.id) : newline ∉ k.registerLine := by
  have hcmd : newline ∉ ascii "REGISTER " := by decide
  have hspace : newline ≠ space := by decide
  have htype : newline ∉ sensorTypeToStr k.type := fun h => (k.lineEnds_type newline h).1 rfl
  simp only [registerLine, List.mem_append, List.mem_cons, hcmd, hid, hspace, htype, or_self,
    not_false_eq_true]

theorem newline_notMem_metricLine {value timestamp : Bytes} (hid : newline ∉ k.id)
    (hr : ValidReading value timestamp) : newline ∉ k.metricLine value timestamp := by
  have hcmd : newline ∉ ascii "METRIC " := by decide
  have hspace : newline ≠ space := by decide
  have hvalue : newline ∉ value := fun h => (hr.valueEnds newline h).1 rfl
  have htimestamp : newline ∉ timestamp := fun h => (hr.timestampEnds newline h).1 rfl
  simp only [metricLine, List.mem_append, List.mem_cons, hcmd, hid, hspace, hvalue, htimestamp,
    or_self, not_false_eq_true]

theorem newline_notMem_quitLine (hid : newline ∉ k.id) : newline ∉ k.quitLine := by
  have hcmd : newline ∉ ascii "QUIT " := by decide
  simp only [quitLine, List.mem_append, hcmd, hid, or_self, not_false_eq_true]

theorem length_registerLine : k.registerLine.length + 1 < bufferSize := by
  have hword : (ascii "REGISTER ").length = 9 := by decide
  have htype : (sensorTypeToStr k.type).length ≤ 7 := by cases k.type <;> decide
  have hfits : k.id.length < 64 := k.fits
  simp only [registerLine, List.length_append, List.length_cons, hword, bufferSize]
  omega

theorem length_quitLine : k.quitLine.length + 1 < bufferSize := by
  have hword : (ascii "QUIT ").length = 5 := by decide
  have hfits : k.id.length < 64 := k.fits
  simp only [quitLine, List.length_append, hword, bufferSize]
  omega

end Client

/-! ## The fleet -/

inductive ClientPhase where
  | off | started | awaiting | registered | refused | leaving
deriving DecidableEq

structure Fleet (n : Nat) where
  sys : System n
  phase : Fin n → ClientPhase
  /-- What a client has sent behind the lines the server has read. -/
  unread : Fin n → Bytes

inductive Request (n : Nat) where
  | connect (c : Fin n)
  | register (c : Fin n)
  | metric (c : Fin n) (value timestamp : Bytes)
  | quit (c : Fin n)
  /-- The server reads a further line of what this client has sent. -/
  | read (c : Fin n)
  /-- The server runs the next critical section of this client's request. -/
  | serve (c : Fin n)
  | hangUp (c : Fin n)

/-- `register_response.startswith("200")`. -/
def accepted (resp : Bytes) : Bool := (ascii "200").isPrefixOf resp

theorem accepted_registerReply_iff (id : Bytes) (result : RegisterResult) :
    accepted (registerReply id result) = true ↔ result = .ok := by
  cases result with
  | ok => exact ⟨fun _ => rfl, fun _ => rfl⟩
  | tableFull => exact ⟨nofun, nofun⟩
  | alreadyExists => exact ⟨nofun, nofun⟩
  | invalidType => exact ⟨nofun, nofun⟩

namespace Fleet
variable {n : Nat} (client : Fin n → Client)

def init (n : Nat) : Fleet n := ⟨System.init n, fun _ => .off, fun _ => []⟩

/-- A client awaiting its reply looks at the newest one as soon as it is answered. -/
def judge (s : System n) (c : Fin n) : ClientPhase → ClientPhase
  | .awaiting =>
    match s.conn c, s.log with
    | .idle, .answered _ resp :: _ => if accepted resp then .registered else .refused
    | _, _ => .awaiting
  | p => p

/-- The server reads one line of the bytes that came, and turns to it or, where there is none, leaves
the connection; with the bytes it has not read. What came ends in a newline, so it never waits. -/
def hear (s : System n) (c : Fin n) (bytes : Bytes) : Option (System n × Bytes) :=
  let r := recvLine bufferSize ⟨bytes, .closed⟩
  (if r.ret ≤ 0 then s.step (.disconnect c) else s.step (.receive c r.buf)).map fun t => (t, r.rest)

def setClient (f : Fleet n) (c : Fin n) (p : ClientPhase) (r : System n × Bytes) : Fleet n :=
  ⟨r.1, Function.update f.phase c p, Function.update f.unread c r.2⟩

def step (f : Fleet n) : Request n → Option (Fleet n)
  | .connect c =>
    if f.phase c = .off then
      (f.sys.step (.connect c)).map fun s => f.setClient c .started (s, f.unread c)
    else none
  | .register c =>
    if f.phase c = .started then
      (hear f.sys c (Client.payload (client c).registerLine)).map fun r =>
        f.setClient c (judge r.1 c .awaiting) r
    else none
  | .metric c value timestamp =>
    if f.phase c = .registered ∧ ValidReading value timestamp ∧
        ((client c).metricLine value timestamp).length + 1 < bufferSize then
      (hear f.sys c (Client.payload ((client c).metricLine value timestamp))).map
        (f.setClient c .registered)
    else none
  | .quit c =>
    if (f.phase c = .started ∨ f.phase c = .registered ∨ f.phase c = .refused) ∧ f.unread c = [] then
      (hear f.sys c (Client.payload (client c).quitLine)).map (f.setClient c .leaving)
    else none
  | .read c =>
    if f.unread c = [] then none
    else (hear f.sys c (f.unread c)).map (f.setClient c (f.phase c))
  | .serve c =>
    (f.sys.step (.proceed c)).map fun s => f.setClient c (judge s c (f.phase c)) (s, f.unread c)
  | .hangUp c =>
    if f.phase c = .leaving then
      (f.sys.step (.disconnect c)).map fun s => f.setClient c .leaving (s, f.unread c)
    else none

/-- A registered client's sensor is ACTIVE, and the next reply to it, if its METRIC is about to be
answered, is 200 OK. -/
structure Undisturbed (f : Fleet n) : Prop where
  active : ∀ c, f.phase c = .registered → ∃ i, f.sys.g.slotOf (client c).heard.id = some i ∧
    (f.sys.g.sensors i).status = .active
  answered : ∀ c φ resp leave, f.phase c = .registered → f.sys.conn c = .busy φ →
    φ.next f.sys.g = .answered resp leave → resp = metricOk

/-- The step is not a QUIT of a sensor for which another client is registered. -/
def NoForeignQuit (f : Fleet n) : Request n → Prop
  | .serve c =>
    match f.sys.conn c with
    | .busy (.deactivate id) => ∀ c', f.phase c' = .registered → (client c').heard.id ≠ id
    | _ => True
  | _ => True

instance (f : Fleet n) (r : Request n) : Decidable (f.NoForeignQuit client r) := by
  unfold NoForeignQuit
  split
  · split <;> infer_instance
  · infer_instance

/-! ## Where a client's request is -/

/-- The phases of a valid METRIC of a client. -/
def Reporting (k : Client) : Phase → Prop
  | .findMetric id value timestamp =>
    id = k.heard.id ∧ (parseDouble value).isSome = true ∧ isValidTimestamp timestamp = true
  | .addMetric id _ _ _ => id = k.heard.id
  | .addAlert id _ _ _ _ _ => id = k.heard.id
  | .setLevel id _ => id = k.heard.id
  | _ => False

/-- What the server is doing for a client in each phase of its program. Of an id with a newline it
is known only that it is refused: the lines behind may be any commands. -/
def Coherent (k : Client) : ClientPhase → ConnState → Prop
  | .off, conn => conn = .fresh
  | .started, conn => conn = .idle
  | .awaiting, conn => conn = .busy (.register k.heard.id k.heard.type)
  | .registered, conn => conn = .idle ∨ ∃ φ, conn = .busy φ ∧ Reporting k φ
  | .refused, conn => newline ∉ k.id → conn = .idle
  | .leaving, conn =>
    newline ∉ k.id → conn = .idle ∨ conn = .closed ∨ conn = .busy (.deactivate k.heard.id)

/-- Nothing is left to read before the REGISTER, and never of an id without newline. -/
def Drained (k : Client) (p : ClientPhase) (unread : Bytes) : Prop :=
  newline ∉ k.id ∨ p = .off ∨ p = .started → unread = []

structure FleetOk (f : Fleet n) : Prop where
  ok : f.sys.SystemOk
  coherent : ∀ c, Coherent (client c) (f.phase c) (f.sys.conn c)
  drained : ∀ c, Drained (client c) (f.phase c) (f.unread c)
  active : ∀ c, f.phase c = .registered → ∃ i, f.sys.g.slotOf (client c).heard.id = some i ∧
    (f.sys.g.sensors i).status = .active
  named : ∀ c, f.phase c = .registered ∨ f.phase c = .awaiting →
    newline ∉ (client c).id ∧ (client c).heard.id ≠ []

variable {client}

theorem fleetOk_init : FleetOk client (init n) where
  ok := System.systemOk_init
  coherent := fun _ => rfl
  drained := fun _ _ => rfl
  active := by
    intro c hc
    cases hc
  named := by
    rintro c (hc | hc) <;> cases hc

/-- While its sensor is ACTIVE a valid METRIC is answered 200 OK, and by its last section only. -/
theorem next_reporting {g : GlobalState} {k : Client} {φ : Phase} (hok : PhaseOk g φ)
    (hφ : Reporting k φ) (hact : ∃ i, g.slotOf k.heard.id = some i ∧ (g.sensors i).status = .active) :
    φ.next g = .answered metricOk false ∨ Reporting k (φ.next g) := by
  cases φ with
  | findMetric id value timestamp =>
    obtain ⟨rfl, hv, hts⟩ := hφ
    obtain ⟨i, hs, hst⟩ := hact
    obtain ⟨v, hv⟩ := Option.isSome_iff_exists.mp hv
    refine Or.inr ?_
    simp only [Phase.next, stateFindSensor, hs, Option.map_some, checkMetric, hst, ne_eq,
      not_true_eq_false, if_false, hv, hts, if_true]
    rfl
  | addMetric id value timestamp type =>
    rw [next_addMetric hok]
    unfold Phase.evaluate
    refine Or.inr ?_
    split <;> exact hφ
  | addAlert id value threshold timestamp type message => exact Or.inr hφ
  | setLevel id level => exact Or.inl rfl
  | register id type => cases hφ
  | findStatus id => cases hφ
  | deactivate id => cases hφ
  | answered resp leave => cases hφ

theorem FleetOk.undisturbed {f : Fleet n} (h : FleetOk client f) : f.Undisturbed client where
  active := h.active
  answered := by
    intro c φ resp leave hc hφ hnext
    have hcoh := h.coherent c
    rw [hc, hφ] at hcoh
    rcases hcoh with hidle | ⟨ψ, hψ, hrep⟩
    · cases hidle
    · cases hψ
      rcases next_reporting (h.ok.phases c φ hφ) hrep (h.active c hc) with hn | hn
      · rw [hn] at hnext
        cases hnext
        rfl
      · rw [hnext] at hn
        cases hn

/-! ## Registering -/

theorem accepted_registerReply {k : Client} (result : RegisterResult) :
    accepted (registerReply k.id result) = decide (result = .ok) := by
  rw [Bool.eq_iff_iff, decide_eq_true_iff]
  exact accepted_registerReply_iff k.id result

theorem registered_of_accepted {g : GlobalState} {k : Client} (ht : TableOk g)
    (hok : (stateRegisterSensor k.id k.type g).1 = .ok) :
    ∃ i, ((StateCall.register k.id k.type).exec g).slotOf k.id = some i ∧
      (((StateCall.register k.id k.type).exec g).sensors i).status = .active := by
  have hevent := (event_register_isSome k.id k.type g).mpr hok
  obtain ⟨e, he⟩ := Option.isSome_iff_exists.mp hevent
  obtain ⟨i, rfl, -⟩ := event_register he
  exact ⟨i, slotOf_registered ht he fun _ => newSensor_id k.type k.zero_notMem_id k.fits⟩

/-- Only a QUIT of its id takes an ACTIVE sensor from its client. -/
theorem active_step {s s' : System n} {a : Action n} {id : Bytes} (hok : s.SystemOk)
    (hstep : s.step a = some s') (hquit : ∀ c, a = .proceed c → s.conn c ≠ .busy (.deactivate id))
    (hact : ∃ i, s.g.slotOf id = some i ∧ (s.g.sensors i).status = .active) :
    ∃ i, s'.g.slotOf id = some i ∧ (s'.g.sensors i).status = .active := by
  obtain ⟨i, hs, hst⟩ := hact
  cases System.step_cases hstep with
  | connect c hc => exact ⟨i, hs, hst⟩
  | receive c line hc hline =>
    rw [System.settle_g]
    exact ⟨i, hs, hst⟩
  | proceed c φ call hc hcall =>
    rw [System.settle_g]
    refine ⟨i, slotOf_extends hok.table (extends_exec call s.g) hs,
      status_exec (slotOf_occupied hs) hst ?_⟩
    intro id' he
    obtain ⟨rfl, hs'⟩ := deactivated_call he
    obtain rfl : id' = id := (slotOf_id hs'.symm).symm.trans (slotOf_id hs)
    cases φ with
    | deactivate id'' =>
      cases hcall
      exact hquit c rfl hc
    | _ => cases hcall
  | disconnect c hc => exact ⟨i, hs, hst⟩

/-! ## Requests as they are heard -/

theorem step_receive {s s' : System n} {c : Fin n} {line : Bytes}
    (h : s.step (.receive c line) = some s') :
    s' = s.settle c (Phase.start (tokenize line 8)) := by
  cases System.step_cases h with
  | receive _ _ hc hline => rfl

theorem busy_of_proceed {s s' : System n} {c : Fin n} (h : s.step (.proceed c) = some s') :
    ∃ φ, s.conn c = .busy φ := by
  cases System.step_cases h with
  | proceed _ φ call hc hcall => exact ⟨φ, hc⟩

/-- The server's step for what it hears is of this connection and enters no critical section. -/
theorem hear_action {s : System n} {c : Fin n} {bytes : Bytes} {r : System n × Bytes}
    (h : hear s c bytes = some r) :
    ∃ a : Action n, a.conn = c ∧ (∀ d, a ≠ .proceed d) ∧ s.step a = some r.1 := by
  unfold hear at h
  obtain ⟨t, ht, rfl⟩ := Option.map_eq_some_iff.mp h
  split at ht
  · exact ⟨.disconnect c, rfl, fun d => by simp, ht⟩
  · exact ⟨.receive c _, rfl, fun d => by simp, ht⟩

/-- The first line of a request is heard without its carriage returns. -/
theorem hear_line {s : System n} {c : Fin n} {line following : Bytes} (hline : newline ∉ line)
    (hroom : (line.filter (· ≠ carriageReturn)).length + 1 < bufferSize)
    (hne : line.filter (· ≠ carriageReturn) ≠ []) : hear s c (line ++ newline :: following) =
      (s.step (.receive c (line.filter (· ≠ carriageReturn)))).map fun t => (t, following) := by
  have hpos := List.length_pos_of_ne_nil hne
  have hret : ¬ ((line.filter (· ≠ carriageReturn)).length : Int) ≤ 0 := by omega
  rw [hear, recvLine_payload hline hroom]
  exact congrArg _ (if_neg hret)

/-- A request of one line is heard whole. -/
theorem hear_payload {s : System n} {c : Fin n} {line heard : Bytes} (hline : newline ∉ line)
    (hroom : line.length + 1 < bufferSize) (hheard : line.filter (· ≠ carriageReturn) = heard)
    (hne : heard ≠ []) :
    hear s c (Client.payload line) = (s.step (.receive c heard)).map fun t => (t, []) := by
  subst hheard
  have hlen := List.length_filter_le (· ≠ carriageReturn) line
  exact hear_line hline (by omega) hne

/-- A REGISTER is heard as the client means it, or its id holds a newline and it is refused. -/
theorem hear_register {s : System n} {c : Fin n} {k : Client} {r : System n × Bytes}
    (h : hear s c (Client.payload k.registerLine) = some r) : ∃ line,
      s.step (.receive c line) = some r.1 ∧
        (newline ∉ k.id ∧ line = k.heard.registerLine ∧ r.2 = [] ∨
          newline ∈ k.id ∧ Phase.start (tokenize line 8) = .answered badRequest false) := by
  by_cases hid : newline ∈ k.id
  · obtain ⟨pre, post, hsplit, hpre⟩ := List.eq_append_cons_of_mem hid
    have hcmd : (ascii "REGISTER ").filter (· ≠ carriageReturn) = ascii "REGISTER " := by decide
    have hbytes : Client.payload k.registerLine = (ascii "REGISTER " ++ pre) ++
        newline :: (post ++ space :: sensorTypeToStr k.type ++ [newline]) := by
      simp only [Client.payload, Client.registerLine, hsplit, List.append_assoc, List.cons_append]
    have hclean : ∀ b ∈ pre.filter (· ≠ carriageReturn), isBlank b = false ∧ b ≠ 0 := by
      intro b hb
      apply k.clean b
      rw [hsplit]
      exact List.mem_append_left _ (List.mem_of_mem_filter hb)
    have hline : newline ∉ ascii "REGISTER " ++ pre := by
      have hword : newline ∉ ascii "REGISTER " := by decide
      simp only [List.mem_append, hword, hpre, or_self, not_false_eq_true]
    have hroom : ((ascii "REGISTER " ++ pre).filter (· ≠ carriageReturn)).length + 1 < bufferSize := by
      have hall := k.length_registerLine
      have hkept := List.length_filter_le (· ≠ carriageReturn) (ascii "REGISTER " ++ pre)
      rw [Client.registerLine, hsplit] at hall
      simp only [List.length_append, List.length_cons] at hall hkept
      omega
    rw [hbytes, hear_line hline hroom (by
      rw [List.filter_append, hcmd]
      exact List.append_ne_nil_of_left_ne_nil (by decide) _)] at h
    obtain ⟨t, ht, rfl⟩ := Option.map_eq_some_iff.mp h
    refine ⟨_, ht, Or.inr ⟨hid, ?_⟩⟩
    rw [List.filter_append, hcmd]
    exact Client.start_registerCut hclean
  · rw [hear_payload (k.newline_notMem_registerLine hid) k.length_registerLine k.registerLine_heard
      (List.append_ne_nil_of_left_ne_nil (by decide) _)] at h
    obtain ⟨t, ht, rfl⟩ := Option.map_eq_some_iff.mp h
    exact ⟨_, ht, Or.inl ⟨hid, rfl, rfl⟩⟩

theorem hear_metric {s : System n} {c : Fin n} {k : Client} {value timestamp : Bytes}
    (hid : newline ∉ k.id) (hr : ValidReading value timestamp)
    (hroom : (k.metricLine value timestamp).length + 1 < bufferSize) :
    hear s c (Client.payload (k.metricLine value timestamp)) =
      (s.step (.receive c (k.heard.metricLine value timestamp))).map fun t => (t, []) :=
  hear_payload (k.newline_notMem_metricLine hid hr) hroom (k.metricLine_heard hr)
    (List.append_ne_nil_of_left_ne_nil (by decide) _)

theorem hear_quit {s : System n} {c : Fin n} {k : Client} (hid : newline ∉ k.id) :
    hear s c (Client.payload k.quitLine) =
      (s.step (.receive c k.heard.quitLine)).map fun t => (t, []) :=
  hear_payload (k.newline_notMem_quitLine hid) k.length_quitLine k.quitLine_heard
    (List.append_ne_nil_of_left_ne_nil (by decide) _)

/-! ## Steps of the fleet -/

theorem fleetOk_setClient {f : Fleet n} {c : Fin n} {a : Action n} {r : System n × Bytes}
    {p : ClientPhase} (h : FleetOk client f) (ha : a.conn = c) (hstep : f.sys.step a = some r.1)
    (hcoh : Coherent (client c) p (r.1.conn c)) (hdrained : Drained (client c) p r.2)
    (hact : p = .registered → ∃ i, r.1.g.slotOf (client c).heard.id = some i ∧
      (r.1.g.sensors i).status = .active)
    (hnamed : p = .registered ∨ p = .awaiting →
      newline ∉ (client c).id ∧ (client c).heard.id ≠ [])
    (hquit : ∀ c', f.phase c' = .registered → ∀ d, a = .proceed d →
      f.sys.conn d ≠ .busy (.deactivate (client c').heard.id)) :
    FleetOk client (f.setClient c p r) := by
  have hphase : ∀ c', c' ≠ c → (f.setClient c p r).phase c' = f.phase c' :=
    fun c' hne => Function.update_of_ne hne _ _
  have hself : (f.setClient c p r).phase c = p := Function.update_self _ _ _
  refine ⟨System.systemOk_step h.ok hstep, ?_, ?_, ?_, ?_⟩
  · intro c'
    by_cases hne : c' = c
    · subst hne
      rw [hself]
      exact hcoh
    · rw [hphase c' hne]
      have hconn : r.1.conn c' = f.sys.conn c' := System.step_conn_other hstep (by rw [ha]; exact hne)
      rw [show (f.setClient c p r).sys = r.1 from rfl, hconn]
      exact h.coherent c'
  · intro c'
    by_cases hne : c' = c
    · subst hne
      rw [hself, show (f.setClient c' p r).unread c' = r.2 from Function.update_self _ _ _]
      exact hdrained
    · rw [hphase c' hne,
        show (f.setClient c p r).unread c' = f.unread c' from Function.update_of_ne hne _ _]
      exact h.drained c'
  · intro c' hc'
    by_cases hne : c' = c
    · subst hne
      rw [hself] at hc'
      exact hact hc'
    · rw [hphase c' hne] at hc'
      exact active_step h.ok hstep (hquit c' hc') (h.active c' hc')
  · intro c' hc'
    by_cases hne : c' = c
    · subst hne
      rw [hself] at hc'
      exact hnamed hc'
    · rw [hphase c' hne] at hc'
      exact h.named c' hc'

/-- A client that is not registered has nothing to lose. -/
theorem fleetOk_unregistered {f : Fleet n} {c : Fin n} {a : Action n} {r : System n × Bytes}
    {p : ClientPhase} (h : FleetOk client f) (ha : a.conn = c) (hstep : f.sys.step a = some r.1)
    (hp : p ≠ .registered ∧ p ≠ .awaiting) (hcoh : Coherent (client c) p (r.1.conn c))
    (hdrained : Drained (client c) p r.2)
    (hquit : ∀ c', f.phase c' = .registered → ∀ d, a = .proceed d →
      f.sys.conn d ≠ .busy (.deactivate (client c').heard.id)) :
    FleetOk client (f.setClient c p r) := by
  refine fleetOk_setClient h ha hstep hcoh hdrained (fun hr => absurd hr hp.1) ?_ hquit
  rintro (hr | hr)
  · exact absurd hr hp.1
  · exact absurd hr hp.2

theorem fleetOk_register {f : Fleet n} {c : Fin n} {r : System n × Bytes} (h : FleetOk client f)
    (hhear : hear f.sys c (Client.payload (client c).registerLine) = some r) :
    FleetOk client (f.setClient c (judge r.1 c .awaiting) r) := by
  obtain ⟨s, unread⟩ := r
  obtain ⟨line, hstep, hheard⟩ := hear_register hhear
  have hs : s = f.sys.settle c (Phase.start (tokenize line 8)) := step_receive hstep
  -- a request that is refused at once, for a newline in its id or for want of an id
  have hrefused : Phase.start (tokenize line 8) = .answered badRequest false →
      (newline ∉ (client c).id → unread = []) →
      FleetOk client (f.setClient c (judge s c .awaiting) (s, unread)) := by
    intro hstart hdrained
    rw [hstart] at hs
    have hidle : s.conn c = .idle := by
      simp only [hs, System.settle, Function.update_self, Bool.false_eq_true, if_false]
    have hjudge : judge s c .awaiting = .refused := by
      simp only [judge, hs, System.settle, Function.update_self, Bool.false_eq_true, if_false]
      rfl
    rw [hjudge]
    refine fleetOk_unregistered h rfl hstep (by decide) (fun _ => hidle) ?_
      (fun _ _ _ hd => by cases hd)
    rintro (hid | hp | hp)
    · exact hdrained hid
    · cases hp
    · cases hp
  rcases hheard with ⟨hid, rfl, rfl⟩ | ⟨hid, hstart⟩
  · have hstart := (client c).heard.start_registerLine
    by_cases hname : (client c).heard.id = []
    · rw [if_pos hname] at hstart
      exact hrefused hstart fun _ => rfl
    · rw [if_neg hname] at hstart
      rw [hstart] at hs
      have hconn : s.conn c = .busy (.register (client c).heard.id (client c).heard.type) := by
        simp only [hs, System.settle, Function.update_self]
      have hjudge : judge s c .awaiting = .awaiting := by
        simp only [judge, hconn]
      rw [hjudge]
      exact fleetOk_setClient h rfl hstep hconn (fun _ => rfl) (fun hr => by cases hr)
        (fun _ => ⟨hid, hname⟩) (fun _ _ _ hd => by cases hd)
  · exact hrefused hstart fun hnot => absurd hid hnot

theorem judge_of_ne {s : System n} {c : Fin n} {p : ClientPhase} (hp : p ≠ .awaiting) :
    judge s c p = p := by
  cases p with
  | awaiting => exact absurd rfl hp
  | _ => rfl

/-- The server handles a REGISTER the client is waiting for. -/
theorem fleetOk_answer {f : Fleet n} {c : Fin n} {s : System n} (h : FleetOk client f)
    (hp : f.phase c = .awaiting) (hstep : f.sys.step (.proceed c) = some s) :
    FleetOk client (f.setClient c (judge s c .awaiting) (s, f.unread c)) := by
  have hcoh := h.coherent c
  rw [hp] at hcoh
  have hnamed := h.named c (Or.inr hp)
  have hdrained := h.drained c
  cases System.step_cases hstep with
  | proceed _ φ call hc hcall =>
    obtain rfl := ConnState.busy.inj (hc.symm.trans hcoh)
    cases hcall
    have hjudge : judge ((f.sys.execute c (.register (client c).heard.id (client c).heard.type)).settle c
        ((Phase.register (client c).heard.id (client c).heard.type).next f.sys.g)) c .awaiting =
        if (stateRegisterSensor (client c).heard.id (client c).heard.type f.sys.g).1 = .ok then .registered
        else .refused := by
      simp only [judge, Phase.next, System.settle, Function.update_self, Bool.false_eq_true, if_false,
        accepted_registerReply, decide_eq_true_eq]
    rw [hjudge]
    refine fleetOk_setClient h rfl hstep ?_ ?_ ?_ (fun _ => hnamed) ?_
    · have hidle : ((f.sys.execute c (.register (client c).heard.id (client c).heard.type)).settle c
          ((Phase.register (client c).heard.id (client c).heard.type).next f.sys.g)).conn c = .idle := by
        simp only [Phase.next, System.settle, Function.update_self, Bool.false_eq_true, if_false]
      rw [hidle]
      split
      · exact Or.inl rfl
      · exact fun _ => rfl
    · exact fun _ => hdrained (Or.inl hnamed.1)
    · intro hr
      rw [System.settle_g, System.execute_g]
      apply registered_of_accepted (k := (client c).heard) h.ok.table
      by_contra hno
      rw [if_neg hno] at hr
      cases hr
    · rintro c' - d hd hbusy
      cases hd
      rw [hc] at hbusy
      cases hbusy

/-- The server runs a section of a registered client's METRIC. -/
theorem fleetOk_report {f : Fleet n} {c : Fin n} {s : System n} (h : FleetOk client f)
    (hp : f.phase c = .registered) (hstep : f.sys.step (.proceed c) = some s) :
    FleetOk client (f.setClient c .registered (s, f.unread c)) := by
  have hcoh := h.coherent c
  rw [hp] at hcoh
  have hnamed := h.named c (Or.inl hp)
  have hdrained := h.drained c
  have hact := h.active c hp
  rcases hcoh with hidle | ⟨φ, hbusy, hrep⟩
  · rw [System.step, hidle] at hstep
    cases hstep
  · have hnodeact : ∀ id, f.sys.conn c ≠ .busy (.deactivate id) := by
      intro id hd
      rw [hbusy] at hd
      cases hd
      exact hrep
    have hnext := next_reporting (h.ok.phases c φ hbusy) hrep hact
    have hquit : ∀ (id : Bytes) d, Action.proceed c = Action.proceed d →
        f.sys.conn d ≠ .busy (.deactivate id) := by
      intro id d hd
      cases hd
      exact hnodeact id
    refine fleetOk_setClient h rfl hstep ?_ (fun _ => hdrained (Or.inl hnamed.1))
      (fun _ => active_step h.ok hstep (hquit _) hact) (fun _ => hnamed) (fun _ _ => hquit _)
    cases System.step_cases hstep with
    | proceed _ ψ call hc hcall =>
      obtain rfl := ConnState.busy.inj (hc.symm.trans hbusy)
      rcases hnext with hn | hn
      · rw [hn]
        refine Or.inl ?_
        simp only [System.settle, Function.update_self, Bool.false_eq_true, if_false]
      · refine Or.inr ⟨_, ?_, hn⟩
        cases hψ : ψ.next f.sys.g with
        | answered resp leave =>
          rw [hψ] at hn
          cases hn
        | _ => simp only [System.settle, Function.update_self]

theorem fleetOk_metric {f : Fleet n} {c : Fin n} {r : System n × Bytes} {value timestamp : Bytes}
    (h : FleetOk client f) (hp : f.phase c = .registered) (hr : ValidReading value timestamp)
    (hroom : ((client c).metricLine value timestamp).length + 1 < bufferSize)
    (hhear : hear f.sys c (Client.payload ((client c).metricLine value timestamp)) = some r) :
    FleetOk client (f.setClient c .registered r) := by
  have hnamed := h.named c (Or.inl hp)
  rw [hear_metric hnamed.1 hr hroom] at hhear
  obtain ⟨s, hs, rfl⟩ := Option.map_eq_some_iff.mp hhear
  have hnoquit : ∀ (id : Bytes) d, Action.receive c ((client c).heard.metricLine value timestamp) =
      Action.proceed d → f.sys.conn d ≠ .busy (.deactivate id) := fun _ _ hd => by cases hd
  refine fleetOk_setClient h rfl hs ?_ (fun _ => rfl)
    (fun _ => active_step h.ok hs (hnoquit _) (h.active c hp)) (fun _ => hnamed)
    (fun _ _ => hnoquit _)
  have hstart := (client c).heard.start_metricLine hnamed.2 hr
  refine Or.inr ⟨.findMetric (client c).heard.id value timestamp, ?_, rfl, hr.valueOk, hr.timestampOk⟩
  simp only [step_receive hs, hstart, System.settle, Function.update_self]

theorem fleetOk_quit {f : Fleet n} {c : Fin n} {r : System n × Bytes} (h : FleetOk client f)
    (hhear : hear f.sys c (Client.payload (client c).quitLine) = some r) :
    FleetOk client (f.setClient c .leaving r) := by
  obtain ⟨a, ha, hnot, hstep⟩ := hear_action hhear
  refine fleetOk_unregistered h ha hstep (by decide) ?_ ?_ (fun _ _ d hd => absurd hd (hnot d))
  · intro hid
    rw [hear_quit hid] at hhear
    obtain ⟨s, hs, rfl⟩ := Option.map_eq_some_iff.mp hhear
    simp only [step_receive hs, (client c).heard.start_quitLine]
    split
    · refine Or.inl ?_
      simp only [System.settle, Function.update_self, Bool.false_eq_true, if_false]
    · refine Or.inr (Or.inr ?_)
      simp only [System.settle, Function.update_self]
  · rintro (hid | hp | hp)
    · rw [hear_quit hid] at hhear
      obtain ⟨s, -, rfl⟩ := Option.map_eq_some_iff.mp hhear
      rfl
    · cases hp
    · cases hp

/-- A line is left to read only of a client whose id holds a newline, and that one is refused. -/
theorem fleetOk_read {f : Fleet n} {c : Fin n} {r : System n × Bytes} (h : FleetOk client f)
    (hleft : f.unread c ≠ []) (hhear : hear f.sys c (f.unread c) = some r) :
    FleetOk client (f.setClient c (f.phase c) r) := by
  obtain ⟨a, ha, hnot, hstep⟩ := hear_action hhear
  have hundrained := mt (h.drained c) hleft
  simp only [not_or, not_not] at hundrained
  obtain ⟨hid, hoff, hstarted⟩ := hundrained
  have hp : f.phase c ≠ .registered ∧ f.phase c ≠ .awaiting :=
    ⟨fun hr => (h.named c (Or.inl hr)).1 hid, fun hr => (h.named c (Or.inr hr)).1 hid⟩
  refine fleetOk_unregistered h ha hstep hp ?_ ?_ (fun _ _ d hd => absurd hd (hnot d))
  · cases hphase : f.phase c with
    | off => exact absurd hphase hoff
    | started => exact absurd hphase hstarted
    | awaiting => exact absurd hphase hp.2
    | registered => exact absurd hphase hp.1
    | refused => exact fun hno => absurd hid hno
    | leaving => exact fun hno => absurd hid hno
  · rintro (hno | hr | hr)
    · exact absurd hid hno
    · exact absurd hr hoff
    · exact absurd hr hstarted

/-- The server runs a section for a client that was refused or is leaving: a QUIT. -/
theorem fleetOk_leave {f : Fleet n} {c : Fin n} {s : System n} (h : FleetOk client f)
    (hp : f.phase c = .refused ∨ f.phase c = .leaving) (hgood : f.NoForeignQuit client (.serve c))
    (hstep : f.sys.step (.proceed c) = some s) :
    FleetOk client (f.setClient c (f.phase c) (s, f.unread c)) := by
  have hcoh := h.coherent c
  have hdrained := h.drained c
  refine fleetOk_unregistered h rfl hstep ?_ ?_ hdrained ?_
  · rcases hp with hp | hp <;> rw [hp] <;> decide
  · cases System.step_cases hstep with
    | proceed _ φ call hc hcall =>
      rcases hp with hp | hp
      · rw [hp, hc] at hcoh
        rw [hp]
        exact fun hid => absurd (hcoh hid) (by simp)
      · rw [hp, hc] at hcoh
        rw [hp]
        intro hid
        rcases hcoh hid with hcoh | hcoh | hcoh
        · cases hcoh
        · cases hcoh
        · cases hcoh
          refine Or.inr (Or.inl ?_)
          simp only [Phase.next, System.settle, Function.update_self, if_true]
  · intro c' hc' d hd hconn
    cases hd
    rw [NoForeignQuit, hconn] at hgood
    exact hgood c' hc' rfl

theorem fleetOk_step {f f' : Fleet n} {r : Request n} (h : FleetOk client f)
    (hgood : f.NoForeignQuit client r) (hstep : f.step client r = some f') :
    FleetOk client f' := by
  cases r with
  | connect c =>
    simp only [step] at hstep
    split at hstep
    · rename_i hp
      obtain ⟨s, hs, rfl⟩ := Option.map_eq_some_iff.mp hstep
      refine fleetOk_unregistered h rfl hs (by decide) ?_ (fun _ => h.drained c (Or.inr (Or.inl hp)))
        (fun _ _ _ hd => by cases hd)
      cases System.step_cases hs with
      | connect _ hc => exact Function.update_self _ _ _
    · cases hstep
  | register c =>
    simp only [step] at hstep
    split at hstep
    · obtain ⟨r, hr, rfl⟩ := Option.map_eq_some_iff.mp hstep
      exact fleetOk_register h hr
    · cases hstep
  | metric c value timestamp =>
    simp only [step] at hstep
    split at hstep
    · rename_i hp
      obtain ⟨hp, hvalid, hroom⟩ := hp
      obtain ⟨r, hr, rfl⟩ := Option.map_eq_some_iff.mp hstep
      exact fleetOk_metric h hp hvalid hroom hr
    · cases hstep
  | quit c =>
    simp only [step] at hstep
    split at hstep
    · obtain ⟨r, hr, rfl⟩ := Option.map_eq_some_iff.mp hstep
      exact fleetOk_quit h hr
    · cases hstep
  | read c =>
    simp only [step] at hstep
    split at hstep
    · cases hstep
    · obtain ⟨r, hr, rfl⟩ := Option.map_eq_some_iff.mp hstep
      exact fleetOk_read h ‹_› hr
  | serve c =>
    obtain ⟨s, hs, rfl⟩ := Option.map_eq_some_iff.mp hstep
    have hcoh := h.coherent c
    obtain ⟨φ, hφ⟩ := busy_of_proceed hs
    cases hp : f.phase c with
    | awaiting => exact fleetOk_answer h hp hs
    | registered =>
      rw [judge_of_ne (by decide)]
      exact fleetOk_report h hp hs
    | refused =>
      rw [judge_of_ne (by decide), ← hp]
      exact fleetOk_leave h (Or.inl hp) hgood hs
    | leaving =>
      rw [judge_of_ne (by decide), ← hp]
      exact fleetOk_leave h (Or.inr hp) hgood hs
    | off =>
      rw [hp, hφ] at hcoh
      cases hcoh
    | started =>
      rw [hp, hφ] at hcoh
      cases hcoh
  | hangUp c =>
    simp only [step] at hstep
    split at hstep
    · rename_i hp
      obtain ⟨s, hs, rfl⟩ := Option.map_eq_some_iff.mp hstep
      have hdrained := h.drained c
      rw [hp] at hdrained
      refine fleetOk_unregistered h rfl hs (by decide) ?_ hdrained (fun _ _ _ hd => by cases hd)
      cases System.step_cases hs with
      | disconnect _ hc => exact fun _ => Or.inr (Or.inl (Function.update_self _ _ _))
    · cases hstep

/-- A foreign QUIT deactivates the sensor of a client that is still registered. -/
theorem foreignQuit_disturbs {f f' : Fleet n} {r : Request n} (h : FleetOk client f)
    (hbad : ¬ f.NoForeignQuit client r) (hstep : f.step client r = some f') :
    ¬ f'.Undisturbed client := by
  intro hund
  unfold NoForeignQuit at hbad
  split at hbad
  · rename_i c
    split at hbad
    · rename_i id hc
      simp only [not_forall, not_not] at hbad
      obtain ⟨c', hreg, rfl⟩ := hbad
      have hne : c' ≠ c := by
        rintro rfl
        have hcoh := h.coherent c'
        rw [hreg, hc] at hcoh
        rcases hcoh with hcoh | ⟨φ, hφ, hrep⟩
        · cases hcoh
        · cases hφ
          exact hrep
      obtain ⟨s, hs, rfl⟩ := Option.map_eq_some_iff.mp hstep
      have hstill : (f.setClient c (judge s c (f.phase c)) (s, f.unread c)).phase c' = .registered :=
        (Function.update_of_ne hne _ _).trans hreg
      obtain ⟨j, hj, hact⟩ := hund.active c' hstill
      obtain ⟨i, hi, -⟩ := h.active c' hreg
      cases System.step_cases hs with
      | proceed _ φ call hφ hcall =>
        obtain rfl := ConnState.busy.inj (hφ.symm.trans hc)
        cases hcall
        simp only [setClient, System.settle_g, System.execute_g] at hj hact
        have hext := extends_exec (.deactivate (client c').heard.id) f.sys.g
        obtain rfl := Option.some.inj (hj.symm.trans (slotOf_extends h.ok.table hext hi))
        rw [exec_sensor_written (e := .deactivated (client c').heard.id (some j))
          (by rw [StateCall.event, hi]) rfl] at hact
        cases hact
    · exact hbad trivial
  · exact hbad trivial

/-- Along a run the registered clients are undisturbed in every state exactly when no QUIT is
handled while another client is registered under its id. -/
theorem undisturbed_iff (client : Fin n → Client) {f : Fleet n} {requests : List (Request n)}
    (hrun : Runs.run (step client) (init n) requests = some f) :
    Runs.Always (step client) (Undisturbed client) (init n) requests ↔
      Runs.Guarded (step client) (NoForeignQuit client) (init n) requests :=
  Runs.always_iff_guarded (fun _ h => h.undisturbed) fleetOk_init fleetOk_step
    foreignQuit_disturbs hrun

/-- A QUIT is of the client's own id, so it is nobody else's when the ids are heard as different. -/
theorem FleetOk.noForeignQuit {f : Fleet n} (h : FleetOk client f)
    (hlines : ∀ c, newline ∉ (client c).id) (hown : Function.Injective fun c => (client c).heard.id)
    (r : Request n) : f.NoForeignQuit client r := by
  unfold NoForeignQuit
  split
  · rename_i c
    split
    · rename_i id hc
      intro c' hreg heq
      have hcoh := h.coherent c
      rw [hc] at hcoh
      cases hp : f.phase c with
      | leaving =>
        rw [hp] at hcoh
        rcases hcoh (hlines c) with hcoh | hcoh | hcoh
        · cases hcoh
        · cases hcoh
        · cases hcoh
          obtain rfl := hown heq
          rw [hp] at hreg
          cases hreg
      | registered =>
        rw [hp] at hcoh
        rcases hcoh with hcoh | ⟨φ, hφ, hrep⟩
        · cases hcoh
        · cases hφ
          exact hrep
      | refused =>
        rw [hp] at hcoh
        cases hcoh (hlines c)
      | _ =>
        rw [hp] at hcoh
        cases hcoh
    · trivial
  · trivial

/-- Clients with ids of one line that the server hears as different never disturb each other. -/
theorem undisturbed_of_own (hlines : ∀ c, newline ∉ (client c).id)
    (hown : Function.Injective fun c => (client c).heard.id) (requests : List (Request n)) :
    Runs.Always (step client) (Undisturbed client) (init n) requests := by
  apply Runs.always_iff_visits.mpr
  intro pre post hrequests f hrun
  have hkeep : ∀ {f f' : Fleet n} {r : Request n}, FleetOk client f → f.step client r = some f' →
      FleetOk client f' :=
    fun h hstep => fleetOk_step h (h.noForeignQuit hlines hown _) hstep
  exact (Runs.invariant_run hkeep fleetOk_init hrun).undisturbed

/-! ## Two clients -/

def tempClient (name : Fin 2) : Client where
  id := if name.val = 0 then ascii "s1" else ascii "s2"
  type := .temp
  fits := by
    revert name
    decide
  clean := by
    apply clean_of_word
    · revert name
      decide
    · revert name
      decide
  valid := by decide

/-- Both clients register, report and leave. -/
def twoClients (a b : Fin 2) : List (Request 2) :=
  [.connect a, .register a, .serve a, .connect b, .register b, .serve b,
    .metric a (ascii "80.00") (ascii "2026-03-30T14:05:00Z"), .serve a, .quit b, .serve b, .serve a,
    .serve a, .serve a, .quit a, .serve a]

theorem undisturbed_twoClients :
    Runs.Always (step tempClient) (Undisturbed tempClient) (init 2) (twoClients 0 1) := by
  have hrun : (Runs.run (step tempClient) (init 2) (twoClients 0 1)).isSome = true := by decide +kernel
  obtain ⟨f, hf⟩ := Option.isSome_iff_exists.mp hrun
  exact (undisturbed_iff tempClient hf).mpr (by decide +kernel)

/-- The second client of one id is refused, and its QUIT deactivates the sensor of the first. -/
theorem disturbed_sameId :
    ∃ f, Runs.run (step fun _ => tempClient 0) (init 2)
        [.connect 0, .register 0, .serve 0, .connect 1, .register 1, .serve 1, .quit 1,
          .serve 1] = some f ∧
      f.phase 0 = .registered ∧ ¬ f.Undisturbed fun _ => tempClient 0 := by
  have h : (Runs.run (step fun _ => tempClient 0) (init 2)
      [.connect 0, .register 0, .serve 0, .connect 1, .register 1, .serve 1, .quit 1,
        .serve 1]).map (fun f => (f.phase 0, (f.sys.g.slotOf (tempClient 0).heard.id).map fun i =>
          (f.sys.g.sensors i).status)) = some (.registered, some .inactive) := by
    decide +kernel
  obtain ⟨f, hf, hc⟩ := Option.map_eq_some_iff.mp h
  obtain ⟨hphase, hstatus⟩ := Prod.mk.inj hc
  refine ⟨f, hf, hphase, fun hund => ?_⟩
  obtain ⟨i, hs, hact⟩ := hund.active 0 hphase
  rw [hs, Option.map_some, hact] at hstatus
  cases hstatus

end Fleet

end IotMonitoring
