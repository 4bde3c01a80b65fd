import IotMonitoring.Shared.Mutexes
import IotMonitoring.Server.AuditLog
import IotMonitoring.Server.CommandLines
import IotMonitoring.Server.HttpResponses

/-!
# The log file

`logger.c` writes each record to the console and to the file under a lock of its
own. A record is put together before the lock is taken, so records need not be
in the order of their times, but `log_keeps_records` says that none is torn,
lost or written twice, and that each thread's records stand in its order.
-/

namespace IotMonitoring

open ByteStrings Binary64 Mutexes
set_option autoImplicit false

instance : NeZero bufferSize := ⟨by decide⟩

/-! ## Records -/

/-- A record between its time and its end. -/
def logLine (t : LocalTime) (kind : String) (text : Bytes) : Bytes :=
  snprintf bufferSize (ascii "[" ++ getTimestamp t ++ ascii "] [" ++ ascii kind ++ text)

def peerFields (p : Peer) : Bytes :=
  ascii "IP=" ++ clientIp p ++ ascii " PORT=" ++ decimal p.port.toNat

def logHttp (t : LocalTime) (p : Peer) (request response : Bytes) : Bytes :=
  logLine t "HTTP]   " (peerFields p ++ ascii " REQ=\"" ++ request ++ ascii "\" RESP=\"" ++ response ++
    ascii "\"")

def logError (t : LocalTime) (p : Peer) (errorMsg : Bytes) : Bytes :=
  logLine t "ERROR]  " (peerFields p ++ ascii " MSG=\"" ++ errorMsg ++ ascii "\"")

def logInfo (t : LocalTime) (message : Bytes) : Bytes :=
  logLine t "INFO]   " (ascii "MSG=\"" ++ message ++ ascii "\"")

/-- What is reported through the functions of `logger.h`. -/
inductive LogRecord where
  | sensor (p : Peer) (recvMsg respMsg : Bytes)
  | http (p : Peer) (request response : Bytes)
  | error (p : Peer) (errorMsg : Bytes)
  | info (message : Bytes)

def LogRecord.line (t : LocalTime) : LogRecord → Bytes
  | .sensor p recvMsg respMsg => logSensor t p recvMsg respMsg
  | .http p request response => logHttp t p request response
  | .error p errorMsg => logError t p errorMsg
  | .info message => logInfo t message

/-! ## What the handlers report -/

/-- The `char[128]` with a peer. -/
def peerMessage (text : String) (p : Peer) : LogRecord :=
  .info (snprintf 128 (ascii text ++ clientIp p ++ ascii ":" ++ decimal p.port.toNat))

def Finish.records (p : Peer) : Finish → List LogRecord
  | .disconnected last =>
    if last.ret = 0 then [peerMessage "Sensor client disconnected: " p]
    else [.error p (ascii "Error reading from sensor socket")]
  | .quit | .unfinished => []

/-- The record of `send_response`. -/
def exchangeRecord (p : Peer) (e : Exchange) : LogRecord :=
  let raw : Buffer bufferSize := safeStrncpy e.line
  .sensor p raw.text e.resp

/-- What `handle_sensor_connection` reports, in order. -/
def Transcript.records (p : Peer) (t : Transcript) : List LogRecord :=
  peerMessage "Sensor client connected: " p ::
    (t.exchanges.map (exchangeRecord p) ++ t.finish.records p ++
      [peerMessage "Sensor handler thread finished for " p])

/-- The record of `http_log_and_send`; `buf` is the request line. -/
def requestRecord (p : Peer) (buf : Bytes) (reply : HttpReply) : LogRecord :=
  let reqLine : Buffer bufferSize := safeStrncpy buf
  .http p reqLine.text (snprintf 64 (decimal reply.status ++ ascii " " ++ reply.reason))

/-- The warnings of the two accept loops. -/
def acceptWarnings : List Bytes :=
  [ascii "WARNING: accept() failed on sensor server",
    ascii "ERROR: malloc failed for SensorClientInfo",
    ascii "ERROR: pthread_create failed for sensor handler",
    ascii "WARNING: accept() failed on HTTP server", ascii "ERROR: malloc failed for HttpClientInfo",
    ascii "ERROR: pthread_create failed for HTTP handler"]

/-- What the two servers report before they accept connections. -/
def listenMessages (c : ServerConfig) : List Bytes :=
  [ascii "FATAL: Cannot create sensor server socket",
    snprintf 128 (ascii "FATAL: Cannot bind sensor server to port " ++ formatInt c.sensorPort),
    ascii "FATAL: Cannot listen on sensor server socket",
    snprintf 128 (ascii "Sensor server listening on port " ++ formatInt c.sensorPort),
    ascii "FATAL: Cannot create HTTP server socket",
    snprintf 128 (ascii "FATAL: Cannot bind HTTP server to port " ++ formatInt c.httpPort),
    ascii "FATAL: Cannot listen on HTTP server socket",
    snprintf 128 (ascii "HTTP server listening on port " ++ formatInt c.httpPort)]

/-- What `main` reports once the state is set up. -/
def launchMessages : List Bytes :=
  [ascii "FATAL: Cannot create sensor server thread", ascii "FATAL: Cannot create HTTP server thread",
    ascii "All servers started. Waiting for connections..."]

/-- The host and the directory given to the server are one line each. -/
structure ServerConfig.OneLine (c : ServerConfig) : Prop where
  authHost : newline ∉ c.authHost.text
  logDir : newline ∉ c.logDir.text

/-- The records of the server: of its start, and of the threads that serve, whatever the other threads
do to the shared state. -/
inductive ServerRecord : LogRecord → Prop where
  | sensor {p : Peer} {s : Stream} {env : Nat → GlobalState → GlobalState} {r : LogRecord}
      (henv : ∀ k g, ∃ n, System.Reached n (env k g))
      (hr : r ∈ (((handleSensorConnection s).disturbed env).run (0, stateInit)).1.records p) :
      ServerRecord r
  | http {p : Peer} {s rest : Stream} {env : Nat → GlobalState → GlobalState}
      {authHost authPort : Bytes} {attempt : Attempt} {route : HttpRoute} {reply : HttpReply}
      (henv : ∀ k g, ∃ n, System.Reached n (env k g))
      (hrequest : handleHttpRequest s = some (route, rest))
      (hreply : (((routeReply authHost authPort attempt route).disturbed env).run (0, stateInit)).1 =
        some reply) : ServerRecord (requestRecord p (recvLine bufferSize s).buf reply)
  | warning {message : Bytes} (h : message ∈ acceptWarnings) : ServerRecord (.info message)
  | start {c : ServerConfig} {message : Bytes} (hc : c.OneLine) (h : message ∈ startMessages c) :
      ServerRecord (.info message)
  | listen {c : ServerConfig} {message : Bytes} (h : message ∈ listenMessages c) :
      ServerRecord (.info message)
  | launch {message : Bytes} (h : message ∈ launchMessages) : ServerRecord (.info message)

/-! ## The logger -/

/-- The console, the file `server.log` and whether `log_file` is open. -/
structure LogState where
  console : Bytes
  disk : Bytes
  opened : Bool

inductive LogCall where
  | write (t : LocalTime) (r : LogRecord)
  /-- `logger_init`, where `fopen` succeeds or not. -/
  | init (opens : Bool)
  | close

def writeLog (line : Bytes) : Accesses LogState Unit := do
  .set fun m => { m with console := m.console ++ line }
  .set fun m => { m with console := m.console ++ [newline] }
  let opened ← .get LogState.opened
  if opened then
    .set fun m => { m with disk := m.disk ++ line }
    .set fun m => { m with disk := m.disk ++ [newline] }

/-- The critical section of each call. -/
def LogCall.body : LogCall → Accesses LogState Unit
  | .write t r => writeLog (r.line t)
  | .init opens => .set fun m => { m with opened := opens }
  | .close => do
    let opened ← .get LogState.opened
    if opened then .set fun m => { m with opened := false }

/-- The threads of the server as callers of the logger. -/
abbrev logger : Machine LogState (Option LogCall) LogCall := commands LogCall.body

/-! ## Lines -/

def logText (lines : List Bytes) : Bytes := lines.flatMap fun line => line ++ [newline]

/-- The lines of a text in which every line is ended. -/
def readLog (text : Bytes) : List Bytes := (text.splitOn newline).dropLast

theorem readLog_logText {lines : List Bytes} (h : ∀ line ∈ lines, newline ∉ line) :
    readLog (logText lines) = lines := by
  have hsplit : (logText lines).splitOn newline = lines ++ [[]] := by
    induction lines with
    | nil => rfl
    | cons line lines ih =>
      have hnot : ∀ c ∈ line, (c == newline) = false := by
        intro c hc
        rw [beq_eq_false_iff_ne]
        rintro rfl
        exact h _ List.mem_cons_self hc
      have hrest := ih fun l hl => h l (List.mem_cons_of_mem line hl)
      have htext : logText (line :: lines) = line ++ newline :: logText lines := by
        rw [logText, List.flatMap_cons, List.append_assoc]
        rfl
      rw [List.splitOn_eq_splitOnP] at hrest ⊢
      rw [htext, List.splitOnP_append_cons_of_forall_mem hnot newline (beq_self_eq_true newline),
        hrest]
      rfl
  rw [readLog, hsplit, List.dropLast_concat]

/-- What the calls write to the console. -/
def written : List LogCall → List Bytes
  | [] => []
  | .write t r :: calls => r.line t :: written calls
  | .init _ :: calls | .close :: calls => written calls

/-- What the calls write to the file, from a moment at which it is open or not. -/
def filed : Bool → List LogCall → List Bytes
  | _, [] => []
  | opened, .write t r :: calls => if opened then r.line t :: filed opened calls else filed opened calls
  | _, .init opens :: calls => filed opens calls
  | _, .close :: calls => filed false calls

theorem carryOut_log {T : Type} (m : LogState) (order : List (T × LogCall)) :
    (carryOut LogCall.body m order).console = m.console ++ logText (written (order.map Prod.snd)) ∧
      (carryOut LogCall.body m order).disk =
        m.disk ++ logText (filed m.opened (order.map Prod.snd)) := by
  induction order generalizing m with
  | nil => exact ⟨(List.append_nil _).symm, (List.append_nil _).symm⟩
  | cons e order ih =>
    obtain ⟨t, call⟩ := e
    obtain ⟨hconsole, hdisk⟩ := ih (((LogCall.body call).run m).2)
    rw [carryOut] at hconsole hdisk ⊢
    rw [List.foldl_cons, hconsole, hdisk]
    cases call with
    | write time r =>
      cases ho : m.opened with
      | true => simp [LogCall.body, writeLog, written, filed, logText, ho]
      | false => simp [LogCall.body, writeLog, written, filed, logText, ho]
    | init opens => exact ⟨rfl, rfl⟩
    | close =>
      cases ho : m.opened with
      | true => simp [LogCall.body, written, filed, ho]
      | false => simp [LogCall.body, written, filed, ho]

theorem mem_of_filed {line : Bytes} {opened : Bool} {calls : List LogCall}
    (h : line ∈ filed opened calls) : line ∈ written calls := by
  induction calls generalizing opened with
  | nil => cases h
  | cons call calls ih =>
    cases call with
    | write t r =>
      rw [filed] at h
      split at h
      · rcases List.mem_cons.mp h with rfl | h
        · exact List.mem_cons_self
        · exact List.mem_cons_of_mem _ (ih h)
      · exact List.mem_cons_of_mem _ (ih h)
    | init opens => exact ih h
    | close => exact ih h

theorem mem_written {line : Bytes} {calls : List LogCall} (h : line ∈ written calls) :
    ∃ t r, LogCall.write t r ∈ calls ∧ line = r.line t := by
  induction calls with
  | nil => cases h
  | cons call calls ih =>
    have hlater : line ∈ written calls → ∃ t r, LogCall.write t r ∈ call :: calls ∧ line = r.line t := by
      intro hline
      obtain ⟨t, r, hcall, heq⟩ := ih hline
      exact ⟨t, r, List.mem_cons_of_mem _ hcall, heq⟩
    cases call with
    | write t r =>
      rcases List.mem_cons.mp h with rfl | h
      · exact ⟨t, r, List.mem_cons_self, rfl⟩
      · exact hlater h
    | init opens => exact hlater h
    | close => exact hlater h

/-! ## Every record is one line -/

def LogRecord.OneLine : LogRecord → Prop
  | .sensor _ recvMsg respMsg => newline ∉ recvMsg ∧ newline ∉ respMsg
  | .http _ request response => newline ∉ request ∧ newline ∉ response
  | .error _ errorMsg => newline ∉ errorMsg
  | .info message => newline ∉ message

theorem newline_notMem_snprintf {size : Nat} {text : Bytes} (h : newline ∉ text) :
    newline ∉ snprintf size text := fun hmem => h (List.mem_of_mem_take hmem)

theorem newline_notMem_decimal (n : Nat) : newline ∉ decimal n :=
  (noLetters_decimal n).notMem (Or.inl (by decide))

theorem newline_notMem_formatInt (k : Int) : newline ∉ formatInt k := by
  have hsign : newline ∉ ascii "-" := by decide
  unfold formatInt
  split
  · simp only [List.mem_append, hsign, newline_notMem_decimal, or_self, not_false_eq_true]
  · exact newline_notMem_decimal _

/-- A text and a number, formatted into an array. -/
theorem newline_notMem_numbered {size : Nat} {text : Bytes} (htext : newline ∉ text) (k : Int) :
    newline ∉ snprintf size (text ++ formatInt k) := by
  apply newline_notMem_snprintf
  rw [List.mem_append, not_or]
  exact ⟨htext, newline_notMem_formatInt k⟩

theorem startMessages_oneLine {c : ServerConfig} (hc : c.OneLine) {message : Bytes}
    (h : message ∈ startMessages c) : newline ∉ message := by
  have hslash : newline ∉ ascii "/" := by decide
  have hfile : newline ∉ ascii "server.log" := by decide
  have hcolon : newline ∉ ascii ":" := by decide
  have hopened : newline ∉ ascii "Logger inicializado. Archivo: " := by decide
  have hauth : newline ∉ ascii "Auth service: " := by decide
  have hdir : newline ∉ ascii "Log dir     : " := by decide
  have hpath : newline ∉ logPath c := by
    apply newline_notMem_snprintf
    simp only [List.mem_append, hc.logDir, hslash, hfile, or_self, not_false_eq_true]
  simp only [startMessages, List.mem_cons, List.not_mem_nil, or_false] at h
  rcases h with rfl | rfl | rfl | rfl | rfl | rfl | rfl | rfl
  · apply newline_notMem_snprintf
    simp only [List.mem_append, hopened, hpath, or_self, not_false_eq_true]
  · decide
  · decide
  · decide
  · exact newline_notMem_numbered (by decide) _
  · exact newline_notMem_numbered (by decide) _
  · apply newline_notMem_numbered
    simp only [List.mem_append, hauth, hc.authHost, hcolon, or_self, not_false_eq_true]
  · apply newline_notMem_snprintf
    simp only [List.mem_append, hdir, hc.logDir, or_self, not_false_eq_true]

theorem listenMessages_oneLine {c : ServerConfig} {message : Bytes} (h : message ∈ listenMessages c) :
    newline ∉ message := by
  simp only [listenMessages, List.mem_cons, List.not_mem_nil, or_false] at h
  rcases h with rfl | rfl | rfl | rfl | rfl | rfl | rfl | rfl
  · decide
  · exact newline_notMem_numbered (by decide) _
  · decide
  · exact newline_notMem_numbered (by decide) _
  · decide
  · exact newline_notMem_numbered (by decide) _
  · decide
  · exact newline_notMem_numbered (by decide) _

theorem newline_notMem_clientIp (p : Peer) : newline ∉ clientIp p :=
  (noLetters_clientIp p).notMem (Or.inl (by decide))

theorem newline_notMem_logLine {kind : String} {text : Bytes} (t : LocalTime)
    (hkind : newline ∉ ascii kind) (h : newline ∉ text) : newline ∉ logLine t kind text := by
  have hopen : newline ∉ ascii "[" := by decide
  have hclose : newline ∉ ascii "] [" := by decide
  have htime : newline ∉ getTimestamp t :=
    (noLetters_getTimestamp t).notMem (Or.inl (by decide))
  apply newline_notMem_snprintf
  simp only [List.mem_append, hopen, htime, hclose, hkind, h, or_self, not_false_eq_true]

theorem newline_notMem_peerFields (p : Peer) : newline ∉ peerFields p := by
  have hip : newline ∉ ascii "IP=" := by decide
  have hport : newline ∉ ascii " PORT=" := by decide
  simp only [peerFields, List.mem_append, hip, newline_notMem_clientIp, hport,
    newline_notMem_decimal, or_self, not_false_eq_true]

theorem LogRecord.OneLine.line {r : LogRecord} (h : r.OneLine) (t : LocalTime) :
    newline ∉ r.line t := by
  have hend : newline ∉ ascii "\"" := by decide
  cases r with
  | sensor p recvMsg respMsg =>
    apply newline_notMem_snprintf
    rw [List.mem_append, not_or]
    exact ⟨notMem_recordHead t p (by decide), notMem_recordBody (by decide) h.1 h.2⟩
  | http p request response =>
    have hreq : newline ∉ ascii " REQ=\"" := by decide
    have hresp : newline ∉ ascii "\" RESP=\"" := by decide
    obtain ⟨hrequest, hresponse⟩ := h
    apply newline_notMem_logLine t (by decide)
    simp only [List.mem_append, newline_notMem_peerFields, hreq, hrequest, hresp, hresponse, hend,
      or_self, not_false_eq_true]
  | error p errorMsg =>
    have hmsg : newline ∉ ascii " MSG=\"" := by decide
    have herror : newline ∉ errorMsg := h
    apply newline_notMem_logLine t (by decide)
    simp only [List.mem_append, newline_notMem_peerFields, hmsg, herror, hend, or_self,
      not_false_eq_true]
  | info message =>
    have hmsg : newline ∉ ascii "MSG=\"" := by decide
    have hmessage : newline ∉ message := h
    apply newline_notMem_logLine t (by decide)
    simp only [List.mem_append, hmsg, hmessage, hend, or_self, not_false_eq_true]

theorem peerMessage_oneLine {text : String} (htext : newline ∉ ascii text) (p : Peer) :
    (peerMessage text p).OneLine := by
  have hcolon : newline ∉ ascii ":" := by decide
  apply newline_notMem_snprintf
  simp only [List.mem_append, htext, newline_notMem_clientIp, hcolon, newline_notMem_decimal,
    or_self, not_false_eq_true]

/-- The lines of a transcript are what `recv_line` stores. -/
theorem ensures_lines (fuel : Nat) (s : Stream) : Program.Ensures (fun _ => True)
    (fun t => ∀ e ∈ t.exchanges, IsLine e.line) (connectionLoop fuel s) := by
  induction fuel generalizing s with
  | zero => exact Program.ensures_pure fun e he => (by cases he)
  | succ fuel ih =>
    unfold connectionLoop
    by_cases hret : (recvLine bufferSize s).ret ≤ 0
    · simp only [if_pos hret]
      exact Program.ensures_pure fun e he => (by cases he)
    · simp only [if_neg hret]
      have hline := recvLine_isLine hret
      have hhandled : Program.Ensures (fun _ => True) (fun _ => True)
          (handleLine (recvLine bufferSize s).buf) := by
        apply Program.Ensures.mono (ensures_handleTokens keepsOut_zero fun w hw =>
          tokenize_zero_notMem hw)
        exact fun _ _ => trivial
      refine Program.ensures_bind hhandled ?_
      rintro ⟨resp, shouldExit⟩ -
      cases shouldExit with
      | true =>
        apply Program.ensures_pure
        intro e he
        rw [List.mem_singleton.mp he]
        exact hline
      | false =>
        refine Program.ensures_bind (ih _) ?_
        intro t ht
        apply Program.ensures_pure
        intro e he
        rcases List.mem_cons.mp he with rfl | he
        · exact hline
        · exact ht e he

theorem transcript_oneLine {p : Peer} {t : Transcript} (hlines : ∀ e ∈ t.exchanges, IsLine e.line)
    (hresps : ∀ e ∈ t.exchanges, newline ∉ e.resp) {r : LogRecord} (hr : r ∈ t.records p) :
    r.OneLine := by
  rcases List.mem_cons.mp hr with rfl | hr
  · exact peerMessage_oneLine (by decide) p
  rcases List.mem_append.mp hr with hr | hr
  · rcases List.mem_append.mp hr with hr | hr
    · obtain ⟨e, he, rfl⟩ := List.mem_map.mp hr
      have hline : newline ∉ e.line := fun hmem => ((hlines e he).clean newline hmem).1 rfl
      exact ⟨newline_notMem_copy hline, hresps e he⟩
    · cases hfinish : t.finish with
      | quit =>
        rw [hfinish] at hr
        cases hr
      | unfinished =>
        rw [hfinish] at hr
        cases hr
      | disconnected last =>
        rw [hfinish, Finish.records] at hr
        split at hr
        · rw [List.mem_singleton.mp hr]
          exact peerMessage_oneLine (by decide) p
        · have hread : newline ∉ ascii "Error reading from sensor socket" := by decide
          rw [List.mem_singleton.mp hr]
          exact hread
  · rw [List.mem_singleton.mp hr]
    exact peerMessage_oneLine (by decide) p

theorem ServerRecord.oneLine {r : LogRecord} (h : ServerRecord r) : r.OneLine := by
  cases h with
  | sensor henv hr =>
    rename_i p s env
    have hkept : ∀ k g, GlobalState.OneLine g → GlobalState.OneLine (env k g) := by
      intro k g _
      obtain ⟨n, actions, t, hrun, hg⟩ := henv k g
      rw [← hg]
      exact (Runs.invariant_run System.textsOk_step System.textsOk_init hrun).state
    have hlines : ∀ e ∈ (((handleSensorConnection s).disturbed env).run (0, stateInit)).1.exchanges,
        IsLine e.line :=
      And.left ((ensures_lines (s.bytes.length + 1) s).run (fun _ _ _ => trivial) trivial)
    have hstart : GlobalState.OneLine ((0, stateInit) : Nat × GlobalState).2 := oneLine_init
    have hresps := ((ensures_connectionLoop (s.bytes.length + 1) s).run hkept hstart).1
    exact transcript_oneLine hlines hresps hr
  | http henv hrequest hreply =>
    rename_i p s rest env authHost authPort attempt route reply
    have hkept : ∀ k g, stateGetMetricCount g ≤ maxMetrics →
        stateGetMetricCount (env k g) ≤ maxMetrics := by
      intro k g _
      obtain ⟨n, actions, t, hrun, hg⟩ := henv k g
      rw [← hg]
      exact (System.systemOk_run hrun).tables.metrics.count_le
    have hshort : ∀ body, route = .badRequest body → body.length < httpResponseMax := by
      rintro body rfl
      exact badRequest_short hrequest
    have hstart : stateGetMetricCount ((0, stateInit) : Nat × GlobalState).2 ≤ maxMetrics :=
      Nat.zero_le _
    have hanswered := (ensures_routeReply (I := fun g => stateGetMetricCount g ≤ maxMetrics)
      (fun _ hg => hg) hshort authHost authPort attempt).run hkept hstart
    have hfirst := (statusLine_spec (hanswered.1.1 reply hreply).code).1
    have hstatus : newline ∉ statusLine reply := fun hmem => hfirst.clean newline hmem (by decide)
    have hreason : newline ∉ decimal reply.status ++ ascii " " ++ reply.reason := by
      intro hmem
      apply hstatus
      simp only [statusLine, List.mem_append] at hmem ⊢
      rcases hmem with (hmem | hmem) | hmem
      · exact Or.inl (Or.inl (Or.inr hmem))
      · exact Or.inl (Or.inr hmem)
      · exact Or.inr hmem
    have hpositive : ¬ (recvLine bufferSize s).ret ≤ 0 := by
      intro hnone
      rw [handleHttpRequest, if_pos hnone] at hrequest
      cases hrequest
    have hline : newline ∉ (recvLine bufferSize s).buf :=
      fun hmem => ((recvLine_isLine hpositive).clean newline hmem).1 rfl
    exact ⟨newline_notMem_copy hline, newline_notMem_snprintf hreason⟩
  | warning h =>
    have hall : ∀ message ∈ acceptWarnings, newline ∉ message := by decide
    exact hall _ h
  | start hc h => exact startMessages_oneLine hc h
  | listen h => exact listenMessages_oneLine h
  | launch h =>
    have hall : ∀ message ∈ launchMessages, newline ∉ message := by decide
    exact hall _ h

/-! ## The file -/

/-- A call of the logger by the server. -/
def LogCall.FromServer : LogCall → Prop
  | .write _ r => ServerRecord r
  | .init _ | .close => True

/-- Any number of threads, interleaved access by access, call the logger with the records of the
server. Once its lock is free, the console holds the lines of all calls carried out and the file
those of the calls made while it was open, whole and in one order. In it stand each thread's calls in
the order in which it made them, but for one it may wait with, and the lines can be read back. -/
theorem log_keeps_records {T : Type} [DecidableEq T] {m : LogState}
    {x : Mutexes.State T LogState (Option LogCall)} {labels : List (Label T LogCall)}
    (hrun : Runs.run logger.step (Machine.start m fun _ => none) labels = some x)
    (hfree : x.owner = none) {told : List (Told T LogCall)}
    (htold : told =
      Runs.trace logger.step (logger.visible tells) (Machine.start m fun _ => none) labels)
    (hserver : ∀ t, ∀ call ∈ Told.givenTo t told, call.FromServer) :
    ∃ order : List (T × LogCall),
      (∀ t, ∃ waiting, x.control t = .outside waiting ∧
        Told.givenTo t told = Told.part t order ++ waiting.toList) ∧
      x.memory.console = m.console ++ logText (written (order.map Prod.snd)) ∧
      x.memory.disk = m.disk ++ logText (filed m.opened (order.map Prod.snd)) ∧
      readLog (logText (written (order.map Prod.snd))) = written (order.map Prod.snd) ∧
      readLog (logText (filed m.opened (order.map Prod.snd))) =
        filed m.opened (order.map Prod.snd) := by
  obtain ⟨hmemory, hparts⟩ := run_commands hrun htold
  have hexclusive : Machine.Exclusive x :=
    Runs.invariant_run (fun h hstep => Machine.exclusive_step h hstep)
      (Machine.exclusive_start m _) hrun
  have houtside : ∀ t, ∃ waiting, x.control t = .outside waiting := by
    intro t
    cases ht : x.control t with
    | outside q => exact ⟨q, rfl⟩
    | inside q rest =>
      have howner := (hexclusive t).mpr ⟨q, rest, ht⟩
      rw [hfree] at howner
      cases howner
  have hlines : ∀ line ∈ written ((Told.allCarried told).map Prod.snd), newline ∉ line := by
    intro line hline
    obtain ⟨time, r, hcall, rfl⟩ := mem_written hline
    obtain ⟨⟨t, call⟩, hmem, rfl⟩ := List.mem_map.mp hcall
    obtain ⟨waiting, hwaiting⟩ := houtside t
    have hgiven : LogCall.write time r ∈ Told.givenTo t told := by
      rw [hparts t waiting (Or.inl hwaiting)]
      apply List.mem_append_left
      exact List.mem_map.mpr ⟨(t, .write time r), List.mem_filter.mpr ⟨hmem, decide_eq_true rfl⟩, rfl⟩
    exact (ServerRecord.oneLine (hserver t _ hgiven)).line time
  obtain ⟨hconsole, hdisk⟩ := carryOut_log m (Told.allCarried told)
  rw [← hmemory hfree] at hconsole hdisk
  refine ⟨Told.allCarried told, fun t => ?_, hconsole, hdisk, readLog_logText hlines,
    readLog_logText fun line hline => hlines line (mem_of_filed hline)⟩
  obtain ⟨waiting, hwaiting⟩ := houtside t
  exact ⟨waiting, hwaiting, hparts t waiting (Or.inl hwaiting)⟩

/-- Two threads that warn at the same time; one waits for the lock of the other. -/
def twoWarnings {T : Type} (a b : T) : List (Label T LogCall) :=
  [.move a (.write noon (.info (ascii "WARNING: accept() failed on sensor server"))),
    .move b (.write noon (.info (ascii "WARNING: accept() failed on HTTP server"))), .lock b,
    .access b, .access b, .access b, .access b, .access b, .unlock b]

theorem log_keeps_records_warnings : ∃ x, ∃ order : List (Fin 2 × LogCall),
    Runs.run logger.step (Machine.start ⟨[], [], true⟩ fun _ => none) (twoWarnings (0 : Fin 2) 1) =
      some x ∧
      x.memory.disk = logText (filed true (order.map Prod.snd)) := by
  obtain ⟨x, hrun, hfree⟩ : ∃ x, Runs.run logger.step (Machine.start ⟨[], [], true⟩ fun _ => none)
      (twoWarnings (0 : Fin 2) 1) = some x ∧ x.owner = none := ⟨_, rfl, rfl⟩
  have hserver : ∀ t, ∀ call ∈ Told.givenTo t (Runs.trace logger.step (logger.visible tells)
      (Machine.start ⟨[], [], true⟩ fun _ => none) (twoWarnings (0 : Fin 2) 1)),
        call.FromServer := by
    intro t call hcall
    have hwarning : ∀ t : Fin 2, acceptWarnings.getD (if t = 0 then 0 else 3) [] ∈ acceptWarnings := by
      decide
    have hgiven : ∀ t, Told.givenTo t (Runs.trace logger.step (logger.visible tells)
        (Machine.start ⟨[], [], true⟩ fun _ => none) (twoWarnings (0 : Fin 2) 1)) =
          [.write noon (.info (acceptWarnings.getD (if t = 0 then 0 else 3) []))] := by
      intro t
      match t with
      | 0 => rfl
      | 1 => rfl
    rw [hgiven, List.mem_singleton] at hcall
    rw [hcall]
    exact ServerRecord.warning (hwarning t)
  obtain ⟨order, -, -, hdisk, -, -⟩ := log_keeps_records hrun hfree rfl hserver
  exact ⟨x, order, hrun, hdisk⟩

end IotMonitoring
