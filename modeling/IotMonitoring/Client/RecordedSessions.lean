import IotMonitoring.Client.Conversations
import IotMonitoring.Client.Names
import IotMonitoring.Server.OwnSensors
import IotMonitoring.Server.Replies

/-!
# Sessions from end to end

`run` of a client on one side of a connection and `handle_sensor_connection` on
the other, with any calls of other connections between the server's critical
sections. If the others keep to other ids, the client's REGISTER, METRICs and
QUIT are all answered 200, and what they leave behind is the client's sensor,
INACTIVE, with its last reading, one metric for each reading and one alert for
each reading drawn as an anomaly.
-/

namespace IotMonitoring

open ByteStrings Binary64 UnicodeTexts
set_option autoImplicit false

/-- A line that is sent whole. -/
structure Sent (line : Bytes) : Prop where
  nonempty : line ≠ []
  read : ReadAs (line ++ [newline]) line

theorem Sent.ret {line : Bytes} (h : Sent line) : ¬ (line.length : Int) ≤ 0 := by
  have hpos := List.length_pos_iff.mpr h.nonempty
  omega

/-- The lines as they are sent. -/
def payloadsOf (lines : List Bytes) : List Bytes := lines.map (· ++ [newline])

theorem length_le_bytes (lines : List Bytes) : lines.length ≤ (payloadsOf lines).flatten.length := by
  induction lines with
  | nil => exact Nat.le_refl 0
  | cons line lines ih =>
    rw [payloadsOf, List.map_cons, List.flatten_cons, List.length_append, List.length_append,
      List.length_cons, List.length_singleton]
    rw [payloadsOf] at ih
    omega

/-! ## The connection of a client -/

section
variable {others : Nat → List StateCall} {id : Bytes} {i : Fin maxSensors}
variable {s s₁ s' : Sensor} {m₁ m₂ : List Metric} {a₁ a₂ : List Alert} {line resp : Bytes}

/-- A line that is no QUIT is one turn of the loop. -/
theorem done_turn {st : Nat × GlobalState} (hsent : Sent line)
    (hline : Done others id i (handleLine line) st (resp, false) s₁ m₁ a₁) {bytes : Bytes}
    {fuel : Nat} {t : Transcript}
    (hrest : Does others id i s₁ (connectionLoop fuel ⟨bytes, .closed⟩) t s' m₂ a₂) :
    Done others id i (connectionLoop (fuel + 1) ⟨line ++ [newline] ++ bytes, .closed⟩) st
      ⟨⟨line, resp⟩ :: t.exchanges, t.finish⟩ s' (m₁ ++ m₂) (a₁ ++ a₂) := by
  have hread := hsent.read bytes .closed
  simp only [connectionLoop, hread, if_neg hsent.ret]
  exact hline.bind fun st h => (hrest st h).map

/-- The connection is closed when all lines have been read. -/
theorem does_closed (fuel : Nat) : Does others id i s (connectionLoop (fuel + 1) ⟨[], .closed⟩)
    ⟨[], .disconnected (recvLine bufferSize ⟨[], .closed⟩)⟩ s [] [] := by
  have hret : (recvLine bufferSize ⟨[], .closed⟩).ret ≤ 0 := by decide
  simp only [connectionLoop, if_pos hret]
  exact does_pure _

variable (helse : Elsewhere id others)
include helse

theorem does_farewell (hsent : Sent line) (htokens : tokenize line 8 = [ascii "QUIT", id])
    (fuel : Nat) : Does others id i s (connectionLoop (fuel + 1) ⟨line ++ [newline], .closed⟩)
      ⟨[⟨line, bye⟩], .quit⟩ { s with status := .inactive } [] [] := by
  have hread := hsent.read [] .closed
  rw [List.append_nil] at hread
  simp only [connectionLoop, hread, if_neg hsent.ret]
  exact fun st h => (does_quit helse htokens st h).bind (does_pure _)

/-- The METRICs of a connection are stored and judged one after the other. -/
theorem does_reports {lines : Nat → Bytes} {report : Nat → Report} (hsent : ∀ k, Sent (lines k))
    (hin : ∀ k, (report k).In id (lines k)) {bytes : Bytes} {fuel : Nat} {t : Transcript}
    (ks : List Nat) (hactive : s.status = .active)
    (hrest : Does others id i (ks.foldl (fun s k => (report k).onto s) s)
      (connectionLoop fuel ⟨bytes, .closed⟩) t s' m₂ a₂) :
    Does others id i s
      (connectionLoop (ks.length + fuel) ⟨(payloadsOf (ks.map lines)).flatten ++ bytes, .closed⟩)
      ⟨ks.map (fun k => ⟨lines k, metricOk⟩) ++ t.exchanges, t.finish⟩ s'
      (ks.map (fun k => (report k).metric id s.type) ++ m₂)
      (ks.filterMap (fun k => (report k).alert? id s.type) ++ a₂) := by
  induction ks generalizing s with
  | nil =>
    rw [List.length_nil, Nat.zero_add]
    exact hrest
  | cons k ks ih =>
    have htail := ih (s := (report k).onto s) hactive hrest
    intro st h
    have hturn := done_turn (hsent k) (does_report helse hactive (hin k) st h) htail
    have hbytes : (payloadsOf ((k :: ks).map lines)).flatten ++ bytes =
        lines k ++ [newline] ++ ((payloadsOf (ks.map lines)).flatten ++ bytes) := by
      rw [payloadsOf, List.map_cons, List.map_cons, List.flatten_cons, List.append_assoc]
      rfl
    have halerts : (k :: ks).filterMap (fun k => (report k).alert? id s.type) =
        ((report k).alert? id s.type).toList ++
          ks.filterMap fun k => (report k).alert? id s.type := by
      cases halert : (report k).alert? id s.type with
      | none => exact List.filterMap_cons_none halert
      | some a => exact List.filterMap_cons_some halert
    rw [hbytes, halerts, List.append_assoc ((report k).alert? id s.type).toList, List.length_cons,
      Nat.add_right_comm]
    exact hturn

end

/-! ## The commands of a session -/

namespace SensorClient

/-- The number in the METRIC of a reading. -/
def wireReading (c : SensorClient) (d : Draws) : Bytes :=
  (c.generateValue d).elim [] c.platform.wireNumber

/-- What the server reads of a reading. -/
def report (c : SensorClient) (reading : Draws × Instant) : Report :=
  ⟨(parseDouble (c.wireReading reading.1)).getD (ofNat 0), utcTimestamp reading.2⟩

/-- A reading reaches the server rounded to two decimals, on its own side of the thresholds. -/
structure HeardAs (c : SensorClient) (d : Draws) (heard : Double) : Prop where
  parsed : parseDouble (c.wireReading d) = some heard
  rounded : ∃ value h, c.generateValue d = some value ∧ RoundsTo value h ∧
    heard = ofRatio false h 100
  judged : Anomalous c.sensorType heard ↔ isAnomaly c.anomalyChance d = true

theorem heardAs (c : SensorClient) (htype : c.sensorType ≠ .invalid) (hplain : c.platform.Plain)
    (reading : Draws × Instant) : HeardAs c reading.1 (c.report reading).value := by
  obtain ⟨value, hvalue⟩ := generateValue_some htype reading.1
  obtain ⟨u, hu, heq, hrounds, r, hr, hlow, hhigh⟩ := drawn_spec hvalue
  have hmax := (ranges_bounds hr).2
  have hparsed := (c.platform.parseDouble_wireNumber hu (by omega)).1 hplain
  rw [← heq] at hparsed
  have hwire : c.wireReading reading.1 = c.platform.wireNumber value := by
    rw [wireReading, hvalue]
    rfl
  have hheard : (c.report reading).value = ofRatio false (c.platform.hundredths u) 100 := by
    rw [report, hwire, hparsed, Option.getD_some]
  rw [hheard]
  exact ⟨by rw [hwire, hparsed], ⟨value, _, hvalue, hrounds, rfl⟩,
    anomalous_hundredths_iff hr hlow hhigh⟩

end SensorClient

/-- The lines of a client's commands: its REGISTER, its METRICs and its QUIT. -/
structure Speaks (c : SensorClient) (name : Bytes) (readings : Nat → Draws × Instant)
    (hello : Bytes) (lines : Nat → Bytes) (farewell : Bytes) : Prop where
  register : c.register = some (hello ++ [newline])
  helloSent : Sent hello
  helloTokens : tokenize hello 8 = [ascii "REGISTER", name, sensorTypeToStr c.sensorType]
  metric : ∀ k, command c readings (k + 1) = some (lines k ++ [newline])
  sent : ∀ k, Sent (lines k)
  report : ∀ k, (c.report (readings k)).In name (lines k)
  quit : c.sendQuit = some (farewell ++ [newline])
  farewellSent : Sent farewell
  farewellTokens : tokenize farewell 8 = [ascii "QUIT", name]

theorem sent_of_readAs {line : Bytes} (hread : ReadAs (line ++ [newline]) line)
    (hwords : tokenize line 8 ≠ []) : Sent line := by
  refine ⟨?_, hread⟩
  rintro rfl
  exact hwords (by decide)

theorem quitWords {name : Bytes} (hname : WireWord name) :
    ∀ w ∈ [ascii "QUIT", name], WireWord w := by
  intro w hw
  rcases List.mem_cons.mp hw with rfl | hw
  · exact wireWord_of_visible (by decide) (by decide)
  · rw [List.mem_singleton.mp hw]
    exact hname

theorem speaks {c : SensorClient} {name : Bytes} (readings : Nat → Draws × Instant)
    (htype : c.sensorType ≠ .invalid) (hplain : c.platform.Plain)
    (hname : UnicodeTexts.encode c.sensorId = some name) (hword : WireWord name)
    (hfits : name.length < maxIdLen) :
    ∃ hello lines farewell, Speaks c name readings hello lines farewell := by
  have hhello : (joinWords space [ascii "REGISTER", name,
      sensorTypeToStr c.sensorType]).length + 1 < bufferSize := by
    have hregister : (ascii "REGISTER").length = 8 := by decide
    have hlength : (sensorTypeToStr c.sensorType).length ≤ 11 := by cases c.sensorType <;> decide
    simp only [maxIdLen] at hfits
    simp only [joinWords, List.length_append, List.length_cons, bufferSize]
    omega
  have hfarewell : (joinWords space [ascii "QUIT", name]).length + 1 < bufferSize := by
    have hquit : (ascii "QUIT").length = 4 := by decide
    simp only [maxIdLen] at hfits
    simp only [joinWords, List.length_append, List.length_cons, bufferSize]
    omega
  obtain ⟨hhelloRead, hhelloTokens⟩ := words_heard (registerWords (c := c) hword)
    (show 3 ≤ 8 by omega) hhello
  obtain ⟨hfarewellRead, hfarewellTokens⟩ := words_heard (quitWords hword)
    (show 2 ≤ 8 by omega) hfarewell
  have hline : ∀ k, ∃ line, command c readings (k + 1) = some (line ++ [newline]) ∧
      ReadAs (line ++ [newline]) line ∧ tokenize line 8 =
        [ascii "METRIC", name, c.wireReading (readings k).1, utcTimestamp (readings k).2] := by
    intro k
    obtain ⟨value, hvalue⟩ := SensorClient.generateValue_some htype (readings k).1
    obtain ⟨line, hsend, hread, htokens⟩ := metric_heard hname hword hfits hvalue (readings k).2
    refine ⟨line, ?_, hread, ?_⟩
    · rw [command, hvalue, Option.bind_some, hsend]
    · rw [htokens, SensorClient.wireReading, hvalue]
      rfl
  choose lines hcommand hread htokens using hline
  refine ⟨_, lines, _, c.register_some hname, sent_of_readAs hhelloRead ?_, hhelloTokens, hcommand,
    fun k => sent_of_readAs (hread k) ?_, fun k => ⟨⟨_, htokens k, ?_⟩, utcTimestamp_valid _⟩,
    c.sendQuit_some hname, sent_of_readAs hfarewellRead ?_, hfarewellTokens⟩
  · rw [hhelloTokens]
    exact List.cons_ne_nil _ _
  · rw [htokens]
    exact List.cons_ne_nil _ _
  · exact (c.heardAs htype hplain (readings k)).parsed
  · rw [hfarewellTokens]
    exact List.cons_ne_nil _ _

/-! ## The server at the other end -/

section
variable (others : Nat → List StateCall) (st : Nat × GlobalState)

/-- The connection's program when these payloads have reached it. -/
def connection (payloads : List Bytes) : Program GlobalState Transcript :=
  handleSensorConnection ⟨payloads.flatten, .closed⟩

/-- What the connection has done then. -/
def served (payloads : List Bytes) : Transcript :=
  (((connection payloads).disturbed (interference others)).run st).1

/-- The lines it has sent, without their newlines. -/
def sentLines (payloads : List Bytes) : List Bytes :=
  (served others st payloads).exchanges.filterMap fun e => (sendLine e.resp).map List.dropLast

/-- The connection as its client sees it. Each payload ends with a newline, so what it is answered
with does not depend on what follows. -/
def liveServer : Server := fun payloads =>
  (sentLines others st payloads).drop (sentLines others st payloads.dropLast).length

end

/-- A reply that can be sent is read as it is. -/
theorem sendLine_sent {resp : Bytes} (h : Sendable resp) :
    (sendLine resp).map List.dropLast = some resp := by
  have hroom : resp.length + 1 < bufferSize := h
  rw [sendLine, if_neg]
  · rw [Option.map_some, List.dropLast_concat]
  · rw [List.length_append, List.length_singleton]
    omega

theorem sent_replies {es : List Exchange} (h : ∀ r ∈ es.map (·.resp), Sendable r) :
    es.filterMap (fun e => (sendLine e.resp).map List.dropLast) = es.map (·.resp) := by
  rw [← List.filterMap_eq_map]
  apply List.filterMap_congr
  intro e he
  exact sendLine_sent (h e.resp (List.mem_map_of_mem he))

/-! ## A session -/

section
variable {others : Nat → List StateCall} {st : Nat × GlobalState} {c : SensorClient} {name : Bytes}
variable {readings : Nat → Draws × Instant} {hello farewell : Bytes} {lines : Nat → Bytes}

/-- The first commands of a client. -/
theorem commands_speaks (hspeaks : Speaks c name readings hello lines farewell) (m : Nat) :
    commands c readings (m + 1) = payloadsOf (hello :: (List.range m).map lines) := by
  induction m with
  | zero =>
    rw [commands_succ (m := 0) hspeaks.register]
    rfl
  | succ m ih =>
    rw [commands_succ (hspeaks.metric m), ih, List.range_succ, List.map_append, payloadsOf,
      payloadsOf, ← List.cons_append, List.map_append]
    rfl

theorem kinds_speaks (hspeaks : Speaks c name readings hello lines farewell) (m : Nat) :
    (messages c readings (m + 1)).map (·.kind) = .register :: List.replicate m .metric := by
  induction m with
  | zero =>
    rw [messages_succ (m := 0) hspeaks.register]
    rfl
  | succ m ih =>
    rw [messages_succ (hspeaks.metric m), List.map_append, ih, List.replicate_succ']
    rfl

/-- The record of a sensor after the first readings. -/
def recordAfter (c : SensorClient) (readings : Nat → Draws × Instant) (m : Nat) (s : Sensor) : Sensor :=
  (List.range m).foldl (fun s k => (c.report (readings k)).onto s) s

/-- The turns of the first commands. -/
def turns (name hello : Bytes) (lines : Nat → Bytes) (m : Nat) : List Exchange :=
  ⟨hello, registered name⟩ :: (List.range m).map fun k => ⟨lines k, metricOk⟩

theorem resps_turns (name hello : Bytes) (lines : Nat → Bytes) (m : Nat) :
    (turns name hello lines m).map (·.resp) = registered name :: List.replicate m metricOk := by
  have hmap : ((List.range m).map fun k => Exchange.mk (lines k) metricOk).map (·.resp) =
      (List.range m).map fun _ => metricOk := List.map_map
  rw [turns, List.map_cons, hmap, List.map_const', List.length_range]

theorem sendable_turns {name : Bytes} (hreply : Sendable (registered name)) (m : Nat) :
    ∀ r ∈ registered name :: List.replicate m metricOk, Sendable r := by
  intro r hr
  rcases List.mem_cons.mp hr with rfl | hr
  · exact hreply
  · rw [List.eq_of_mem_replicate hr]
    exact sendable_of_mem (by decide)

/-- The metrics and the alerts of the first readings. -/
def metricsOf (c : SensorClient) (name : Bytes) (readings : Nat → Draws × Instant) (m : Nat) :
    List Metric :=
  (List.range m).map fun k => (c.report (readings k)).metric name c.sensorType

def alertsOf (c : SensorClient) (name : Bytes) (readings : Nat → Draws × Instant) (m : Nat) :
    List Alert :=
  (List.range m).filterMap fun k => (c.report (readings k)).alert? name c.sensorType

/-- The REGISTER of a client has been accepted. -/
structure Opened (others : Nat → List StateCall) (st : Nat × GlobalState) (c : SensorClient)
    (name hello : Bytes) (i : Fin maxSensors) (s : Sensor) : Prop where
  active : s.status = .active
  type : s.type = c.sensorType
  hello : Done others name i (handleLine hello) st (registered name, false) s [] []

variable (hspeaks : Speaks c name readings hello lines farewell) (helse : Elsewhere name others)
variable {i : Fin maxSensors} {s : Sensor} (hopened : Opened others st c name hello i s)
include hspeaks helse hopened

theorem done_commands {m fuel : Nat} {bytes : Bytes} {t : Transcript} {s' : Sensor}
    (hrest : Does others name i (recordAfter c readings m s) (connectionLoop fuel ⟨bytes, .closed⟩) t
      s' [] []) :
    Done others name i (connectionLoop (m + fuel + 1)
        ⟨(payloadsOf (hello :: (List.range m).map lines)).flatten ++ bytes, .closed⟩) st
      ⟨turns name hello lines m ++ t.exchanges, t.finish⟩ s' (metricsOf c name readings m)
      (alertsOf c name readings m) := by
  have hreports := does_reports helse hspeaks.sent hspeaks.report (List.range m) hopened.active
    hrest
  rw [List.length_range, hopened.type, List.append_nil, List.append_nil] at hreports
  have hturn := done_turn hspeaks.helloSent hopened.hello hreports
  have hbytes : (payloadsOf (hello :: (List.range m).map lines)).flatten ++ bytes =
      hello ++ [newline] ++ ((payloadsOf ((List.range m).map lines)).flatten ++ bytes) := by
    rw [payloadsOf, List.map_cons, List.flatten_cons, List.append_assoc]
    rfl
  rw [hbytes]
  exact hturn

/-- After the METRICs the connection waits for more. -/
theorem done_open (m : Nat) : ∃ finish, Done others name i (connection (commands c readings (m + 1)))
    st ⟨turns name hello lines m, finish⟩ (recordAfter c readings m s) (metricsOf c name readings m)
    (alertsOf c name readings m) := by
  have hlength := length_le_bytes (hello :: (List.range m).map lines)
  rw [List.length_cons, List.length_map, List.length_range] at hlength
  obtain ⟨room, hroom⟩ := Nat.exists_eq_add_of_le hlength
  have hdone := done_commands hspeaks helse hopened (does_closed (s := recordAfter c readings m s) room)
  rw [List.append_nil, List.append_nil] at hdone
  have hfuel : m + 1 + room + 1 = m + (room + 1) + 1 := by omega
  rw [connection, handleSensorConnection, commands_speaks hspeaks, hroom, hfuel]
  exact ⟨_, hdone⟩

/-- After the QUIT it is left. -/
theorem done_quit (m : Nat) :
    Done others name i (connection (commands c readings (m + 1) ++ [farewell ++ [newline]])) st
      ⟨turns name hello lines m ++ [⟨farewell, bye⟩], .quit⟩
      { recordAfter c readings m s with status := .inactive } (metricsOf c name readings m)
      (alertsOf c name readings m) := by
  have hlength := length_le_bytes (hello :: (List.range m).map lines)
  rw [List.length_cons, List.length_map, List.length_range] at hlength
  obtain ⟨room, hroom⟩ := Nat.exists_eq_add_of_le hlength
  have hdone := done_commands hspeaks helse hopened (does_farewell (s := recordAfter c readings m s)
    helse hspeaks.farewellSent hspeaks.farewellTokens (room + farewell.length + 1))
  have hfuel : m + 1 + room + (farewell.length + 1) + 1 =
      m + (room + farewell.length + 1 + 1) + 1 := by omega
  rw [connection, handleSensorConnection, commands_speaks hspeaks, List.flatten_append,
    List.flatten_singleton, List.length_append, List.length_append, List.length_singleton, hroom,
    hfuel]
  exact hdone

/-- The lines sent in answer to the first commands. -/
theorem sentLines_open (hreply : Sendable (registered name)) (m : Nat) :
    sentLines others st (commands c readings (m + 1)) =
      registered name :: List.replicate m metricOk := by
  obtain ⟨finish, hdone⟩ := done_open hspeaks helse hopened m
  have hresps := resps_turns name hello lines m
  rw [sentLines, served, hdone.result, sent_replies]
  · exact hresps
  · rw [hresps]
    exact sendable_turns hreply m

theorem sentLines_quit (hreply : Sendable (registered name)) (m : Nat) :
    sentLines others st (commands c readings (m + 1) ++ [farewell ++ [newline]]) =
      (registered name :: List.replicate m metricOk) ++ [bye] := by
  have hresps : (turns name hello lines m ++ [Exchange.mk farewell bye]).map (·.resp) =
      (registered name :: List.replicate m metricOk) ++ [bye] := by
    rw [List.map_append, resps_turns]
    rfl
  rw [sentLines, served, (done_quit hspeaks helse hopened m).result, sent_replies]
  · exact hresps
  · rw [hresps]
    intro r hr
    rcases List.mem_append.mp hr with hr | hr
    · exact sendable_turns hreply m r hr
    · rw [List.mem_singleton.mp hr]
      exact sendable_of_mem (by decide)

/-- The server answers each command with one line. -/
theorem serves_liveServer (hreply : Sendable (registered name)) (n : Nat) :
    Serves c readings n (liveServer others st) (registered name) := by
  have hfirst : (commands c readings 1).dropLast = [] := by
    rw [commands_speaks hspeaks 0]
    rfl
  have hlast : ∀ m, (commands c readings (m + 2)).dropLast = commands c readings (m + 1) := by
    intro m
    rw [commands_succ (hspeaks.metric m), List.dropLast_concat]
  refine ⟨?_, fun k _ => ?_, fun payload hpayload => ?_⟩
  · have hnone : sentLines others st [] = [] := by
      have hret : (recvLine bufferSize ⟨[], .closed⟩).ret ≤ 0 := by decide
      have hdone : connection [] = pure ⟨[], .disconnected (recvLine bufferSize ⟨[], .closed⟩)⟩ := by
        simp only [connection, List.flatten_nil, handleSensorConnection, connectionLoop, if_pos hret]
      rw [sentLines, served, hdone]
      rfl
    rw [liveServer, hfirst, hnone, sentLines_open hspeaks helse hopened hreply 0]
    rfl
  · rw [liveServer, hlast, sentLines_open hspeaks helse hopened hreply k,
      sentLines_open hspeaks helse hopened hreply (k + 1), List.replicate_succ', ← List.cons_append,
      List.drop_left]
  · rw [hspeaks.quit] at hpayload
    cases hpayload
    rw [liveServer, List.dropLast_concat, sentLines_open hspeaks helse hopened hreply n,
      sentLines_quit hspeaks helse hopened hreply n, List.drop_left]

end

/-! ## Both ends -/

/-- The reply to an accepted REGISTER satisfies both clients. -/
theorem welcomes_registered {t : Text} {name : Bytes} (hname : UnicodeTexts.encode t = some name)
    (hword : WireWord name) : Welcomes (registered name) := by
  constructor
  · obtain ⟨cs, -, rfl⟩ := chars_of_encode hname
    refine ⟨" REGISTERED ".toList ++ cs, ?_⟩
    have htext : '2' :: '0' :: '0' :: (" REGISTERED ".toList ++ cs) = "200 REGISTERED ".toList ++ cs := rfl
    have hhead : "200 REGISTERED ".toList.flatMap String.utf8EncodeChar = ascii "200 REGISTERED " := by
      decide
    rw [htext, List.flatMap_append, hhead, registered]
  · intro hmem
    rcases List.mem_append.mp hmem with hmem | hmem
    · exact absurd hmem (by decide)
    · exact absurd rfl (hword.lineEnds _ hmem).2

namespace SensorClient
variable (c : SensorClient) (interval : Double) (n : Nat)

/-- The client with `--max-messages n`. -/
def session (server : Server) (readings : Nat → Draws × Instant) : Nat → Option Session :=
  match c.platform with
  | .python => Python.run c interval (some n) server readings
  | .java _ => Java.main c n server readings

/-- The client sends `n` readings: the Python one sends at least one and has to sleep in between,
the Java one reads the limit as an `int`. -/
def CanRun : Prop :=
  match c.platform with
  | .python => 1 ≤ n ∧ (n = 1 ∨ Python.sleeps interval = true)
  | .java _ => n < 2 ^ 31

variable {c interval n}

theorem session_conversation {server : Server} {readings : Nat → Draws × Instant} {first name : Bytes}
    (htype : c.sensorType ≠ .invalid) (hname : UnicodeTexts.encode c.sensorId = some name)
    (hserves : Serves c readings n server first) (hfirst : Welcomes first)
    (hcan : c.CanRun interval n) :
    Ends (c.session interval n server readings) (conversation c readings n) := by
  unfold CanRun at hcan
  unfold session
  split at hcan
  · exact Python.run_conversation hserves htype hname hfirst hcan.1 hcan.2
  · rename_i jvm hplatform
    exact Java.main_conversation hserves htype hplatform hfirst hcan

end SensorClient

/-- What a session of `n` readings leaves in the state `g`: the sensor INACTIVE with its last
reading, a metric for each reading, an alert for each one drawn as an anomaly, and no other sensor
touched. -/
structure SessionRecorded (c : SensorClient) (name : Bytes) (readings : Nat → Draws × Instant)
    (n : Nat) (i : Fin maxSensors) (secs : List (GlobalState × GlobalState)) (g : GlobalState) :
    Prop where
  found : g.slotOf name = some i
  inactive : (g.sensors i).status = .inactive
  type : (g.sensors i).type = c.sensorType
  last : ∀ k, n = k + 1 → (g.sensors i).lastValue = (c.report (readings k)).value ∧
    (g.sensors i).lastTimestamp = safeStrncpy (utcTimestamp (readings k).2) ∧
    ((g.sensors i).alertLevel = .alert ↔ isAnomaly c.anomalyChance (readings k).1 = true)
  appended : Appends i secs (metricsOf c name readings n) (alertsOf c name readings n)
  alerts : ∀ k, ((c.report (readings k)).alert? name c.sensorType).isSome = true ↔
    isAnomaly c.anomalyChance (readings k).1 = true
  heard : ∀ k, c.HeardAs (readings k).1 (c.report (readings k)).value

theorem sessionRecorded {c : SensorClient} {name : Bytes} {readings : Nat → Draws × Instant}
    {n : Nat} {i : Fin maxSensors} {s : Sensor} {others : Nat → List StateCall}
    {st : Nat × GlobalState} {p : Program GlobalState Transcript} {t : Transcript}
    (hheard : ∀ k, c.HeardAs (readings k).1 (c.report (readings k)).value)
    (htype : s.type = c.sensorType)
    (hdone : Done others name i p st t { recordAfter c readings n s with status := .inactive }
      (metricsOf c name readings n) (alertsOf c name readings n)) :
    SessionRecorded c name readings n i (p.sections (interference others) st)
      ((p.disturbed (interference others)).run st).2.2 := by
  have htypes : ∀ m, (recordAfter c readings m s).type = s.type := by
    intro m
    induction m with
    | zero => rfl
    | succ m ih =>
      rw [recordAfter, List.range_succ, List.foldl_append]
      exact ih
  have hlast : ∀ k, recordAfter c readings (k + 1) s =
      (c.report (readings k)).onto (recordAfter c readings k s) := by
    intro k
    rw [recordAfter, List.range_succ, List.foldl_append]
    rfl
  have hsensor := hdone.holds.sensor
  refine ⟨hdone.holds.found, ?_, ?_, ?_, hdone.appends, ?_, hheard⟩
  · rw [hsensor]
  · rw [hsensor]
    exact (htypes n).trans htype
  · rintro k rfl
    rw [hsensor, hlast]
    refine ⟨rfl, rfl, ?_⟩
    change levelOf (recordAfter c readings k s).type _ = .alert ↔ _
    rw [levelOf_eq_alert_iff, htypes, htype]
    exact (hheard k).judged
  · intro k
    rw [Report.alert?_isSome]
    exact (hheard k).judged

/-- A client whose REGISTER the server accepts while everybody else keeps to other ids says all it
has to say, is answered 200 throughout, and is recorded. -/
theorem session_recorded {k : Nat} {sys : System k} {actions : List (Action k)}
    (hrun : Runs.run System.step (System.init k) actions = some sys)
    {c : SensorClient} (hstarts : c.Starts) (hplain : c.platform.Plain) {name : Bytes}
    (hname : UnicodeTexts.encode c.sensorId = some name) (hword : WireWord name)
    (hfits : name.length < maxIdLen) {others : Nat → List StateCall} (helse : Elsewhere name others)
    (hok : (stateRegisterSensor name c.sensorType (interference others 0 sys.g)).1 = .ok)
    (hsame : ∀ i, (interference others 0 sys.g).slotOf name = some i →
      ((interference others 0 sys.g).sensors i).type = c.sensorType)
    (readings : Nat → Draws × Instant) {interval : Double} {n : Nat} (hcan : c.CanRun interval n) :
    ∃ session i, Ends (c.session interval n (liveServer others (0, sys.g)) readings) session ∧
      session.kinds = .register :: List.replicate n .metric ++ [.quit] ∧ session.unread = [] ∧
      (served others (0, sys.g) session.payloads).finish = .quit ∧
      (served others (0, sys.g) session.payloads).exchanges.map (·.resp) =
        registered name :: List.replicate n metricOk ++ [bye] ∧
      SessionRecorded c name readings n i
        ((connection session.payloads).sections (interference others) (0, sys.g))
        (((connection session.payloads).disturbed (interference others)).run (0, sys.g)).2.2 := by
  have htable := (System.systemOk_run hrun).table
  have htype := hstarts.1
  obtain ⟨hello, lines, farewell, hspeaks⟩ := speaks readings htype hplain hname hword hfits
  have hread := sensorTypeFromStr_toStr htype
  obtain ⟨i, s, hactive, hstype, hhello⟩ := done_register (0, sys.g) htable hspeaks.helloTokens
    hword.isWord.2 hfits (by rw [hread]; exact hok) (by rw [hread]; exact hsame)
  have hopened : Opened others (0, sys.g) c name hello i s := ⟨hactive, hstype.trans hread, hhello⟩
  have hreply : Sendable (registered name) := by
    have hhead : (ascii "200 REGISTERED ").length = 15 := by decide
    simp only [maxIdLen] at hfits
    rw [Sendable, registered, List.length_append, hhead, bufferSize]
    omega
  have hserves := serves_liveServer hspeaks helse hopened hreply n
  have hends := c.session_conversation htype hname hserves (welcomes_registered hname hword) hcan
  have hpayloads : (conversation c readings n).payloads =
      commands c readings (n + 1) ++ [farewell ++ [newline]] := by
    rw [conversation, hspeaks.quit, Session.payloads, List.map_append, payloads_messages]
    rfl
  have hdone := done_quit hspeaks helse hopened n
  refine ⟨conversation c readings n, i, hends, ?_, rfl, ?_, ?_, ?_⟩
  · rw [conversation, hspeaks.quit, Session.kinds, List.map_append, kinds_speaks hspeaks]
    rfl
  · rw [hpayloads, served, hdone.result]
  · rw [hpayloads, served, hdone.result, List.map_append, resps_turns]
    rfl
  · rw [hpayloads]
    exact sessionRecorded (c.heardAs htype hplain <| readings ·) (hstype.trans hread) hdone

/-- Another sensor is registered and reports while the client runs. -/
def neighbour : Nat → List StateCall
  | 1 => [.register (ascii "s2") .vib]
  | 3 => [.addMetric (ascii "s2") (ofNat 20) (ascii "2026-03-30T14:05:00Z") (ascii "VIB")]
  | _ => []

theorem elsewhere_neighbour : Elsewhere (ascii "s1") neighbour := by
  have hne : ascii "s2" ≠ ascii "s1" := by decide
  intro k call hcall
  unfold neighbour at hcall
  split at hcall
  · cases List.mem_singleton.mp hcall
    exact hne
  · cases List.mem_singleton.mp hcall
    exact hne
  · cases hcall

theorem session_recorded_neighbour : ∃ session i,
    Ends (pythonClient.session (ofNat 3) 3 (liveServer neighbour (0, stateInit)) sampleReadings)
      session ∧
    session.kinds = [.register, .metric, .metric, .metric, .quit] ∧
    SessionRecorded pythonClient (ascii "s1") sampleReadings 3 i
      ((connection session.payloads).sections (interference neighbour) (0, stateInit))
      (((connection session.payloads).disturbed (interference neighbour)).run (0, stateInit)).2.2 := by
  have hnew : (interference neighbour 0 stateInit).slotOf (ascii "s1") = none := by decide +kernel
  have hok : (stateRegisterSensor (ascii "s1") .temp (interference neighbour 0 stateInit)).1 = .ok := by
    decide +kernel
  obtain ⟨session, i, hends, hkinds, -, -, -, hrecorded⟩ := @session_recorded 1 (System.init 1) []
    rfl pythonClient ⟨by decide, rfl⟩ trivial (ascii "s1") (encode_ofAscii (by decide))
    (wireWord_of_visible (by decide) (by decide)) (by decide) neighbour elsewhere_neighbour hok
    (fun i hi => by rw [System.init, hnew] at hi; cases hi) sampleReadings (ofNat 3) 3
    ⟨by decide, .inr (by decide +kernel)⟩
  exact ⟨session, i, hends, hkinds, hrecorded⟩

end IotMonitoring
