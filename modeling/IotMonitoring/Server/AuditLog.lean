import IotMonitoring.Server.ReplyTexts
import IotMonitoring.Shared.Substrings

/-!
# The audit log

`log_sensor` writes a record of each message and its reply. The record is put
together in a buffer as large as the longest message, so it tells the reply
only where the message leaves room for it.
-/

namespace IotMonitoring

open ByteStrings Binary64
set_option autoImplicit false

/-! ## Records -/

/-- The fields of local time that `get_timestamp` prints. -/
structure LocalTime where
  year : Fin 10000
  month : Fin 100
  day : Fin 100
  hour : Fin 100
  minute : Fin 100
  second : Fin 100

def twoPlaces (n : Nat) : Bytes := [digitByte (n / 10 % 10), digitByte (n % 10)]

/-- `"%Y-%m-%d %H:%M:%S"`. -/
def getTimestamp (t : LocalTime) : Bytes :=
  twoPlaces (t.year / 100) ++ twoPlaces t.year ++ ascii "-" ++ twoPlaces t.month ++ ascii "-" ++
    twoPlaces t.day ++ ascii " " ++ twoPlaces t.hour ++ ascii ":" ++ twoPlaces t.minute ++
    ascii ":" ++ twoPlaces t.second

/-- The address `accept` reports, which `inet_ntop` prints. -/
structure Peer where
  octets : Fin 4 → UInt8
  port : UInt16

def clientIp (p : Peer) : Bytes :=
  (ascii ".").intercalate ((List.ofFn p.octets).map fun o => decimal o.toNat)

/-- The record up to the message. -/
def recordHead (t : LocalTime) (p : Peer) : Bytes :=
  ascii "[" ++ getTimestamp t ++ ascii "] [SENSOR] IP=" ++ clientIp p ++ ascii " PORT=" ++
    decimal p.port.toNat ++ ascii " "

/-- The message and the reply between their quotes. -/
def recordBody (recvMsg respMsg : Bytes) : Bytes :=
  ascii "RECV=\"" ++ recvMsg ++ ascii "\" RESP=\"" ++ respMsg ++ ascii "\""

def logSensor (t : LocalTime) (p : Peer) (recvMsg respMsg : Bytes) : Bytes :=
  snprintf bufferSize (recordHead t p ++ recordBody recvMsg respMsg)

/-- The record that `send_response` has written about a line; `raw` is its copy. -/
def auditRecord (t : LocalTime) (p : Peer) (line resp : Bytes) : Bytes :=
  let raw : Buffer bufferSize := safeStrncpy line
  logSensor t p raw.text resp

/-! ## Replies -/

theorem keepsOut_zero : KeepsOut (fun _ => True) 0 where
  constants := by decide
  registered id hid hmem := by
    have hhead : (0 : UInt8) ∉ ascii "200 REGISTERED " := by decide
    exact (List.mem_append.mp hmem).elim hhead hid
  register _ _ _ _ _ := trivial
  report _ _ _ := {
    addMetric := fun _ _ _ _ => trivial
    addAlert := fun _ _ _ _ _ _ => trivial
    setLevel := fun _ _ _ => trivial }
  deactivate _ _ _ := trivial
  status g i _ := by
    have hhead : (0 : UInt8) ∉ ascii "200 STATUS " := by decide
    have hspace : (0 : UInt8) ≠ space := by decide
    have hstatus : (0 : UInt8) ∉ sensorStatusToStr (g.sensors i).status := by
      cases (g.sensors i).status <;> decide
    have htype : (0 : UInt8) ∉ sensorTypeToStr (g.sensors i).type := by
      cases (g.sensors i).type <;> decide
    have hlevel : (0 : UInt8) ∉ alertLevelToStr (g.sensors i).alertLevel := by
      cases (g.sensors i).alertLevel <;> decide
    have hvalue : (0 : UInt8) ∉ fixed2 (g.sensors i).lastValue :=
      fun hmem => absurd (fixed2_bytes hmem).1 (by decide)
    have hid := (g.sensors i).id.zero_notMem
    have htimestamp := (g.sensors i).lastTimestamp.zero_notMem
    simp only [statusText, List.mem_append, List.mem_cons, List.not_mem_nil, hhead, hspace, hstatus,
      htype, hlevel, hvalue, hid, htimestamp, or_self, not_false_eq_true]

/-- The replies that the handler of `line` gives when each of its critical sections finds the state
of some run of the server. -/
def IsReply (line resp : Bytes) : Prop :=
  ∃ env : Nat → GlobalState → GlobalState,
    (∀ k g, ∃ (n : Nat) (actions : List (Action n)) (s : System n),
      Runs.run System.step (System.init n) actions = some s ∧ env k g = s.g) ∧
    resp = (((handleLine line).disturbed env).run (0, stateInit)).1.1

theorem IsReply.zero_notMem {line resp : Bytes} (h : IsReply line resp) : (0 : UInt8) ∉ resp := by
  obtain ⟨env, -, rfl⟩ := h
  have hline : Program.Ensures (fun _ => True) (fun r => (0 : UInt8) ∉ r.1) (handleLine line) :=
    ensures_handleTokens keepsOut_zero fun w hw => tokenize_zero_notMem hw
  exact (hline.run (fun _ _ _ => trivial) trivial).1

theorem IsReply.oneLine {line resp : Bytes} (h : IsReply line resp) (hline : IsLine line) :
    newline ∉ resp := by
  obtain ⟨env, henv, rfl⟩ := h
  have hreachable : ∀ k g, (env k g).OneLine := by
    intro k g
    obtain ⟨n, actions, s, hrun, hg⟩ := henv k g
    rw [hg]
    exact (Runs.invariant_run System.textsOk_step System.textsOk_init hrun).state
  exact ((ensures_handleLine hline).run (fun k g _ => hreachable k g) oneLine_init).1

/-! ## The head of a record -/

/-- Digits and the marks between them, but no letters. -/
def NoLetters (text : Bytes) : Prop := ∀ c ∈ text, 32 ≤ c ∧ c < 64

instance (text : Bytes) : Decidable (NoLetters text) :=
  inferInstanceAs (Decidable (∀ c ∈ text, 32 ≤ c ∧ c < 64))

theorem NoLetters.append {a b : Bytes} (ha : NoLetters a) (hb : NoLetters b) :
    NoLetters (a ++ b) := fun c hc => (List.mem_append.mp hc).elim (ha c) (hb c)

theorem NoLetters.notMem {text : Bytes} (h : NoLetters text) {c : UInt8} (hc : c < 32 ∨ 64 ≤ c) :
    c ∉ text := by
  intro hmem
  obtain ⟨hlow, hhigh⟩ := h c hmem
  rcases hc with hc | hc
  · exact UInt8.not_le.mpr hc hlow
  · exact UInt8.not_le.mpr hhigh hc

theorem noLetters_decimal (n : Nat) : NoLetters (decimal n) := by
  intro c hc
  obtain ⟨hlow, hhigh⟩ := decimal_bounds hc
  exact ⟨UInt8.le_trans (by decide) hlow, UInt8.lt_of_le_of_lt hhigh (by decide)⟩

theorem noLetters_twoPlaces (n : Nat) : NoLetters (twoPlaces n) := by
  intro c hc
  have hdigit : ∀ d < 10, 32 ≤ digitByte d ∧ digitByte d < 64 := by decide
  simp only [twoPlaces, List.mem_cons, List.not_mem_nil, or_false] at hc
  rcases hc with rfl | rfl
  · exact hdigit _ (Nat.mod_lt _ (by decide))
  · exact hdigit _ (Nat.mod_lt _ (by decide))

theorem noLetters_getTimestamp (t : LocalTime) : NoLetters (getTimestamp t) := by
  have hdash : NoLetters (ascii "-") := by decide
  have hspace : NoLetters (ascii " ") := by decide
  have hcolon : NoLetters (ascii ":") := by decide
  unfold getTimestamp
  repeat' apply NoLetters.append
  all_goals first | exact noLetters_twoPlaces _ | assumption

theorem noLetters_clientIp (p : Peer) : NoLetters (clientIp p) := by
  have hdot : NoLetters (ascii ".") := by decide
  have hoctets : ∀ i, NoLetters (decimal (p.octets i).toNat) := fun i => noLetters_decimal _
  have hparts : clientIp p = decimal (p.octets 0).toNat ++ (ascii "." ++
      (decimal (p.octets 1).toNat ++ (ascii "." ++ (decimal (p.octets 2).toNat ++ (ascii "." ++
        decimal (p.octets 3).toNat))))) := by
    rw [clientIp, List.ofFn_succ, List.ofFn_succ, List.ofFn_succ, List.ofFn_succ, List.ofFn_zero]
    simp only [List.intercalate, List.map_cons, List.map_nil, List.intersperse, List.flatten_cons,
      List.flatten_nil, List.append_nil]
    rfl
  rw [hparts]
  exact (hoctets 0).append (hdot.append ((hoctets 1).append (hdot.append ((hoctets 2).append
    (hdot.append (hoctets 3))))))

/-- The message is the first thing in a record that begins like one. -/
theorem skipped_recordHead (t : LocalTime) (p : Peer) : Skipped (ascii "RECV=\"") (recordHead t p) := by
  have hplain : ∀ text, NoLetters text → Skipped (ascii "RECV=\"") text :=
    fun text h => skipped_of_notMem (h.notMem (Or.inr (by decide)))
  have hopen : Skipped (ascii "RECV=\"") (ascii "[") := skipped_of_differs (by decide)
  have hsensor : Skipped (ascii "RECV=\"") (ascii "] [SENSOR] IP=") := skipped_of_differs (by decide)
  have hport : Skipped (ascii "RECV=\"") (ascii " PORT=") := skipped_of_differs (by decide)
  have hspace : Skipped (ascii "RECV=\"") (ascii " ") := skipped_of_differs (by decide)
  exact (((((hopen.append (hplain _ (noLetters_getTimestamp t))).append hsensor).append
    (hplain _ (noLetters_clientIp p))).append hport).append
    (hplain _ (noLetters_decimal _))).append hspace

theorem notMem_recordHead (t : LocalTime) (p : Peer) {c : UInt8} (hc : c < 32) :
    c ∉ recordHead t p := by
  have hplain : ∀ text, NoLetters text → c ∉ text := fun text h => h.notMem (Or.inl hc)
  have hliteral : ∀ text ∈ [ascii "[", ascii "] [SENSOR] IP=", ascii " PORT=", ascii " "],
      ∀ d ∈ text, 32 ≤ d := by decide
  have hfixed : ∀ text ∈ [ascii "[", ascii "] [SENSOR] IP=", ascii " PORT=", ascii " "],
      c ∉ text := fun text h hmem => UInt8.not_le.mpr hc (hliteral text h c hmem)
  simp only [recordHead, List.mem_append, not_or]
  exact ⟨⟨⟨⟨⟨⟨hfixed _ (by simp), hplain _ (noLetters_getTimestamp t)⟩, hfixed _ (by simp)⟩,
    hplain _ (noLetters_clientIp p)⟩, hfixed _ (by simp)⟩, hplain _ (noLetters_decimal _)⟩,
    hfixed _ (by simp)⟩

/-! ## What a record tells -/

/-- The record is one line and ends with the message and with the reply line that was sent. -/
structure TellsAnswer (t : LocalTime) (p : Peer) (line resp : Bytes) : Prop where
  oneLine : newline ∉ auditRecord t p line resp
  told : ∃ r, sendLine resp = some (r ++ [newline]) ∧ recordBody line r <:+ auditRecord t p line resp

theorem auditRecord_eq {line : Bytes} (t : LocalTime) (p : Peer) (hline : IsLine line) (resp : Bytes) :
    auditRecord t p line resp =
      (recordHead t p ++ recordBody (cString line) resp).take (bufferSize - 1) := by
  have hlen : line.length < 4096 := hline.length_lt
  have hcut : (cString line).length ≤ line.length := (List.takeWhile_prefix _).length_le
  have hraw : (safeStrncpy line : Buffer bufferSize).text = cString line := by
    apply List.take_of_length_le
    simp only [bufferSize]
    omega
  rw [auditRecord, logSensor, hraw, snprintf]

theorem recordBody_length (line resp : Bytes) :
    (recordBody line resp).length = line.length + resp.length + 15 := by
  have hrecv : (ascii "RECV=\"").length = 6 := rfl
  have hresp : (ascii "\" RESP=\"").length = 8 := rfl
  have hend : (ascii "\"").length = 1 := rfl
  simp only [recordBody, List.length_append, hrecv, hresp, hend]
  omega

theorem notMem_recordBody {c : UInt8} {line resp : Bytes} (hc : c < 32) (hline : c ∉ line)
    (hresp : c ∉ resp) : c ∉ recordBody line resp := by
  have hliteral : ∀ text ∈ [ascii "RECV=\"", ascii "\" RESP=\"", ascii "\""], ∀ d ∈ text, 32 ≤ d := by
    decide
  have hfixed : ∀ text ∈ [ascii "RECV=\"", ascii "\" RESP=\"", ascii "\""], c ∉ text :=
    fun text h hmem => UInt8.not_le.mpr hc (hliteral text h c hmem)
  simp only [recordBody, List.mem_append, not_or]
  exact ⟨⟨⟨⟨hfixed _ (by simp), hline⟩, hfixed _ (by simp)⟩, hresp⟩, hfixed _ (by simp)⟩

/-- A record that is cut does not end with its message and reply, since these begin nowhere else. -/
theorem recordBody_suffix_iff (t : LocalTime) (p : Peer) (line resp : Bytes) (size : Nat) :
    recordBody line resp <:+ (recordHead t p ++ recordBody line resp).take size ↔
      (recordHead t p ++ recordBody line resp).length ≤ size := by
  constructor
  · rintro ⟨before, hbefore⟩
    by_contra hlong
    have hsplit := List.take_append_drop size (recordHead t p ++ recordBody line resp)
    rw [← hbefore, List.append_assoc] at hsplit
    have hmark : ascii "RECV=\"" <+: recordBody line resp := by
      simp only [recordBody, List.append_assoc]
      exact List.prefix_append _ _
    have hfound : strstr (recordHead t p ++ recordBody line resp) (ascii "RECV=\"") =
        some (recordBody line resp) := by
      obtain ⟨more, hmore⟩ := hmark
      have h := strstr_of_skipped (skipped_recordHead t p) [] more
      rw [List.append_nil, hmore] at h
      exact h
    have hle := strstr_longest hfound ⟨before, hsplit⟩ (hmark.trans (List.prefix_append _ _))
    rw [List.length_append, List.length_drop] at hle
    omega
  · intro h
    rw [List.take_of_length_le h]
    exact List.suffix_append _ _

theorem tellsAnswer_iff (t : LocalTime) (p : Peer) {line resp : Bytes} (hline : IsLine line)
    (hresp : newline ∉ resp) (hzeroResp : (0 : UInt8) ∉ resp) :
    TellsAnswer t p line resp ↔ (0 : UInt8) ∉ line ∧
      (recordHead t p).length + line.length + resp.length + 15 < bufferSize := by
  have hoverall : (recordHead t p ++ recordBody line resp).length =
      (recordHead t p).length + (recordBody line resp).length := List.length_append
  rw [recordBody_length] at hoverall
  constructor
  · rintro ⟨-, r, hsent, htold⟩
    have hr : r = resp := by
      rw [sendLine] at hsent
      split at hsent
      · cases hsent
      · exact (List.append_cancel_right (Option.some.inj hsent)).symm
    subst hr
    rw [auditRecord_eq t p hline] at htold
    have hzero : (0 : UInt8) ∉ line := by
      intro hmem
      have hbody : (0 : UInt8) ∈ recordBody line r := by
        simp only [recordBody, List.mem_append, hmem, or_true, true_or]
      rcases List.mem_append.mp (List.mem_of_mem_take (htold.subset hbody)) with h | h
      · exact notMem_recordHead t p (by decide) h
      · exact notMem_recordBody (by decide) (zero_notMem_cString line) hzeroResp h
    rw [cString_eq_self hzero] at htold
    have hfits := (recordBody_suffix_iff t p line r _).mp htold
    refine ⟨hzero, ?_⟩
    simp only [bufferSize] at hfits ⊢
    omega
  · rintro ⟨hzero, hfits⟩
    have hrecord := auditRecord_eq t p hline resp
    rw [cString_eq_self hzero] at hrecord
    refine ⟨?_, resp, ?_, ?_⟩
    · rw [hrecord]
      intro hmem
      have hnewline : newline ∉ line := fun h => (hline.clean newline h).1 rfl
      rcases List.mem_append.mp (List.mem_of_mem_take hmem) with h | h
      · exact notMem_recordHead t p (by decide) h
      · exact notMem_recordBody (by decide) hnewline hresp h
    · rw [sendLine, if_neg]
      simp only [List.length_append, List.length_singleton, bufferSize] at hfits ⊢
      omega
    · rw [hrecord, recordBody_suffix_iff]
      simp only [bufferSize] at hfits ⊢
      omega

/-- For every line and every reply the handler gives for it: the record tells both exactly when the
line has no zero byte and all of the record fits its buffer. -/
theorem auditRecord_tellsAnswer_iff (t : LocalTime) (p : Peer) (line resp : Bytes)
    (hline : IsLine line) (hresp : IsReply line resp) :
    TellsAnswer t p line resp ↔ (0 : UInt8) ∉ line ∧
      (recordHead t p).length + line.length + resp.length + 15 < bufferSize :=
  tellsAnswer_iff t p hline (hresp.oneLine hline) hresp.zero_notMem

/-! ## Two pings -/

def noon : LocalTime := ⟨2026, 3, 30, 12, 0, 0⟩
def nearPeer : Peer := ⟨[127, 0, 0, 1].get, 40000⟩

/-- The handler of a PING that keeps within the limits of a line. -/
theorem isReply_ping {id : Bytes} (hid : IsWord isBlank id) (hzero : (0 : UInt8) ∉ id) :
    IsReply (joinWords space [ascii "PING", id]) pong := by
  refine ⟨fun _ _ => stateInit, fun _ _ => ⟨0, [], System.init 0, rfl, rfl⟩, ?_⟩
  have hwords : ∀ w ∈ [ascii "PING", id], IsWord isBlank w ∧ (0 : UInt8) ∉ w := by
    intro w hw
    simp only [List.mem_cons, List.not_mem_nil, or_false] at hw
    rcases hw with rfl | rfl
    · decide
    · exact ⟨hid, hzero⟩
  rw [handleLine, tokenize_words hwords (by simp)]
  rfl

theorem auditRecord_tellsAnswer_ping :
    TellsAnswer noon nearPeer (joinWords space [ascii "PING", ascii "s1"]) pong := by
  apply (auditRecord_tellsAnswer_iff noon nearPeer _ pong (by decide)
    (isReply_ping (by decide) (by decide))).mpr
  decide

/-- A PING of the full 4095 bytes. -/
def longPing : Bytes := joinWords space [ascii "PING", List.replicate 4090 115]

/-- Its record is cut inside the message. -/
theorem auditRecord_cut :
    IsLine longPing ∧ IsReply longPing pong ∧ ¬ TellsAnswer noon nearPeer longPing pong := by
  have hid : ∀ c ∈ List.replicate 4090 (115 : UInt8), c = 115 := fun c hc => List.eq_of_mem_replicate hc
  have hword : IsWord isBlank (List.replicate 4090 115) :=
    ⟨fun h => absurd (congrArg List.length h) (by rw [List.length_replicate]; decide),
      fun c hc => by rw [hid c hc]; decide⟩
  have hzero : (0 : UInt8) ∉ List.replicate 4090 (115 : UInt8) := fun h => absurd (hid 0 h) (by decide)
  have hlength : longPing.length = 4095 := by
    rw [longPing, joinWords, joinWords, List.length_append, List.length_cons, List.length_replicate]
    rfl
  have hline : IsLine longPing := by
    refine ⟨?_, ?_, ?_⟩
    · intro h
      rw [h] at hlength
      cases hlength
    · rw [hlength]
      decide
    · intro c hc
      have hping : ∀ c ∈ ascii "PING", c ≠ newline ∧ c ≠ carriageReturn := by decide
      rcases mem_joinWords hc with rfl | ⟨w, hw, hc⟩
      · decide
      · simp only [List.mem_cons, List.not_mem_nil, or_false] at hw
        rcases hw with rfl | rfl
        · exact hping c hc
        · rw [hid c hc]
          decide
  refine ⟨hline, isReply_ping hword hzero, ?_⟩
  intro h
  have hfits := ((tellsAnswer_iff noon nearPeer hline (by decide) (by decide)).mp h).2
  rw [hlength] at hfits
  simp only [bufferSize] at hfits
  omega

end IotMonitoring
