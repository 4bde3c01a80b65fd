import IotMonitoring.Client.Readings

/-!
# The message limit of the clients

`run` of `sensor.py` and of `SensorClient.java` on a connection that stands,
and the option `--max-messages`. A server is a function of what has reached it;
an answer is a line that waits to be read. Python decodes strictly and raises
where Java replaces, tests its limit only behind a METRIC, and hands any number
to `time.sleep`. What the clients print is left out: it always succeeds.
-/

namespace IotMonitoring

open ByteStrings Binary64 UnicodeTexts
set_option autoImplicit false

/-! ## Sessions -/

inductive MessageKind where
  | register | metric | quit
deriving DecidableEq

structure Message where
  kind : MessageKind
  payload : Bytes

/-- The lines a server sends once the last of these payloads has reached it. -/
abbrev Server := List Bytes → List Bytes

/-- What the client has sent, and the lines it has received and not read. -/
structure Session where
  sent : List Message
  unread : List Bytes

namespace Session

def start : Session := ⟨[], []⟩
def payloads (s : Session) : List Bytes := s.sent.map (·.payload)
def kinds (s : Session) : List MessageKind := s.sent.map (·.kind)

def send (server : Server) (kind : MessageKind) (payload : Bytes) (s : Session) : Session :=
  ⟨s.sent ++ [⟨kind, payload⟩], s.unread ++ server (s.payloads ++ [payload])⟩

/-- Send a command and read the answer; `none` when encoding, waiting or decoding raises. -/
def call {α : Type} (server : Server) (recvLine : List Bytes → Option α × List Bytes)
    (kind : MessageKind) (payload : Option Bytes) (s : Session) : Option α × Session :=
  match payload with
  | none => (none, s)
  | some payload =>
    let s := s.send server kind payload
    ((recvLine s.unread).1, { s with unread := (recvLine s.unread).2 })

end Session

/-- A text without the characters at both ends for which `p` holds. -/
def stripped {α : Type} (p : α → Bool) (l : List α) : List α :=
  ((l.dropWhile p).reverse.dropWhile p).reverse

/-- The limit, if there is one, is reached. -/
def limitReached (maxMessages : Option Int) (sentCount : Nat) : Bool :=
  maxMessages.any fun n : Int => decide (n ≤ sentCount)

/-! ## The Python client -/

namespace Python

/-- The characters that `strip` removes. -/
def isSpace (c : Char) : Bool :=
  (9 ≤ c.toNat && c.toNat ≤ 13) || (28 ≤ c.toNat && c.toNat ≤ 32) || c.toNat == 0x85 ||
    c.toNat == 0xA0 || c.toNat == 0x1680 || (0x2000 ≤ c.toNat && c.toNat ≤ 0x200A) ||
    c.toNat == 0x2028 || c.toNat == 0x2029 || c.toNat == 0x202F || c.toNat == 0x205F ||
    c.toNat == 0x3000

/-- `_recv_line`; without a line it waits until the timeout or the close of the connection. -/
def recvLine : List Bytes → Option (List Char) × List Bytes
  | [] => (none, [])
  | line :: unread => ((decode line).map (stripped isSpace), unread)

/-- `time.sleep` returns: it raises for a negative number, for one that is not finite, and for 2^63
nanoseconds or more. -/
def sleeps : Double → Bool
  | .finite negative u _ => (!negative || u == 0) && roundUnits (u * 10 ^ 9) unit < 2 ^ 63 * unit
  | _ => false

section
variable (c : SensorClient) (interval : Double) (maxMessages : Option Int) (server : Server)
variable (readings : Nat → Draws × Instant)

/-- The loop of `run`; an exception leaves it as the `break` does. `none`: it goes on beyond the
fuel. -/
def metricLoop : Nat → Nat → Session → Option Session
  | 0, _, _ => none
  | fuel + 1, sentCount, s =>
    match c.generateValue (readings sentCount).1 with
    | none => some s
    | some value =>
      let (response, s) := s.call server recvLine .metric
        (c.sendMetric value (utcTimestamp (readings sentCount).2))
      if response.isNone then some s
      else if limitReached maxMessages (sentCount + 1) then some s
      else if sleeps interval then metricLoop fuel (sentCount + 1) s
      else some s

/-- `close`; what `send_quit` raises is printed. -/
def close (s : Session) : Session := (s.call server recvLine .quit c.sendQuit).2

def run (fuel : Nat) : Option Session :=
  let (response, s) := Session.start.call server recvLine .register c.register
  if response.any fun text => ['2', '0', '0'].isPrefixOf text then
    (metricLoop c interval maxMessages server readings fuel 0 s).map (close c server)
  else some (close c server s)

end

end Python

/-! ## The Java client -/

namespace Java

/-- `readLine` and `trim`: a carriage return ends a line too. A character up to U+0020 is a byte of
its own and no other byte decodes to one, so `trim` and `startsWith("200")` may look at the bytes. -/
def readLine : List Bytes → Option Bytes × List Bytes
  | [] => (none, [])
  | line :: unread =>
    (some (stripped (· ≤ 32) (line.takeWhile (· ≠ carriageReturn))),
      match line.dropWhile (· ≠ carriageReturn) with
      | [] => unread
      | _ :: [] => unread
      | _ :: more => more :: unread)

/-- `--max-messages` in `main`; `none` when `Integer.parseInt` or the check throws. -/
def parseMaxMessages (n : Int) : Option Int :=
  if n < -2 ^ 31 ∨ 2 ^ 31 ≤ n then none
  else if n < 0 then none
  else some n

section
variable (c : SensorClient) (maxMessages : Option Int) (server : Server)
variable (readings : Nat → Draws × Instant)

/-- The loop of `run`. `main` admits no interval but a positive one, so the sleep returns. -/
def metricLoop : Nat → Nat → Session → Option Session
  | 0, _, _ => none
  | fuel + 1, sentCount, s =>
    if limitReached maxMessages sentCount then some s
    else match c.generateValue (readings sentCount).1 with
      | none => some s
      | some value =>
        let (response, s) := s.call server readLine .metric
          (c.sendMetric value (utcTimestamp (readings sentCount).2))
        if response.isNone then some s
        else if limitReached maxMessages (sentCount + 1) then some s
        else metricLoop fuel (sentCount + 1) s

def close (s : Session) : Session := (s.call server readLine .quit c.sendQuit).2

def run (fuel : Nat) : Option Session :=
  let (response, s) := Session.start.call server readLine .register c.register
  if response.any fun text => (ascii "200").isPrefixOf text then
    (metricLoop c maxMessages server readings fuel 0 s).map (close c server)
  else some (close c server s)

end

/-- `main` with `--max-messages`; an invalid limit ends it before it connects. -/
def main (c : SensorClient) (limit : Int) (server : Server) (readings : Nat → Draws × Instant)
    (fuel : Nat) : Option Session :=
  match parseMaxMessages limit with
  | none => some Session.start
  | some n => run c (some n) server readings fuel

end Java

/-! ## Answers -/

theorem stripped_startsWith {α : Type} {p : α → Bool} {a b : List α} (ha : ∀ x ∈ a, p x = false) :
    a <+: stripped p (a ++ b) := by
  cases a with
  | nil => exact List.nil_prefix
  | cons x a =>
    have hkept : (x :: a ++ b).dropWhile p = x :: a ++ b := by
      rw [List.cons_append, List.dropWhile_cons, ha x List.mem_cons_self, if_neg Bool.false_ne_true]
    have hend : (x :: a).reverse.dropWhile p = (x :: a).reverse := by
      rcases hlast : (x :: a).reverse with _ | ⟨y, ys⟩
      · rfl
      · have hy : y ∈ x :: a := List.mem_reverse.mp (hlast ▸ List.mem_cons_self)
        rw [List.dropWhile_cons, ha y hy, if_neg Bool.false_ne_true]
    rw [stripped, hkept, List.reverse_append, List.dropWhile_append]
    split
    · rw [hend, List.reverse_reverse]
    · rw [List.reverse_append, List.reverse_reverse]
      exact List.prefix_append _ _

/-- Whatever reaches the server, some line is sent in return. -/
def Answers (server : Server) : Prop := ∀ payloads, payloads ≠ [] → server payloads ≠ []

/-- The REGISTER of the client is answered with a text that starts with 200. -/
def Accepts (server : Server) (c : SensorClient) : Prop :=
  ∀ payload, c.register = some payload → ∃ (text : List Char) (lines : List Bytes),
    server [payload] = ('2' :: '0' :: '0' :: text).flatMap String.utf8EncodeChar :: lines

/-- None of the client's commands fails to encode. -/
structure CanSend (c : SensorClient) : Prop where
  register : ∃ payload, c.register = some payload
  metric : ∀ value now, ∃ payload, c.sendMetric value (utcTimestamp now) = some payload
  quit : ∃ payload, c.sendQuit = some payload

namespace SensorClient
variable {c : SensorClient}

theorem generateValue_some (htype : c.sensorType ≠ .invalid) (d : Draws) :
    ∃ value, c.generateValue d = some value := by
  have hdraw : ∀ type, type ≠ .invalid → ∀ anomaly choice k high,
      ∃ value, drawReading type anomaly choice k high = some value := by
    intro type hvalid anomaly choice k high
    cases type with
    | temp => exact ⟨_, rfl⟩
    | vib => exact ⟨_, rfl⟩
    | power =>
      cases anomaly with
      | false => exact ⟨_, rfl⟩
      | true => exact ⟨_, rfl⟩
    | invalid => exact absurd rfl hvalid
  unfold generateValue
  cases c.platform with
  | python => exact hdraw _ htype _ _ _ _
  | java jvm => exact hdraw _ htype _ _ _ _

theorem canSend_java {jvm : Jvm} (h : c.platform = .java jvm) : CanSend c := by
  have hcommand : ∀ command, ∃ payload, c.sendCommand command = some payload := by
    intro command
    unfold sendCommand
    rw [h]
    exact ⟨_, rfl⟩
  exact ⟨hcommand _, fun value now => hcommand _, hcommand _⟩

theorem canSend_of_encode {name : Bytes} (hname : UnicodeTexts.encode c.sensorId = some name) :
    CanSend c where
  register := ⟨_, c.register_some hname⟩
  metric := fun value _ => ⟨_, c.sendMetric_some hname (c.platform.encode_fixed2 value)
    fun _ hb => (utcTimestamp_bytes hb).2⟩
  quit := ⟨_, c.sendQuit_some hname⟩

/-- An id without a UTF-8 form keeps the Python client from sending anything. -/
theorem python_silent (h : c.platform = .python) (hname : UnicodeTexts.encode c.sensorId = none) :
    c.register = none ∧ c.sendQuit = none := by
  have hcommand : ∀ command, UnicodeTexts.encode command = none →
      c.sendCommand command = none := by
    intro command hcommand
    unfold sendCommand
    rw [h]
    exact encode_append_none (.inl hcommand)
  constructor
  · apply hcommand
    exact encode_append_none (.inl (encode_append_none (.inl (encode_append_none (.inr hname)))))
  · apply hcommand
    exact encode_append_none (.inr hname)

end SensorClient

/-! ## The commands of a run and the lines in answer to them -/

/-- A run of this outcome for every fuel that is large enough. -/
def Ends (outcome : Nat → Option Session) (s : Session) : Prop :=
  ∃ enough, ∀ fuel, enough ≤ fuel → outcome fuel = some s

theorem Ends.unique {outcome : Nat → Option Session} {s s' : Session} (h : Ends outcome s)
    (h' : Ends outcome s') : s = s' := by
  obtain ⟨enough, hs⟩ := h
  obtain ⟨enough', hs'⟩ := h'
  have heq := hs (max enough enough') (Nat.le_max_left _ _)
  rw [hs' (max enough enough') (Nat.le_max_right _ _)] at heq
  exact (Option.some.inj heq).symm

section
variable (c : SensorClient) (server : Server) (readings : Nat → Draws × Instant)

/-- The REGISTER, then a METRIC for each reading. -/
def command : Nat → Option Bytes
  | 0 => c.register
  | k + 1 => (c.generateValue (readings k).1).bind fun value =>
    c.sendMetric value (utcTimestamp (readings k).2)

def commands (m : Nat) : List Bytes := (List.range m).filterMap (command c readings)

/-- The lines the server sends in answer to the first `m` commands. -/
def answers (m : Nat) : List Bytes :=
  (List.range m).flatMap fun k => server (commands c readings (k + 1))

/-- The line that stands next when command `k` has been sent is UTF-8. -/
def readable (k : Nat) : Bool := ((answers c server readings (k + 1))[k]?.bind decode).isSome

/-- The first `m` commands have been sent, and as many lines read. -/
structure Exchanged (m : Nat) (s : Session) : Prop where
  payloads : s.payloads = commands c readings m
  unread : s.unread = (answers c server readings m).drop m

variable {c server readings} {m : Nat} {payload : Bytes}

theorem commands_succ (h : command c readings m = some payload) :
    commands c readings (m + 1) = commands c readings m ++ [payload] := by
  rw [commands, List.range_succ, List.filterMap_append, List.filterMap_cons_some h]
  rfl

theorem answers_succ : answers c server readings (m + 1) =
    answers c server readings m ++ server (commands c readings (m + 1)) := by
  rw [answers, List.range_succ, List.flatMap_append, List.flatMap_singleton]
  rfl

/-- There is a line for every command. -/
theorem le_answers_length (hanswers : Answers server)
    (hcommands : ∀ k, ∃ payload, command c readings k = some payload) (m : Nat) :
    m ≤ (answers c server readings m).length := by
  induction m with
  | zero => exact Nat.zero_le _
  | succ m ih =>
    obtain ⟨payload, hpayload⟩ := hcommands m
    have hne : commands c readings (m + 1) ≠ [] := by
      rw [commands_succ hpayload]
      exact List.append_ne_nil_of_right_ne_nil _ (List.cons_ne_nil _ _)
    have hpos := List.length_pos_of_ne_nil (hanswers _ hne)
    rw [answers_succ, List.length_append]
    omega

theorem Exchanged.start : Exchanged c server readings 0 Session.start := ⟨rfl, rfl⟩

/-- One more command: it is sent, and the next line is read and decoded. -/
theorem Exchanged.call {s : Session} (h : Exchanged c server readings m s)
    (hanswers : Answers server) (hcommands : ∀ k, ∃ payload, command c readings k = some payload)
    (kind : MessageKind) : ∃ line s',
      s.call server Python.recvLine kind (command c readings m) =
        ((decode line).map (stripped Python.isSpace), s') ∧
      (answers c server readings (m + 1))[m]? = some line ∧
      s'.kinds = s.kinds ++ [kind] ∧ Exchanged c server readings (m + 1) s' := by
  obtain ⟨payload, hpayload⟩ := hcommands m
  have hlength := le_answers_length hanswers hcommands m
  have hlength' := le_answers_length hanswers hcommands (m + 1)
  have hunread : (s.send server kind payload).unread =
      (answers c server readings (m + 1))[m] :: (answers c server readings (m + 1)).drop (m + 1) := by
    rw [Session.send, h.payloads, h.unread, ← commands_succ hpayload,
      ← List.drop_append_of_le_length hlength, ← answers_succ]
    exact List.drop_eq_getElem_cons hlength'
  refine ⟨(answers c server readings (m + 1))[m],
    { s.send server kind payload with unread := (answers c server readings (m + 1)).drop (m + 1) },
    ?_, List.getElem?_eq_getElem hlength', ?_, ?_, rfl⟩
  · rw [hpayload]
    simp only [Session.call, hunread, Python.recvLine]
  · simp only [Session.kinds, Session.send, List.map_append, List.map_cons, List.map_nil]
  · rw [commands_succ hpayload, ← h.payloads]
    simp only [Session.payloads, Session.send, List.map_append, List.map_cons, List.map_nil]

theorem command_some (htype : c.sensorType ≠ .invalid) (hsend : CanSend c) (k : Nat) :
    ∃ payload, command c readings k = some payload := by
  cases k with
  | zero => exact hsend.register
  | succ k =>
    obtain ⟨value, hvalue⟩ := SensorClient.generateValue_some htype (readings k).1
    rw [command, hvalue]
    exact hsend.metric value (readings k).2

end

theorem limitReached_iff {n m : Nat} : limitReached (some (n : Int)) m = true ↔ n ≤ m := by
  simp only [limitReached, Option.any_some, decide_eq_true_eq, Int.ofNat_le]

theorem call_kinds {α : Type} {server : Server} {recvLine : List Bytes → Option α × List Bytes}
    {kind : MessageKind} {payload : Option Bytes} (h : ∃ bytes, payload = some bytes) (s : Session) :
    (s.call server recvLine kind payload).2.kinds = s.kinds ++ [kind] := by
  obtain ⟨bytes, rfl⟩ := h
  simp only [Session.call, Session.kinds, Session.send, List.map_append, List.map_cons,
    List.map_nil]

/-! ## The loop of the Python client -/

namespace Python

section
variable {c : SensorClient} {server : Server} {readings : Nat → Draws × Instant}
variable (htype : c.sensorType ≠ .invalid) (hsend : CanSend c) (hanswers : Answers server)
include htype hsend hanswers

/-- One turn sends a METRIC, whatever the limit. -/
theorem metricLoop_turn (interval : Double) (maxMessages : Option Int) {k : Nat} {s : Session}
    (h : Exchanged c server readings (k + 1) s) : ∃ s', s'.kinds = s.kinds ++ [.metric] ∧
      Exchanged c server readings (k + 2) s' ∧
      ∀ fuel, metricLoop c interval maxMessages server readings (fuel + 1) k s =
        if readable c server readings (k + 1) ∧ ¬ limitReached maxMessages (k + 1) ∧ sleeps interval
        then metricLoop c interval maxMessages server readings fuel (k + 1) s'
        else some s' := by
  obtain ⟨value, hvalue⟩ := SensorClient.generateValue_some htype (readings k).1
  obtain ⟨line, s', hcall, hline, hkinds, hnext⟩ := h.call hanswers (command_some htype hsend) .metric
  have hcommand : command c readings (k + 1) =
      c.sendMetric value (utcTimestamp (readings k).2) := by
    rw [command, hvalue, Option.bind_some]
  rw [hcommand] at hcall
  refine ⟨s', hkinds, hnext, ?_⟩
  intro fuel
  have hread : readable c server readings (k + 1) = (decode line).isSome := by
    rw [readable, hline, Option.bind_some]
  rw [metricLoop]
  simp only [hvalue, hcall, hread]
  cases decode line with
  | none => rfl
  | some text =>
    simp only [Option.map_some, Option.isNone_some, Option.isSome_some, Bool.false_eq_true, if_false,
      true_and]
    by_cases hlimit : limitReached maxMessages (k + 1)
    · rw [if_pos hlimit, if_neg fun hgo => hgo.1 hlimit]
    · rw [if_neg hlimit]
      by_cases hsleep : sleeps interval
      · rw [if_pos hsleep, if_pos ⟨hlimit, hsleep⟩]
      · rw [if_neg hsleep, if_neg fun hgo => hsleep hgo.2]

/-- The loop sends at most as many METRICs as the limit says, and that many exactly when no answer
before the last stops it and it can sleep in between. -/
theorem metricLoop_ends (interval : Double) {n k : Nat} (hlt : k < n) {s : Session}
    (h : Exchanged c server readings (k + 1) s) : ∃ s' m,
      Ends (fun fuel => metricLoop c interval (some n) server readings fuel k s) s' ∧
      s'.kinds = s.kinds ++ List.replicate m .metric ∧ k + m ≤ n ∧
      (k + m = n ↔ k + 1 = n ∨ (sleeps interval = true ∧
        ∀ i, k < i → i < n → readable c server readings i = true)) := by
  induction hd : n - k generalizing k s with
  | zero => omega
  | succ d ih =>
    obtain ⟨s₁, hkinds, hnext, hloop⟩ :=
      metricLoop_turn htype hsend hanswers interval (some (n : Int)) h
    by_cases hgo : readable c server readings (k + 1) ∧ ¬ limitReached (some (n : Int)) (k + 1) ∧
        sleeps interval
    · have hmore : k + 1 < n := Nat.lt_of_not_le fun hle => hgo.2.1 (limitReached_iff.mpr hle)
      obtain ⟨s', m, ⟨enough, hends⟩, hkinds', hle, hiff⟩ := ih hmore hnext (by omega)
      refine ⟨s', m + 1, ⟨enough + 1, ?_⟩, ?_, by omega, ?_⟩
      · intro fuel hfuel
        obtain ⟨fuel, rfl⟩ : ∃ j, fuel = j + 1 := ⟨fuel - 1, by omega⟩
        simp only [hloop, if_pos hgo]
        exact hends fuel (by omega)
      · rw [hkinds', hkinds, List.append_assoc, List.replicate_succ]
        rfl
      · rw [show k + (m + 1) = k + 1 + m by omega, hiff]
        constructor
        · rintro (hlast | ⟨hsleep, hall⟩)
          · refine .inr ⟨hgo.2.2, fun i hlow hhigh => ?_⟩
            rw [show i = k + 1 by omega]
            exact hgo.1
          · refine .inr ⟨hsleep, fun i hlow hhigh => ?_⟩
            rcases Nat.eq_or_lt_of_le hlow with rfl | hlow
            · exact hgo.1
            · exact hall i hlow hhigh
        · rintro (hlast | ⟨hsleep, hall⟩)
          · omega
          · exact .inr ⟨hsleep, fun i hlow hhigh => hall i (by omega) hhigh⟩
    · refine ⟨s₁, 1, ⟨1, ?_⟩, hkinds, hlt, ?_⟩
      · intro fuel hfuel
        obtain ⟨fuel, rfl⟩ : ∃ j, fuel = j + 1 := ⟨fuel - 1, by omega⟩
        simp only [hloop, if_neg hgo]
      · constructor
        · exact .inl
        · rintro (hlast | ⟨hsleep, hall⟩)
          · exact hlast
          · by_contra hne
            have hmore : k + 1 < n := Nat.lt_of_le_of_ne hlt hne
            exact hgo ⟨hall (k + 1) (Nat.lt_succ_self k) hmore,
              fun hlimit => absurd (limitReached_iff.mp hlimit) (Nat.not_le.mpr hmore), hsleep⟩

/-- From the start of the loop; a limit of 0 is tested when one METRIC has been sent. -/
theorem metricLoop_start (interval : Double) (n : Nat) {s : Session}
    (h : Exchanged c server readings 1 s) : ∃ s' m,
      Ends (fun fuel => metricLoop c interval (some n) server readings fuel 0 s) s' ∧
      s'.kinds = s.kinds ++ List.replicate m .metric ∧
      (m = n ↔ 1 ≤ n ∧ (n = 1 ∨ (sleeps interval = true ∧
        ∀ i, 1 ≤ i → i < n → readable c server readings i = true))) := by
  rcases Nat.eq_zero_or_pos n with rfl | hpos
  · obtain ⟨s₁, hkinds, -, hloop⟩ :=
      metricLoop_turn htype hsend hanswers interval (some ((0 : Nat) : Int)) h
    refine ⟨s₁, 1, ⟨1, ?_⟩, hkinds, by omega⟩
    intro fuel hfuel
    obtain ⟨fuel, rfl⟩ : ∃ j, fuel = j + 1 := ⟨fuel - 1, by omega⟩
    have hlimit : limitReached (some ((0 : Nat) : Int)) (0 + 1) = true :=
      limitReached_iff.mpr (Nat.zero_le _)
    have hstop : ¬ (readable c server readings (0 + 1) ∧
        ¬ limitReached (some ((0 : Nat) : Int)) (0 + 1) ∧ sleeps interval) :=
      fun hgo => hgo.2.1 hlimit
    simp only [hloop, if_neg hstop]
  · obtain ⟨s', m, hends, hkinds, -, hiff⟩ :=
      metricLoop_ends htype hsend hanswers interval hpos h
    rw [Nat.zero_add, Nat.zero_add] at hiff
    refine ⟨s', m, hends, hkinds, hiff.trans ?_⟩
    constructor
    · rintro (hlast | hall)
      · exact ⟨hpos, .inl hlast.symm⟩
      · exact ⟨hpos, .inr hall⟩
    · rintro ⟨-, hlast | hall⟩
      · exact .inl hlast.symm
      · exact .inr hall

/-- A run behind an accepted REGISTER. -/
theorem run_ends (haccepts : Accepts server c) (interval : Double) (n : Nat) : ∃ s m,
    Ends (run c interval (some n) server readings) s ∧
      s.kinds = .register :: (List.replicate m .metric ++ [.quit]) ∧
      (m = n ↔ 1 ≤ n ∧ (n = 1 ∨ (sleeps interval = true ∧
        ∀ i, 1 ≤ i → i < n → readable c server readings i = true))) := by
  obtain ⟨payload, hpayload⟩ := hsend.register
  obtain ⟨text, lines, haccepted⟩ := haccepts payload hpayload
  have hstart : Exchanged c server readings 0 Session.start := .start
  obtain ⟨line, s₀, hcall, hline, hkinds, hnext⟩ :=
    hstart.call hanswers (command_some htype hsend) .register
  have hfirst : answers c server readings 1 =
      ('2' :: '0' :: '0' :: text).flatMap String.utf8EncodeChar :: lines := by
    rw [← haccepted, answers_succ, commands_succ (m := 0) hpayload]
    rfl
  rw [Nat.zero_add, hfirst, List.getElem?_cons_zero, Option.some_inj] at hline
  rw [← hline, decode_encoded, Option.map_some] at hcall
  obtain ⟨s₁, m, ⟨enough, hends⟩, hloop, hiff⟩ :=
    metricLoop_start htype hsend hanswers interval n hnext
  refine ⟨close c server s₁, m, ⟨enough, ?_⟩, ?_, hiff⟩
  · intro fuel hfuel
    have hvisible : ∀ x ∈ ['2', '0', '0'], isSpace x = false := by
      intro x hx
      simp only [List.mem_cons, List.not_mem_nil, or_false] at hx
      rcases hx with rfl | rfl | rfl <;> rfl
    have hok : ['2', '0', '0'].isPrefixOf (stripped isSpace ('2' :: '0' :: '0' :: text)) = true :=
      List.isPrefixOf_iff_prefix.mpr (stripped_startsWith (b := text) hvisible)
    have hregister : Session.start.call server recvLine .register c.register =
        (some (stripped isSpace ('2' :: '0' :: '0' :: text)), s₀) := hcall
    rw [run, hregister]
    simp only [Option.any_some, hok, if_true, hends fuel hfuel, Option.map_some]
  · rw [close, call_kinds hsend.quit, hloop, hkinds, List.append_assoc]
    rfl

end

end Python

/-! ## The loop of the Java client -/

namespace Java

section
variable {c : SensorClient} {server : Server} {readings : Nat → Draws × Instant}

/-- There is always a line to read. -/
theorem call_answered (hanswers : Answers server) (kind : MessageKind) (payload : Bytes)
    (s : Session) : ∃ text s', s.call server readLine kind (some payload) = (some text, s') := by
  have hsent : s.payloads ++ [payload] ≠ [] :=
    List.append_ne_nil_of_right_ne_nil _ (List.cons_ne_nil _ _)
  have hne : (s.send server kind payload).unread ≠ [] :=
    List.append_ne_nil_of_right_ne_nil _ (hanswers _ hsent)
  obtain ⟨line, unread, hunread⟩ := List.exists_cons_of_ne_nil hne
  simp only [Session.call, hunread, readLine]
  exact ⟨_, _, rfl⟩

variable (htype : c.sensorType ≠ .invalid) (hsend : CanSend c) (hanswers : Answers server)
include htype hsend hanswers

/-- The loop sends the METRICs that are left. -/
theorem metricLoop_ends {n k : Nat} (hle : k ≤ n) (s : Session) : ∃ s',
    Ends (fun fuel => metricLoop c (some n) server readings fuel k s) s' ∧
      s'.kinds = s.kinds ++ List.replicate (n - k) .metric := by
  induction hd : n - k generalizing k s with
  | zero =>
    refine ⟨s, ⟨1, ?_⟩, (List.append_nil _).symm⟩
    intro fuel hfuel
    obtain ⟨fuel, rfl⟩ : ∃ j, fuel = j + 1 := ⟨fuel - 1, by omega⟩
    have hlimit : limitReached (some (n : Int)) k = true := limitReached_iff.mpr (by omega)
    simp only [metricLoop, if_pos hlimit]
  | succ d ih =>
    obtain ⟨value, hvalue⟩ := SensorClient.generateValue_some htype (readings k).1
    obtain ⟨payload, hpayload⟩ := hsend.metric value (readings k).2
    obtain ⟨text, s₁, hcall⟩ := call_answered hanswers .metric payload s
    have hkinds : s₁.kinds = s.kinds ++ [.metric] := by
      have hcalled : (s.call server readLine .metric (some payload)).2.kinds = s.kinds ++ [.metric] :=
        call_kinds ⟨payload, rfl⟩ s
      rwa [hcall] at hcalled
    obtain ⟨s', ⟨enough, hends⟩, hkinds'⟩ := ih (k := k + 1) (by omega) s₁ (by omega)
    refine ⟨s', ⟨max (enough + 1) 2, ?_⟩, ?_⟩
    · intro fuel hfuel
      obtain ⟨fuel, rfl⟩ : ∃ j, fuel = j + 1 := ⟨fuel - 1, by omega⟩
      have hbelow : ¬ limitReached (some (n : Int)) k := by
        rw [limitReached_iff]
        omega
      simp only [metricLoop, if_neg hbelow, hvalue, hpayload, hcall, Option.isNone_some,
        Bool.false_eq_true, if_false]
      rw [← hends fuel (by omega)]
      by_cases hlimit : limitReached (some (n : Int)) (k + 1)
      · -- the test behind the METRIC and the one at the head of the next turn agree
        obtain ⟨fuel, rfl⟩ : ∃ j, fuel = j + 1 := ⟨fuel - 1, by omega⟩
        simp only [metricLoop, if_pos hlimit]
      · rw [if_neg hlimit]
    · rw [hkinds', hkinds, List.append_assoc, List.replicate_succ]
      rfl

/-- A run behind an accepted REGISTER. -/
theorem run_ends (haccepts : Accepts server c) (n : Nat) : ∃ s,
    Ends (run c (some n) server readings) s ∧
      s.kinds = .register :: (List.replicate n .metric ++ [.quit]) := by
  obtain ⟨payload, hpayload⟩ := hsend.register
  obtain ⟨text, lines, haccepted⟩ := haccepts payload hpayload
  have hunread : (Session.start.send server .register payload).unread =
      ('2' :: '0' :: '0' :: text).flatMap String.utf8EncodeChar :: lines := haccepted
  have hbytes : ('2' :: '0' :: '0' :: text).flatMap String.utf8EncodeChar =
      ascii "200" ++ text.flatMap String.utf8EncodeChar := by
    rw [List.flatMap_cons, List.flatMap_cons, List.flatMap_cons]
    rfl
  obtain ⟨response, s₀, hcall⟩ := call_answered hanswers .register payload Session.start
  have hok : (ascii "200").isPrefixOf response = true := by
    have hresponse : response = stripped (· ≤ 32)
        (ascii "200" ++ (text.flatMap String.utf8EncodeChar).takeWhile (· ≠ carriageReturn)) := by
      have hread := congrArg Prod.fst hcall
      simp only [Session.call, hunread, readLine, hbytes] at hread
      rw [List.takeWhile_append_of_pos (by decide)] at hread
      exact (Option.some.inj hread).symm
    rw [hresponse]
    exact List.isPrefixOf_iff_prefix.mpr (stripped_startsWith (by decide))
  have hkinds : s₀.kinds = [.register] := by
    have hcalled : (Session.start.call server readLine .register (some payload)).2.kinds =
        Session.start.kinds ++ [.register] := call_kinds ⟨payload, rfl⟩ _
    rwa [hcall] at hcalled
  obtain ⟨s₁, ⟨enough, hends⟩, hloop⟩ : ∃ s',
      Ends (fun fuel => metricLoop c (some n) server readings fuel 0 s₀) s' ∧
        s'.kinds = s₀.kinds ++ List.replicate (n - 0) .metric :=
    metricLoop_ends htype hsend hanswers (Nat.zero_le n) s₀
  refine ⟨close c server s₁, ⟨enough, ?_⟩, ?_⟩
  · intro fuel hfuel
    rw [run, hpayload, hcall]
    simp only [Option.any_some, hok, if_true, hends fuel hfuel, Option.map_some]
  · rw [close, call_kinds hsend.quit, hloop, hkinds, Nat.sub_zero, List.append_assoc]
    rfl

end

end Java

/-! ## Both clients -/

/-- The run ends and has sent one REGISTER, `n` METRICs and one QUIT. -/
def ObeysLimit (n : Nat) (outcome : Nat → Option Session) : Prop :=
  ∃ s, Ends outcome s ∧ s.kinds = .register :: (List.replicate n .metric ++ [.quit])

section
variable {p j : SensorClient} {jvm : Jvm} {server : Server}

theorem replicate_kinds_inj {m n : Nat}
    (h : MessageKind.register :: (List.replicate m .metric ++ [.quit]) =
      .register :: (List.replicate n .metric ++ [.quit])) : m = n := by
  have hlength := congrArg List.length h
  simp only [List.length_cons, List.length_append, List.length_replicate, List.length_nil] at hlength
  omega

theorem python_obeys_iff (hp : p.platform = .python) (htype : p.sensorType ≠ .invalid)
    (hanswers : Answers server) (haccepts : Accepts server p) (interval : Double)
    (readings : Nat → Draws × Instant) (n : Nat) :
    ObeysLimit n (Python.run p interval (some n) server readings) ↔
      (UnicodeTexts.encode p.sensorId).isSome ∧ 1 ≤ n ∧
        (n = 1 ∨ (Python.sleeps interval = true ∧
          ∀ i, 1 ≤ i → i < n → readable p server readings i = true)) := by
  cases hname : UnicodeTexts.encode p.sensorId with
  | none =>
    obtain ⟨hregister, hquit⟩ := SensorClient.python_silent hp hname
    have hends : Ends (Python.run p interval (some n) server readings) Session.start := by
      refine ⟨0, fun fuel _ => ?_⟩
      simp only [Python.run, hregister, Session.call, Option.any_none, Bool.false_eq_true, if_false,
        Python.close, hquit]
    constructor
    · rintro ⟨s, hs, hkinds⟩
      rw [← hends.unique hs] at hkinds
      cases hkinds
    · rintro ⟨hsome, -⟩
      cases hsome
  | some name =>
    have hsend := SensorClient.canSend_of_encode hname
    obtain ⟨s, m, hends, hkinds, hiff⟩ :=
      Python.run_ends htype hsend hanswers haccepts interval n
    rw [← hiff]
    constructor
    · rintro ⟨s', hs', hkinds'⟩
      rw [← hends.unique hs', hkinds] at hkinds'
      exact ⟨rfl, replicate_kinds_inj hkinds'⟩
    · rintro ⟨-, rfl⟩
      exact ⟨s, hends, hkinds⟩

theorem java_obeys_iff (hj : j.platform = .java jvm) (htype : j.sensorType ≠ .invalid)
    (hanswers : Answers server) (haccepts : Accepts server j)
    (readings : Nat → Draws × Instant) (n : Nat) :
    ObeysLimit n (Java.main j n server readings) ↔ n < 2 ^ 31 := by
  rcases Nat.lt_or_ge n (2 ^ 31) with hlt | hge
  · have hparse : Java.parseMaxMessages n = some (n : Int) := by
      unfold Java.parseMaxMessages
      rw [if_neg (by omega), if_neg (by omega)]
    obtain ⟨s, ⟨enough, hends⟩, hkinds⟩ :=
      Java.run_ends htype (SensorClient.canSend_java hj) hanswers haccepts n
    refine ⟨fun _ => hlt, fun _ => ⟨s, ⟨enough, fun fuel hfuel => ?_⟩, hkinds⟩⟩
    rw [Java.main, hparse]
    exact hends fuel hfuel
  · have hparse : Java.parseMaxMessages n = none := by
      unfold Java.parseMaxMessages
      rw [if_pos (by omega)]
    have hends : Ends (Java.main j n server readings) Session.start := by
      refine ⟨0, fun fuel _ => ?_⟩
      rw [Java.main, hparse]
    constructor
    · rintro ⟨s, hs, hkinds⟩
      rw [← hends.unique hs] at hkinds
      cases hkinds
    · intro hlt
      omega

/-- Both clients send one REGISTER, as many METRICs as the limit says and one QUIT if and only if
the limit is positive and fits an `int`, the id of the Python client can be encoded, and, with a
limit above 1, that client can sleep between METRICs and decode what it reads before the last. -/
theorem clients_obeyLimit_iff (hp : p.platform = .python) (hj : j.platform = .java jvm)
    (hpStarts : p.Starts) (hjStarts : j.Starts) (hanswers : Answers server)
    (hpAccepts : Accepts server p) (hjAccepts : Accepts server j) (interval : Double)
    (readings readings' : Nat → Draws × Instant) (n : Nat) :
    (ObeysLimit n (Python.run p interval (some n) server readings) ∧
        ObeysLimit n (Java.main j n server readings')) ↔
      1 ≤ n ∧ n < 2 ^ 31 ∧ (UnicodeTexts.encode p.sensorId).isSome ∧
        (n = 1 ∨ (Python.sleeps interval = true ∧
          ∀ i, 1 ≤ i → i < n → readable p server readings i = true)) := by
  rw [python_obeys_iff hp hpStarts.1 hanswers hpAccepts interval readings n,
    java_obeys_iff hj hjStarts.1 hanswers hjAccepts readings' n]
  constructor
  · rintro ⟨⟨hname, hpos, hgo⟩, hlt⟩
    exact ⟨hpos, hlt, hname, hgo⟩
  · rintro ⟨hpos, hlt, hname, hgo⟩
    exact ⟨⟨hname, hpos, hgo⟩, hlt⟩

end

/-- A server that answers everything with `200 OK`. -/
def okServer : Server := fun _ => [ascii "200 OK"]

def pythonClient : SensorClient := ⟨.python, ofAscii (ascii "s1"), .temp, ofNat 0⟩

theorem okServer_answers : Answers okServer := fun _ _ => List.cons_ne_nil _ _

theorem okServer_accepts (c : SensorClient) : Accepts okServer c := by
  have hline : ascii "200 OK" =
      ('2' :: '0' :: '0' :: " OK".toList).flatMap String.utf8EncodeChar := by decide
  intro payload _
  exact ⟨" OK".toList, [], congrArg (fun line => [line]) hline⟩

theorem okServer_readable (c : SensorClient) (readings : Nat → Draws × Instant) (k : Nat) :
    readable c okServer readings k = true := by
  have hlines : ∀ m, answers c okServer readings m = List.replicate m (ascii "200 OK") := by
    intro m
    induction m with
    | zero => rfl
    | succ m ih =>
      rw [answers_succ, ih, List.replicate_succ']
      rfl
  have hdecode : decode (ascii "200 OK") = some "200 OK".toList := by
    rw [← decode_encoded]
    decide
  rw [readable, hlines, List.getElem?_replicate, if_pos (Nat.lt_succ_self k), Option.bind_some,
    hdecode]
  rfl

def sampleReadings (_ : Nat) : Draws × Instant := (System.sampleDraws, System.sampleInstant)

theorem clients_obeyLimit_three :
    ObeysLimit 3 (Python.run pythonClient (ofNat 3) (some (3 : Nat)) okServer sampleReadings) ∧
      ObeysLimit 3 (Java.main (System.javaClient '.' (by decide) (by decide)) (3 : Nat) okServer
        sampleReadings) := by
  have hencodes : (UnicodeTexts.encode pythonClient.sensorId).isSome := by decide
  refine (clients_obeyLimit_iff rfl rfl (by decide) (by decide) okServer_answers
    (okServer_accepts _) (okServer_accepts _) (ofNat 3) sampleReadings sampleReadings 3).mpr ?_
  refine ⟨by decide, by decide, hencodes, .inr ⟨by decide +kernel, ?_⟩⟩
  intro i _ _
  exact okServer_readable _ _ i

/-- With the limit 0 the Python client sends one METRIC. -/
theorem clients_disobeyLimit_zero : Answers okServer ∧ Accepts okServer pythonClient ∧
    Accepts okServer (System.javaClient '.' (by decide) (by decide)) ∧
    ¬ (ObeysLimit 0 (Python.run pythonClient (ofNat 3) (some (0 : Nat)) okServer sampleReadings) ∧
      ObeysLimit 0 (Java.main (System.javaClient '.' (by decide) (by decide)) (0 : Nat) okServer
        sampleReadings)) := by
  refine ⟨okServer_answers, okServer_accepts _, okServer_accepts _, ?_⟩
  rintro ⟨hpython, -⟩
  have htype : pythonClient.sensorType ≠ .invalid := by decide
  obtain ⟨-, hpos, -⟩ := (python_obeys_iff rfl htype okServer_answers (okServer_accepts _) (ofNat 3)
    sampleReadings 0).mp hpython
  exact absurd hpos (by decide)

end IotMonitoring
