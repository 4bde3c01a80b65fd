import IotMonitoring.Client.MessageLimits

/-!
# Conversations

`run` of the clients against a server that answers each command with one line:
the REGISTER, as many METRICs as the limit says and the QUIT are sent one at a
time, and every answer is read before the next command.
-/

namespace IotMonitoring

open ByteStrings Binary64 UnicodeTexts
set_option autoImplicit false

/-! ## A line for each command -/

section
variable (c : SensorClient) (readings : Nat → Draws × Instant)

/-- The first `m` commands as they are sent. -/
def messages (m : Nat) : List Message :=
  (List.range m).filterMap fun k =>
    (command c readings k).map (Message.mk (if k = 0 then .register else .metric))

/-- A session of `n` METRICs: everything is sent, every answer read. -/
def conversation (n : Nat) : Session :=
  ⟨messages c readings (n + 1) ++ (c.sendQuit.map (Message.mk .quit)).toList, []⟩

/-- The commands of a session of `n` METRICs are answered with one line each. -/
structure Serves (n : Nat) (server : Server) (first : Bytes) : Prop where
  register : server (commands c readings 1) = [first]
  metric : ∀ k, k < n → server (commands c readings (k + 2)) = [metricOk]
  quit : ∀ payload, c.sendQuit = some payload →
    server (commands c readings (n + 1) ++ [payload]) = [bye]

variable {c readings} {m : Nat} {payload : Bytes}

theorem messages_succ (h : command c readings m = some payload) : messages c readings (m + 1) =
    messages c readings m ++ [⟨if m = 0 then .register else .metric, payload⟩] := by
  rw [messages, List.range_succ, List.filterMap_append]
  simp only [List.filterMap_cons, List.filterMap_nil, h, Option.map_some]
  rfl

theorem payloads_messages (m : Nat) :
    (messages c readings m).map (·.payload) = commands c readings m := by
  rw [messages, List.map_filterMap, commands]
  congr 1
  funext k
  cases command c readings k with
  | none => rfl
  | some payload => rfl

/-- A command is sent and the one line in answer read. -/
theorem call_message {α : Type} {server : Server} {recvLine : List Bytes → Option α × List Bytes}
    {line : Bytes} {answer : Option α} (kind : MessageKind)
    (hserver : server (commands c readings m ++ [payload]) = [line])
    (hread : recvLine [line] = (answer, [])) :
    (⟨messages c readings m, []⟩ : Session).call server recvLine kind (some payload) =
      (answer, ⟨messages c readings m ++ [⟨kind, payload⟩], []⟩) := by
  have hsent : (⟨messages c readings m, []⟩ : Session).payloads = commands c readings m :=
    payloads_messages m
  simp only [Session.call, Session.send, hsent, List.nil_append, hserver, hread]

end

/-- What both clients need of the line they get for REGISTER. -/
structure Welcomes (first : Bytes) : Prop where
  accepted : ∃ text : List Char, first = ('2' :: '0' :: '0' :: text).flatMap String.utf8EncodeChar
  oneLine : carriageReturn ∉ first

theorem Python.recvLine_metricOk :
    Python.recvLine [metricOk] = (some ['2', '0', '0', ' ', 'O', 'K'], []) := by
  decide +kernel

theorem Python.recvLine_bye : Python.recvLine [bye] = (some ['2', '0', '0', ' ', 'B', 'Y', 'E'], []) := by
  decide +kernel

theorem Java.readLine_oneLine {line : Bytes} (h : carriageReturn ∉ line) :
    Java.readLine [line] = (some (stripped (· ≤ 32) line), []) := by
  have hall : ∀ b ∈ line, decide (b ≠ carriageReturn) = true := by
    intro b hb
    exact decide_eq_true fun heq => h (heq ▸ hb)
  rw [Java.readLine, List.takeWhile_eq_self_iff.mpr hall, List.dropWhile_eq_nil_iff.mpr hall]

section
variable {c : SensorClient} {readings : Nat → Draws × Instant} {n : Nat} {server : Server}
variable {first : Bytes} (hserves : Serves c readings n server first)
variable (htype : c.sensorType ≠ .invalid)
include hserves htype

namespace Python

/-- The loop sends the METRICs that are left and reads their answers. -/
theorem metricLoop_conversation (hsend : CanSend c) {interval : Double} {k fuel : Nat} (hk : k < n)
    (hsleep : k + 1 = n ∨ sleeps interval = true) (hfuel : n - k ≤ fuel) :
    metricLoop c interval (some (n : Int)) server readings fuel k ⟨messages c readings (k + 1), []⟩ =
      some ⟨messages c readings (n + 1), []⟩ := by
  induction hd : n - k generalizing k fuel with
  | zero => omega
  | succ d ih =>
    obtain ⟨fuel, rfl⟩ : ∃ j, fuel = j + 1 := ⟨fuel - 1, by omega⟩
    obtain ⟨value, hvalue⟩ := SensorClient.generateValue_some htype (readings k).1
    obtain ⟨payload, hpayload⟩ := hsend.metric value (readings k).2
    have hcommand : command c readings (k + 1) = some payload := by
      rw [command, hvalue, Option.bind_some, hpayload]
    have hserver : server (commands c readings (k + 1) ++ [payload]) = [metricOk] := by
      rw [← commands_succ hcommand]
      exact hserves.metric k hk
    have hcall := call_message .metric hserver recvLine_metricOk
    have hnext : messages c readings (k + 1) ++ [⟨.metric, payload⟩] = messages c readings (k + 2) :=
      (messages_succ hcommand).symm
    rw [metricLoop]
    simp only [hvalue, hpayload, hcall, hnext, Option.isNone_some, Bool.false_eq_true, if_false]
    by_cases hlast : k + 1 = n
    · rw [if_pos (limitReached_iff.mpr (Nat.le_of_eq hlast.symm)), ← hlast]
    · have hlimit : ¬ limitReached (some (n : Int)) (k + 1) = true := by
        rw [limitReached_iff]
        omega
      have hsleeps := hsleep.resolve_left hlast
      rw [if_neg hlimit, if_pos hsleeps]
      exact ih (by omega) (Or.inr hsleeps) (by omega) (by omega)

/-- Both ends of the session around the loop. -/
theorem run_conversation {name : Bytes} (hname : UnicodeTexts.encode c.sensorId = some name)
    (hfirst : Welcomes first) {interval : Double} (hn : 1 ≤ n)
    (hsleep : n = 1 ∨ sleeps interval = true) :
    Ends (run c interval (some (n : Int)) server readings) (conversation c readings n) := by
  have hsend := SensorClient.canSend_of_encode hname
  obtain ⟨payload, hpayload⟩ := hsend.register
  obtain ⟨farewell, hfarewell⟩ := hsend.quit
  obtain ⟨text, htext⟩ := hfirst.accepted
  refine ⟨n, fun fuel hfuel => ?_⟩
  have hregister : server (commands c readings 0 ++ [payload]) = [first] := by
    rw [← commands_succ (m := 0) hpayload]
    exact hserves.register
  have hread : recvLine [first] = (some (stripped isSpace ('2' :: '0' :: '0' :: text)), []) := by
    simp only [recvLine, htext, decode_encoded, Option.map_some]
  have hcall := call_message .register hregister hread
  have hvisible : ∀ x ∈ ['2', '0', '0'], isSpace x = false := by
    intro x hx
    simp only [List.mem_cons, List.not_mem_nil, or_false] at hx
    rcases hx with rfl | rfl | rfl <;> rfl
  have hok : ['2', '0', '0'].isPrefixOf (stripped isSpace ('2' :: '0' :: '0' :: text)) = true :=
    List.isPrefixOf_iff_prefix.mpr (stripped_startsWith (b := text) hvisible)
  have hloop : metricLoop c interval (some (n : Int)) server readings fuel 0
      ⟨messages c readings 1, []⟩ = some ⟨messages c readings (n + 1), []⟩ :=
    metricLoop_conversation hserves htype hsend hn (hsleep.imp (fun h => h.symm) id) hfuel
  have hquit := call_message .quit (hserves.quit farewell hfarewell) recvLine_bye
  have hone : messages c readings 0 ++ [⟨.register, payload⟩] = messages c readings 1 :=
    (messages_succ (m := 0) hpayload).symm
  rw [run, hpayload, show Session.start = ⟨messages c readings 0, []⟩ from rfl, hcall]
  simp only [Option.any_some, hok, if_true]
  rw [hone, hloop, Option.map_some, close, hfarewell, hquit, conversation, hfarewell]
  rfl

end Python

namespace Java

theorem metricLoop_conversation (hsend : CanSend c) {k fuel : Nat} (hk : k ≤ n)
    (hfuel : n - k < fuel) :
    metricLoop c (some (n : Int)) server readings fuel k ⟨messages c readings (k + 1), []⟩ =
      some ⟨messages c readings (n + 1), []⟩ := by
  induction hd : n - k generalizing k fuel with
  | zero =>
    obtain ⟨fuel, rfl⟩ : ∃ j, fuel = j + 1 := ⟨fuel - 1, by omega⟩
    obtain rfl : k = n := by omega
    rw [metricLoop, if_pos (limitReached_iff.mpr (Nat.le_refl k))]
  | succ d ih =>
    obtain ⟨fuel, rfl⟩ : ∃ j, fuel = j + 1 := ⟨fuel - 1, by omega⟩
    obtain ⟨value, hvalue⟩ := SensorClient.generateValue_some htype (readings k).1
    obtain ⟨payload, hpayload⟩ := hsend.metric value (readings k).2
    have hcommand : command c readings (k + 1) = some payload := by
      rw [command, hvalue, Option.bind_some, hpayload]
    have hserver : server (commands c readings (k + 1) ++ [payload]) = [metricOk] := by
      rw [← commands_succ hcommand]
      exact hserves.metric k (by omega)
    have hcall := call_message .metric hserver (readLine_oneLine (by decide))
    have hnext : messages c readings (k + 1) ++ [⟨.metric, payload⟩] = messages c readings (k + 2) :=
      (messages_succ hcommand).symm
    have hbelow : ¬ limitReached (some (n : Int)) k = true := by
      rw [limitReached_iff]
      omega
    rw [metricLoop, if_neg hbelow]
    simp only [hvalue, hpayload, hcall, hnext, Option.isNone_some, Bool.false_eq_true, if_false]
    by_cases hlast : k + 1 = n
    · rw [if_pos (limitReached_iff.mpr (Nat.le_of_eq hlast.symm)), ← hlast]
    · have hlimit : ¬ limitReached (some (n : Int)) (k + 1) = true := by
        rw [limitReached_iff]
        omega
      rw [if_neg hlimit]
      exact ih (by omega) (by omega) (by omega)

theorem main_conversation {jvm : Jvm} (hplatform : c.platform = .java jvm) (hfirst : Welcomes first)
    (hn : n < 2 ^ 31) : Ends (main c n server readings) (conversation c readings n) := by
  have hsend := SensorClient.canSend_java hplatform
  obtain ⟨payload, hpayload⟩ := hsend.register
  obtain ⟨farewell, hfarewell⟩ := hsend.quit
  obtain ⟨text, htext⟩ := hfirst.accepted
  refine ⟨n + 1, fun fuel hfuel => ?_⟩
  have hregister : server (commands c readings 0 ++ [payload]) = [first] := by
    rw [← commands_succ (m := 0) hpayload]
    exact hserves.register
  have hcall := call_message .register hregister (readLine_oneLine hfirst.oneLine)
  have hbytes : first = ascii "200" ++ text.flatMap String.utf8EncodeChar := by
    rw [htext, List.flatMap_cons, List.flatMap_cons, List.flatMap_cons]
    rfl
  have hok : (ascii "200").isPrefixOf (stripped (· ≤ 32) first) = true := by
    rw [hbytes]
    exact List.isPrefixOf_iff_prefix.mpr (stripped_startsWith (by decide))
  have hloop := metricLoop_conversation hserves htype hsend (Nat.zero_le n)
    (show n - 0 < fuel by omega)
  have hquit := call_message .quit (hserves.quit farewell hfarewell) (readLine_oneLine (by decide))
  have hone : messages c readings 0 ++ [⟨.register, payload⟩] = messages c readings 1 :=
    (messages_succ (m := 0) hpayload).symm
  have hlimit : parseMaxMessages n = some (n : Int) := by
    rw [parseMaxMessages, if_neg (by omega), if_neg (by omega)]
  simp only [main, hlimit]
  rw [run, hpayload, show Session.start = ⟨messages c readings 0, []⟩ from rfl, hcall]
  simp only [Option.any_some, hok, if_true]
  rw [hone, hloop, Option.map_some, close, hfarewell, hquit, conversation, hfarewell]
  rfl

end Java

end

end IotMonitoring
