import IotMonitoring.Server.AcceptedMetrics
import IotMonitoring.Server.HttpServer
import IotMonitoring.Server.LineRuns
import IotMonitoring.Server.Reachable

/-!
# The buffer of the alerts page

The loop of `route_alerts` starts a row while 512 bytes are left, and a row can
be longer: it prints its value twice, once in full. The offset stays inside the
buffer exactly when no row that is started passes its end.
-/

namespace IotMonitoring

open ByteStrings Binary64
set_option autoImplicit false

theorem routeAlerts_calls (env : Nat → GlobalState → GlobalState) (g : GlobalState) :
    ((routeAlerts.disturbed env).run (0, g)).1 =
      alertsCalls (stateGetAlertCount (env 0 g)) (alertsShown (env 1 (env 0 g))) := rfl

/-- No call of `snprintf` starts beyond the end of `body`. -/
def InBody (calls : List Call) : Prop := ∀ call ∈ calls, call.offset ≤ httpResponseMax

/-- With the count printed in the header card, every row that starts below the budget ends inside
`body`; a row starts after the header and the more recent rows. -/
def RowsEndInBody (countSnapshot : Nat) (alerts : List Alert) : Prop :=
  ∀ k a, alerts[k]? = some a →
    7258 + (decimal countSnapshot).length + ((alerts.take k).map rowLength).sum < alertsBudget →
      7258 + (decimal countSnapshot).length + ((alerts.take k).map rowLength).sum + rowLength a ≤
        httpResponseMax

theorem totalLength_rows (alerts : List Alert) :
    totalLength (alerts.map alertRow) = (alerts.map rowLength).sum := by
  have hrow : List.length ∘ alertRow = rowLength := funext alertRow_length
  rw [totalLength, List.map_map, hrow]

theorem rowsFit_iff (countSnapshot : Nat) (alerts : List Alert) :
    RowsFit alertsBudget httpResponseMax (alertsHead countSnapshot).length (alerts.map alertRow) ↔
      RowsEndInBody countSnapshot alerts := by
  unfold RowsFit RowsEndInBody
  simp only [alertsHead_length, ← List.map_take, totalLength_rows, List.getElem?_map]
  constructor
  · intro h k a ha hbelow
    have hrow := h k (alertRow a) (by rw [ha]; rfl) hbelow
    rw [alertRow_length] at hrow
    exact hrow
  · intro h k row hrow hbelow
    obtain ⟨a, ha, rfl⟩ := Option.map_eq_some_iff.mp hrow
    rw [alertRow_length]
    exact h k a ha hbelow

theorem alertsCalls_inBody_iff {countSnapshot : Nat} (hcount : countSnapshot ≤ maxAlerts)
    (alerts : List Alert) :
    InBody (alertsCalls countSnapshot alerts) ↔ RowsEndInBody countSnapshot alerts := by
  have hbudget : alertsBudget ≤ httpResponseMax := by decide
  have hhead : (alertsHead countSnapshot).length ≤ httpResponseMax := by
    have hdigits : (decimal countSnapshot).length ≤ 3 :=
      decimal_length_le (by omega) (Nat.lt_of_le_of_lt hcount (by decide))
    rw [alertsHead_length]
    simp only [httpResponseMax]
    omega
  have hiff : (∀ call ∈ callsFrom (alertsHead countSnapshot).length (takeRows alertsBudget
      (alertsHead countSnapshot).length (alerts.map alertRow) ++ [alertsTail]),
        call.offset ≤ httpResponseMax) ↔ _ := offsets_le_iff hbudget
  rw [rowsFit_iff] at hiff
  simp only [InBody, alertsCalls, callsFrom, List.mem_cons, forall_eq_or_imp, Nat.zero_add, hiff,
    hhead, Nat.zero_le, true_and]

/-- Rows of at most 513 bytes each never pass the end. -/
theorem rowsEndInBody_of_short {countSnapshot : Nat} {alerts : List Alert}
    (hrows : ∀ a ∈ alerts, rowLength a ≤ 513) : RowsEndInBody countSnapshot alerts := by
  rw [← rowsFit_iff]
  apply rowsFit_of_short
  intro row hrow
  obtain ⟨a, ha, rfl⟩ := List.mem_map.mp hrow
  have hlen := hrows a ha
  rw [alertRow_length]
  simp only [alertsBudget, httpResponseMax]
  omega

/-! ## Long rows -/

theorem alertsShown_eq {g : GlobalState} {hist : List Alert} (h : g.alerts.Holds hist) :
    alertsShown g = hist.take maxAlerts := by
  have hrecent := h.recent_eq (by decide)
  have hread : alertsShown g = g.alerts.recent.filterMap id := by
    rw [CircularTable.recent, List.filterMap_map]
    rfl
  rw [hread, hrecent, List.filterMap_map]
  exact List.filterMap_some

def hotTimestamp : Bytes := ascii "2026-03-30T14:05:00Z"
def hotLine : Bytes := ascii "METRIC s001 1e308 2026-03-30T14:05:00Z"
def hotValue : Double := ofRatio false (10 ^ 308) 1

def hotMessage : Bytes :=
  anomalyMessage (ascii "TEMP") hotValue (ascii " > ") tempThresholdHigh

def hotAlert : Alert where
  sensorId := safeStrncpy (ascii "s001")
  value := hotValue
  threshold := tempThresholdHigh
  timestamp := safeStrncpy hotTimestamp
  typeStr := safeStrncpy (ascii "TEMP")
  message := safeStrncpy hotMessage

/-- The sensor is registered, and its reading was reported `k` times. -/
structure Hot (k : Nat) (g : GlobalState) : Prop where
  found : g.slotOf (ascii "s001") = some 0
  active : (g.sensors 0).status = .active
  type : (g.sensors 0).type = .temp
  alerts : g.alerts.Holds (List.replicate k hotAlert)

theorem hotValue_anomaly : anomaly .temp hotValue = some (tempThresholdHigh, hotMessage) := by
  have hgt : hotValue.gt tempThresholdHigh = true := by decide +kernel
  simp only [anomaly, hgt, if_true, hotMessage]

theorem serverMachine_hotLine (g : GlobalState) : serverMachine hotLine g =
    (handleMetric [ascii "METRIC", ascii "s001", ascii "1e308", hotTimestamp]).run g := by
  have htokens : tokenize hotLine 8 =
      [ascii "METRIC", ascii "s001", ascii "1e308", hotTimestamp] := by decide
  rw [serverMachine_metric htokens, htokens]

theorem Hot.reported {k : Nat} {g : GlobalState} (h : Hot k g) :
    Reported g (serverMachine hotLine g).2 (ascii "s001") 0 hotValue hotTimestamp := by
  have hvalue : parseDouble (ascii "1e308") = some hotValue := by decide +kernel
  have htime : isValidTimestamp hotTimestamp = true := by decide
  rw [serverMachine_hotLine]
  exact (handleMetric_reported (ascii "METRIC") h.found h.active hvalue htime).2

theorem hot_step {k : Nat} {g : GlobalState} (h : Hot k g) :
    Hot (k + 1) (serverMachine hotLine g).2 := by
  have hdone := h.reported
  refine ⟨(hdone.slotOf _).trans h.found, ?_, ?_, ?_⟩
  · rw [hdone.sensors, Function.update_self]
    exact h.active
  · rw [hdone.sensors, Function.update_self]
    exact h.type
  · rw [hdone.alerts, judgedAlerts, h.type, hotValue_anomaly]
    exact CircularTable.holds_push h.alerts hotAlert

theorem hot_reach {k m : Nat} {g : GlobalState} (h : Hot k g) :
    Hot (k + m) (Runs.reach serverMachine g (List.replicate m hotLine)) := by
  induction m generalizing k g with
  | zero => exact h
  | succ m ih =>
    have hnext := ih (hot_step h)
    rw [Nat.add_right_comm] at hnext
    exact hnext

/-- The value is printed in full: 309 digits, the point and two more. -/
theorem fixed2_hotValue : (fixed2 hotValue).length = 312 := by
  have hrep : roundUnits (10 ^ 308) 1 < limit := by decide +kernel
  have hlow : 10 ^ 308 ≤ roundHalfEven (roundUnits (10 ^ 308) 1 * 100) unit / 100 := by
    decide +kernel
  have hhigh := hundredths_lt hrep
  rw [show 309 = 308 + 1 from rfl] at hhigh
  have hdigits := decimal_length_eq hlow hhigh
  rw [hotValue, ofRatio, dif_pos hrep]
  simp only [fixed2, List.length_append, hdigits, List.length_cons, List.length_nil]
  rfl

theorem fixed2_threshold : fixed2 tempThresholdHigh = ascii "70.00" := by decide +kernel

theorem hotMessage_text : (safeStrncpy hotMessage : Buffer maxMessageLen).text.length = 255 := by
  have hzero : (0 : UInt8) ∉ hotMessage := by
    have hparts : (0 : UInt8) ∉ ascii "TEMP" ∧ (0 : UInt8) ∉ ascii " anomaly: " ∧
        (0 : UInt8) ∉ ascii " > " := by decide
    have hnumber : ∀ d, (0 : UInt8) ∉ fixed2 d := by
      intro d hd
      have hnot : ¬ 45 ≤ (0 : UInt8) := by decide
      exact hnot (fixed2_bytes hd).1
    intro hmem
    have hall := List.mem_of_mem_take hmem
    simp only [List.mem_append, hparts, hnumber, or_self] at hall
  have hlen : hotMessage.length = 255 := by
    have hparts : (ascii "TEMP").length = 4 ∧ (ascii " anomaly: ").length = 10 ∧
        (ascii " > ").length = 3 ∧ (ascii "70.00").length = 5 := by decide
    simp only [hotMessage, anomalyMessage, snprintf, List.length_take, List.length_append,
      fixed2_hotValue, fixed2_threshold, hparts, maxMessageLen]
    omega
  rw [safeStrncpy, Buffer.copy_text_of_fits (by rw [hlen]; decide) hzero, hlen]

theorem rowLength_hotAlert : rowLength hotAlert = 663 := by
  have hid : (safeStrncpy (ascii "s001") : Buffer maxIdLen).text.length = 4 := by decide
  have htype : (safeStrncpy (ascii "TEMP") : Buffer maxTypeLen).text.length = 4 := by decide
  have htime : (safeStrncpy hotTimestamp : Buffer maxTimestampLen).text.length = 20 := by decide
  have hthreshold : (ascii "70.00").length = 5 := by decide
  simp only [rowLength, hotAlert, hid, htype, fixed2_hotValue, fixed2_threshold, hthreshold,
    hotMessage_text, htime]

theorem hotLines_register : (serverMachine (ascii "REGISTER s001 TEMP") stateInit).2 =
    (stateRegisterSensor (ascii "s001") .temp stateInit).2 := by
  have htokens : tokenize (ascii "REGISTER s001 TEMP") 8 =
      [ascii "REGISTER", ascii "s001", ascii "TEMP"] := by decide
  unfold serverMachine handleLine
  rw [htokens]
  rfl

theorem hot_register : Hot 0 (serverMachine (ascii "REGISTER s001 TEMP") stateInit).2 := by
  rw [hotLines_register]
  refine ⟨by decide +kernel, by decide +kernel, by decide +kernel, ?_⟩
  rw [(stateRegisterSensor_tables _ _ _).2]
  exact CircularTable.holds_cleared _

def hotLines (m : Nat) : List Bytes := ascii "REGISTER s001 TEMP" :: List.replicate m hotLine

theorem hotLines_stay (m : Nat) : ∀ line ∈ hotLines m,
    IsLine line ∧ ∀ g, ((handleLine line).run g).1.2 = false := by
  have hregister : tokenize (ascii "REGISTER s001 TEMP") 8 =
      [ascii "REGISTER", ascii "s001", ascii "TEMP"] := by decide
  have hmetric : tokenize hotLine 8 =
      [ascii "METRIC", ascii "s001", ascii "1e308", hotTimestamp] := by decide
  intro line hline
  rcases List.mem_cons.mp hline with rfl | hline
  · refine ⟨by decide, fun g => ?_⟩
    unfold handleLine
    rw [hregister]
    exact congrArg (fun r => r.1.2) (run_staying (handleRegister _) g)
  · rw [List.eq_of_mem_replicate hline]
    refine ⟨by decide, fun g => ?_⟩
    unfold handleLine
    rw [hmetric]
    exact congrArg (fun r => r.1.2) (run_staying (handleMetric _) g)

theorem hot_run (m : Nat) : ∃ actions, ∃ s : System 1,
    Runs.run System.step (System.init 1) actions = some s ∧ Hot m s.g := by
  obtain ⟨actions, s, hrun, -, hg⟩ := System.init_lines (hotLines_stay m)
  have hreach := hot_reach hot_register (m := m)
  rw [Nat.zero_add] at hreach
  refine ⟨actions, s, hrun, ?_⟩
  rw [hg, hotLines, Runs.reach]
  exact hreach

theorem Hot.shown {m : Nat} {g : GlobalState} (h : Hot m g) (hm : m ≤ maxAlerts) :
    stateGetAlertCount g = m ∧ alertsShown g = List.replicate m hotAlert := by
  constructor
  · rw [stateGetAlertCount, h.alerts.count_eq, List.length_replicate, Nat.min_eq_left hm]
  · rw [alertsShown_eq h.alerts, List.take_replicate, Nat.min_eq_right hm]

theorem rowsEndInBody_one {a : Alert} (ha : rowLength a = 663) :
    RowsEndInBody 1 (List.replicate 1 a) := by
  intro k b hb _
  obtain ⟨hk, hbk⟩ := List.getElem?_eq_some_iff.mp hb
  rw [List.length_replicate] at hk
  rw [List.getElem_replicate] at hbk
  have hdigits : (decimal 1).length = 1 := by decide
  obtain rfl : k = 0 := by omega
  rw [← hbk, ha, hdigits, List.take_zero, List.map_nil, List.sum_nil]
  decide

/-- The row before the last starts below the budget, and the last one ends beyond the buffer. -/
theorem not_rowsEndInBody {a : Alert} (ha : rowLength a = 663) :
    ¬ RowsEndInBody 88 (List.replicate 88 a) := by
  intro h
  have hdigits : (decimal 88).length = 2 := by decide
  have hlast := h 87 a (List.getElem?_replicate_of_lt (by omega))
  rw [List.take_replicate, List.map_replicate, List.sum_replicate_nat, ha, hdigits] at hlast
  simp only [alertsBudget, httpResponseMax] at hlast
  omega

/-! ## The offset on every page -/

namespace System
variable {n : Nat}

/-- The count is read in a reachable state and the rows in any later one: every `snprintf` of the
page starts inside `body` exactly when no row started below the budget passes its end. -/
theorem alerts_inBody_iff {s s' : System n} {actions more : List (Action n)}
    (hrun : Runs.run step (init n) actions = some s) (_ : Runs.run step s more = some s') :
    InBody (alertsCalls (stateGetAlertCount s.g) (alertsShown s'.g)) ↔
      RowsEndInBody (stateGetAlertCount s.g) (alertsShown s'.g) :=
  alertsCalls_inBody_iff (systemOk_run hrun).tables.alerts.count_le _

theorem alerts_inBody_oneRow : ∃ actions, ∃ s : System 1,
    Runs.run step (init 1) actions = some s ∧
      InBody (alertsCalls (stateGetAlertCount s.g) (alertsShown s.g)) := by
  obtain ⟨actions, s, hrun, hhot⟩ := hot_run 1
  have hmore : Runs.run step s [] = some s := rfl
  obtain ⟨hcount, hshown⟩ := hhot.shown (by decide)
  refine ⟨actions, s, hrun, (alerts_inBody_iff hrun hmore).mpr ?_⟩
  rw [hcount, hshown]
  exact rowsEndInBody_one rowLength_hotAlert

/-- 88 readings of a sensor at 1e308 degrees: the last row starts at 64941 and ends at 65604. -/
theorem alerts_beyond_body : ∃ actions, ∃ s : System 1, Runs.run step (init 1) actions = some s ∧
    ¬ InBody (alertsCalls (stateGetAlertCount s.g) (alertsShown s.g)) := by
  obtain ⟨actions, s, hrun, hhot⟩ := hot_run 88
  obtain ⟨hcount, hshown⟩ := hhot.shown (by decide)
  refine ⟨actions, s, hrun, ?_⟩
  rw [hcount, hshown, alertsCalls_inBody_iff (by decide)]
  exact not_rowsEndInBody rowLength_hotAlert

end System

end IotMonitoring
