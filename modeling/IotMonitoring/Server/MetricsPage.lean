import IotMonitoring.Server.AlertsPage

/-!
# The buffer of the metrics page

The loop of `route_metrics` has the shape of the loop of `route_alerts`, but its
rows are shorter than the 512 bytes the budget leaves: a row started below the
budget ends early enough for the closing tags, so no call is ever cut.
-/

namespace IotMonitoring

open ByteStrings Binary64
set_option autoImplicit false

theorem routeMetrics_calls (env : Nat → GlobalState → GlobalState) (g : GlobalState) :
    ((routeMetrics.disturbed env).run (0, g)).1 =
      metricsCalls (stateGetMetricCount (env 0 g)) (metricsShown (env 1 (env 0 g))) := rfl

theorem metricsShown_eq {g : GlobalState} {hist : List Metric} (h : g.metrics.Holds hist) :
    metricsShown g = hist.take maxMetrics := by
  have hrecent := h.recent_eq (by decide)
  have hread : metricsShown g = g.metrics.recent.filterMap id := by
    rw [CircularTable.recent, List.filterMap_map]
    rfl
  rw [hread, hrecent, List.filterMap_map]
  exact List.filterMap_some

theorem metricsHead_length_le {countSnapshot : Nat} (hcount : countSnapshot ≤ maxMetrics) :
    (metricsHead countSnapshot).length ≤ 7238 := by
  have hdigits : (decimal countSnapshot).length ≤ 3 :=
    decimal_length_le (by omega) (Nat.lt_of_le_of_lt hcount (by decide))
  rw [metricsHead_length]
  omega

/-- The page, the closing tags included, ends below the size of `body`: a row started at 65023
or below ends at 65482 or below. -/
theorem metricsTexts_length {countSnapshot : Nat} (hcount : countSnapshot ≤ maxMetrics)
    (metrics : List Metric) :
    totalLength (metricsHead countSnapshot :: (takeRows metricsBudget
      (metricsHead countSnapshot).length (metrics.map metricRow) ++ [metricsTail])) <
        httpResponseMax := by
  have hhead := metricsHead_length_le hcount
  have hbelow : (metricsHead countSnapshot).length < metricsBudget :=
    Nat.lt_of_le_of_lt hhead (by decide)
  have hrows : ∀ row ∈ metrics.map metricRow, row.length ≤ 459 := by
    intro row hrow
    obtain ⟨m, -, rfl⟩ := List.mem_map.mp hrow
    exact metricRow_length_le m
  have hend := takeRows_end hbelow hrows
  have htail : totalLength [metricsTail] = 40 := metricsTail_length
  rw [totalLength_cons, totalLength_append, htail]
  simp only [metricsBudget, httpResponseMax] at hend ⊢
  omega

theorem metricsCalls_fit {countSnapshot : Nat} (hcount : countSnapshot ≤ maxMetrics)
    (metrics : List Metric) : ∀ call ∈ metricsCalls countSnapshot metrics,
      call.offset + call.text.length < httpResponseMax := by
  intro call hcall
  have hend := callsFrom_end hcall
  have hlength := metricsTexts_length hcount metrics
  omega

/-- What the page holds: the head, the rows the budget allows, the closing tags. -/
theorem page_metricsCalls {countSnapshot : Nat} (hcount : countSnapshot ≤ maxMetrics)
    (metrics : List Metric) : ∃ k,
      ShownRows metricsBudget (metricsHead countSnapshot).length (metrics.map metricRow) k ∧
      page httpResponseMax (metricsCalls countSnapshot metrics) =
        some (metricsHead countSnapshot ++ (metrics.take k).flatMap metricRow ++ metricsTail) := by
  obtain ⟨k, hk, htake⟩ := takeRows_shown metricsBudget (metricsHead countSnapshot).length
    (metrics.map metricRow)
  refine ⟨k, hk, ?_⟩
  rw [metricsCalls, tableCalls, page_of_fits (metricsTexts_length hcount metrics), htake,
    ← List.map_take]
  simp only [List.flatten_cons, List.flatten_append, List.flatten_nil, List.append_nil,
    List.append_assoc, ← List.flatMap_def]

/-! ## A sensor that reports 1e308 degrees -/

def hotMetric : Metric where
  sensorId := safeStrncpy (ascii "s001")
  value := hotValue
  timestamp := safeStrncpy hotTimestamp
  typeStr := safeStrncpy (ascii "TEMP")

theorem metricRow_hotMetric : (metricRow hotMetric).length = 385 := by
  have hid : (safeStrncpy (ascii "s001") : Buffer maxIdLen).text.length = 4 := by decide
  have htype : (safeStrncpy (ascii "TEMP") : Buffer maxTypeLen).text.length = 4 := by decide
  have htime : (safeStrncpy hotTimestamp : Buffer maxTimestampLen).text.length = 20 := by decide
  simp only [metricRow, hotMetric, List.length_append, openRow_length, nextCell_length,
    closeRow_length, hid, htype, fixed2_hotValue, htime]

/-- `Hot`, with the metrics that were stored. -/
structure HotMetrics (k : Nat) (g : GlobalState) : Prop extends Hot k g where
  metrics : g.metrics.Holds (List.replicate k hotMetric)

theorem hotMetrics_reach {k m : Nat} {g : GlobalState} (h : HotMetrics k g) :
    HotMetrics (k + m) (Runs.reach serverMachine g (List.replicate m hotLine)) := by
  induction m generalizing k g with
  | zero => exact h
  | succ m ih =>
    have hdone := h.toHot.reported
    have hstep : HotMetrics (k + 1) (serverMachine hotLine g).2 := by
      refine ⟨hot_step h.toHot, ?_⟩
      rw [hdone.metrics, h.type]
      exact CircularTable.holds_push h.metrics hotMetric
    have hnext := ih hstep
    rw [Nat.add_right_comm] at hnext
    exact hnext

theorem hotMetrics_register :
    HotMetrics 0 (serverMachine (ascii "REGISTER s001 TEMP") stateInit).2 := by
  refine ⟨hot_register, ?_⟩
  have hstate := hotLines_register
  rw [hstate, (stateRegisterSensor_tables _ _ _).1]
  exact CircularTable.holds_cleared _

theorem hotMetrics_run (m : Nat) : ∃ actions, ∃ s : System 1,
    Runs.run System.step (System.init 1) actions = some s ∧ s.conn 0 = .idle ∧
      HotMetrics m s.g := by
  obtain ⟨actions, s, hrun, hidle, hg⟩ := System.init_lines (hotLines_stay m)
  have hreach := hotMetrics_reach hotMetrics_register (m := m)
  rw [Nat.zero_add] at hreach
  refine ⟨actions, s, hrun, hidle, ?_⟩
  rw [hg, hotLines, Runs.reach]
  exact hreach

theorem HotMetrics.shown {m : Nat} {g : GlobalState} (h : HotMetrics m g) (hm : m ≤ maxMetrics) :
    stateGetMetricCount g = m ∧ metricsShown g = List.replicate m hotMetric := by
  constructor
  · rw [stateGetMetricCount, h.metrics.count_eq, List.length_replicate, Nat.min_eq_left hm]
  · rw [metricsShown_eq h.metrics, List.take_replicate, Nat.min_eq_right hm]

/-! ## No row is cut -/

namespace System
variable {n : Nat}

/-- The count is read in a reachable state and the rows in any later one: every `snprintf` of the
page writes its whole text, and the page is the head, whole rows and the closing tags. -/
theorem metrics_wholeRows {s s' : System n} {actions more : List (Action n)}
    (hrun : Runs.run step (init n) actions = some s) (_ : Runs.run step s more = some s') :
    (∀ call ∈ metricsCalls (stateGetMetricCount s.g) (metricsShown s'.g),
      call.offset + call.text.length < httpResponseMax) ∧
    ∃ k ≤ (metricsShown s'.g).length,
      page httpResponseMax (metricsCalls (stateGetMetricCount s.g) (metricsShown s'.g)) =
        some (metricsHead (stateGetMetricCount s.g) ++
          ((metricsShown s'.g).take k).flatMap metricRow ++ metricsTail) := by
  have hcount : stateGetMetricCount s.g ≤ maxMetrics :=
    (systemOk_run hrun).tables.metrics.count_le
  obtain ⟨k, hk, hpage⟩ := page_metricsCalls hcount (metricsShown s'.g)
  have hlength := hk.le_length
  rw [List.length_map] at hlength
  exact ⟨metricsCalls_fit hcount _, k, hlength, hpage⟩

/-- With 200 readings at 1e308 degrees the budget stops the loop. -/
theorem metrics_wholeRows_budget : ∃ k < 200,
    page httpResponseMax (metricsCalls 200 (List.replicate 200 hotMetric)) =
      some (metricsHead 200 ++ (List.replicate k hotMetric).flatMap metricRow ++ metricsTail) := by
  obtain ⟨actions, s, hrun, -, hhot⟩ := hotMetrics_run 200
  obtain ⟨hcount, hshown⟩ := hhot.shown (by decide)
  have hmore : Runs.run step s [] = some s := rfl
  obtain ⟨k, hk, hpage⟩ := (metrics_wholeRows hrun hmore).2
  rw [hshown, List.length_replicate] at hk
  rw [hcount, hshown, List.take_replicate, Nat.min_eq_left hk] at hpage
  refine ⟨k, ?_, hpage⟩
  have hlength := page_length hpage (by decide)
  simp only [List.length_append, List.length_flatMap, List.map_replicate, List.sum_replicate_nat,
    metricRow_hotMetric, metricsHead_length, httpResponseMax] at hlength
  omega

end System

end IotMonitoring
