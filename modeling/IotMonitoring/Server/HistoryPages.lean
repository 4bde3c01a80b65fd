import IotMonitoring.Server.MetricsPage

/-!
# What the history pages show

`/metrics` and `/alerts` read the number of their header card in one critical
section and the table in another, and stop at a byte budget. So they show the
newest entries, newest first, and the older ones only as far as the budget goes;
the number is the count at the time of the first section.
-/

namespace IotMonitoring

open ByteStrings Binary64
set_option autoImplicit false

/-- The page shows every entry and the number in its header card is the number of rows. -/
def CompleteMetrics (countSnapshot : Nat) (metrics : List Metric) : Prop :=
  page httpResponseMax (metricsCalls countSnapshot metrics) =
    some (metricsHead metrics.length ++ metrics.flatMap metricRow ++ metricsTail)

def CompleteAlerts (countSnapshot : Nat) (alerts : List Alert) : Prop :=
  page httpResponseMax (alertsCalls countSnapshot alerts) =
    some (alertsHead alerts.length ++ alerts.flatMap alertRow ++ alertsTail)

/-- What the page of `metrics` holds, given the count read before. -/
structure NewestMetrics (countSnapshot : Nat) (metrics : List Metric) (k : Nat) : Prop where
  shown : ShownRows metricsBudget (metricsHead countSnapshot).length (metrics.map metricRow) k
  page_eq : page httpResponseMax (metricsCalls countSnapshot metrics) =
    some (metricsHead countSnapshot ++ (metrics.take k).flatMap metricRow ++ metricsTail)

/-- The same of the page of `alerts`, whose rows can pass the end of the buffer. -/
structure NewestAlerts (countSnapshot : Nat) (alerts : List Alert) (k : Nat) : Prop where
  shown : ShownRows alertsBudget (alertsHead countSnapshot).length (alerts.map alertRow) k
  page_eq : RowsEndInBody countSnapshot alerts →
    page httpResponseMax (alertsCalls countSnapshot alerts) =
      some ((alertsHead countSnapshot ++ (alerts.take k).flatMap alertRow ++ alertsTail).take
        (httpResponseMax - 1))

theorem newestMetrics {countSnapshot : Nat} (hcount : countSnapshot ≤ maxMetrics)
    (metrics : List Metric) : ∃ k, NewestMetrics countSnapshot metrics k := by
  obtain ⟨k, hk, hpage⟩ := page_metricsCalls hcount metrics
  exact ⟨k, hk, hpage⟩

theorem newestAlerts {countSnapshot : Nat} (hcount : countSnapshot ≤ maxAlerts)
    (alerts : List Alert) : ∃ k, NewestAlerts countSnapshot alerts k := by
  obtain ⟨k, hk, htake⟩ := takeRows_shown alertsBudget (alertsHead countSnapshot).length
    (alerts.map alertRow)
  refine ⟨k, hk, fun hends => ?_⟩
  have hin : InBody (alertsCalls countSnapshot alerts) :=
    (alertsCalls_inBody_iff hcount alerts).mpr hends
  rw [alertsCalls, page_callsFrom (by decide) hin, htake, ← List.map_take]
  simp only [List.flatten_cons, List.flatten_append, List.flatten_nil, List.append_nil,
    List.append_assoc, ← List.flatMap_def]

/-- A table that was not changed in between, and whose rows end within the budget, is shown whole. -/
theorem completeMetrics_of_fits {metrics : List Metric}
    (hfit : (metricsHead metrics.length).length + totalLength (metrics.map metricRow) ≤
      metricsBudget) : CompleteMetrics metrics.length metrics := by
  have hrows : ∀ row ∈ metrics.map metricRow, row ≠ [] := by
    intro row hrow
    obtain ⟨m, -, rfl⟩ := List.mem_map.mp hrow
    exact List.append_ne_nil_of_right_ne_nil _ (List.ne_nil_of_length_eq_add_one closeRow_length)
  have htail : metricsBudget + metricsTail.length < httpResponseMax := by
    rw [metricsTail_length]
    decide
  rw [CompleteMetrics, metricsCalls, page_tableCalls hfit hrows htail, List.flatMap_def]

theorem completeAlerts_of_fits {alerts : List Alert}
    (hfit : (alertsHead alerts.length).length + totalLength (alerts.map alertRow) ≤
      alertsBudget) : CompleteAlerts alerts.length alerts := by
  have hrows : ∀ row ∈ alerts.map alertRow, row ≠ [] := by
    intro row hrow
    obtain ⟨a, -, rfl⟩ := List.mem_map.mp hrow
    exact List.append_ne_nil_of_right_ne_nil _ (List.ne_nil_of_length_eq_add_one closeRow_length)
  have htail : alertsBudget + alertsTail.length < httpResponseMax := by decide
  have hcalls : alertsCalls alerts.length alerts =
    tableCalls alertsBudget (alertsHead alerts.length) (alerts.map alertRow) alertsTail := rfl
  rw [CompleteAlerts, hcalls, page_tableCalls hfit hrows htail, List.flatMap_def]

/-! ## Entries that are left out -/

theorem metricsHead_ne {m k : Nat} (h : decimal m ≠ decimal k) (rest : Bytes) :
    metricsHead m ++ rest ≠ metricsHead k ++ rest := by
  intro heq
  have hhead := List.append_cancel_right heq
  simp only [metricsHead] at hhead
  exact h (List.append_cancel_left (List.append_cancel_right hhead))

/-- 151 rows of 385 bytes reach the budget. -/
theorem newestMetrics_hot {m : Metric} (hm : (metricRow m).length = 385) {k : Nat}
    (hk : NewestMetrics 200 (List.replicate 200 m) k) : k = 151 := by
  have hdigits : (decimal 200).length = 3 := by decide
  have hshown : ∀ j < 200, j < k ↔ 7238 + j * 385 < metricsBudget := by
    intro j hj
    have hrow := hk.shown.shown_iff j (by rwa [List.length_map, List.length_replicate])
    rwa [← List.map_take, List.take_replicate, Nat.min_eq_left (Nat.le_of_lt hj), List.map_replicate,
      totalLength, List.map_replicate, List.sum_replicate_nat, hm, metricsHead_length, hdigits] at hrow
  have hfirst := (hshown 150 (by decide)).mpr (by decide)
  have hlast : ¬ 151 < k := fun h => absurd ((hshown 151 (by decide)).mp h) (by decide)
  omega

/-- So 49 of 200 entries are not shown. -/
theorem not_completeMetrics {m : Metric} (hm : (metricRow m).length = 385) :
    ¬ CompleteMetrics 200 (List.replicate 200 m) := by
  intro hcomplete
  obtain ⟨k, hk⟩ := newestMetrics (by decide : 200 ≤ maxMetrics) (List.replicate 200 m)
  obtain rfl := newestMetrics_hot hm hk
  rw [CompleteMetrics, hk.page_eq, Option.some.injEq] at hcomplete
  have hlength := congrArg List.length hcomplete
  simp only [List.length_append, List.length_flatMap, List.take_replicate, List.map_replicate,
    List.sum_replicate_nat, hm, List.length_replicate] at hlength
  omega

/-- A reading stored after the count has been read. -/
theorem not_completeMetrics_late (m : Metric) : ¬ CompleteMetrics 0 [m] := by
  intro hcomplete
  obtain ⟨k, hk, hpage⟩ := newestMetrics (by decide : 0 ≤ maxMetrics) [m]
  rw [CompleteMetrics, hpage, Option.some.injEq] at hcomplete
  have hlength := congrArg List.length hcomplete
  have hdigits : (decimal 0).length = 1 ∧ (decimal 1).length = 1 := by decide
  have hrow : 0 < (metricRow m).length := by
    rw [metricRow, List.length_append, closeRow_length]
    omega
  have htake : [m].take k = [m] := by
    cases k with
    | zero =>
      simp only [List.take_zero, List.flatMap_nil, List.append_nil, List.length_append,
        metricsHead_length, hdigits, List.length_singleton, List.flatMap_singleton] at hlength
      omega
    | succ k => rw [List.take_succ_cons, List.take_nil]
  rw [htake, List.append_assoc, List.append_assoc] at hcomplete
  have hdecimal : decimal 0 ≠ decimal 1 := by decide
  exact metricsHead_ne hdecimal _ hcomplete

/-! ## Every page -/

namespace System
variable {n : Nat}

/-- The count is read in a reachable state and the rows in any later one. The entries scanned are
the last ones appended, newest first; the page shows those the budget allows, which is all of them
where they fit, and then their number is the one in the header card unless it changed in between. -/
theorem historyPages_newest {s s' : System n} {actions more : List (Action n)}
    (hrun : Runs.run step (init n) actions = some s) (hmore : Runs.run step s more = some s') :
    (metricsShown s'.g = (metricsIn (eventsOf s'.log)).take maxMetrics ∧
      (∃ k, NewestMetrics (stateGetMetricCount s.g) (metricsShown s'.g) k) ∧
      (stateGetMetricCount s'.g = stateGetMetricCount s.g →
        (metricsHead (stateGetMetricCount s.g)).length +
            totalLength ((metricsShown s'.g).map metricRow) ≤ metricsBudget →
          CompleteMetrics (stateGetMetricCount s.g) (metricsShown s'.g))) ∧
    (alertsShown s'.g = (alertsIn (eventsOf s'.log)).take maxAlerts ∧
      (∃ k, NewestAlerts (stateGetAlertCount s.g) (alertsShown s'.g) k) ∧
      (stateGetAlertCount s'.g = stateGetAlertCount s.g →
        (alertsHead (stateGetAlertCount s.g)).length +
            totalLength ((alertsShown s'.g).map alertRow) ≤ alertsBudget →
          CompleteAlerts (stateGetAlertCount s.g) (alertsShown s'.g))) := by
  have hlater := (systemOk_run (Runs.run_trans hrun hmore)).tables
  have hmetrics := metricsShown_eq hlater.metrics
  have halerts := alertsShown_eq hlater.alerts
  have hmetricCount : stateGetMetricCount s'.g = (metricsShown s'.g).length := by
    rw [hmetrics, stateGetMetricCount, hlater.metrics.count_eq, List.length_take, Nat.min_comm]
  have halertCount : stateGetAlertCount s'.g = (alertsShown s'.g).length := by
    rw [halerts, stateGetAlertCount, hlater.alerts.count_eq, List.length_take, Nat.min_comm]
  constructor
  · refine ⟨hmetrics, newestMetrics (systemOk_run hrun).tables.metrics.count_le _, ?_⟩
    intro hsame hfit
    rw [← hsame, hmetricCount] at hfit ⊢
    exact completeMetrics_of_fits hfit
  · refine ⟨halerts, newestAlerts (systemOk_run hrun).tables.alerts.count_le _, ?_⟩
    intro hsame hfit
    rw [← hsame, halertCount] at hfit ⊢
    exact completeAlerts_of_fits hfit

/-- With 200 readings at 1e308 degrees the budget stops the loop behind 151 rows. -/
theorem historyPages_newest_budget : NewestMetrics 200 (List.replicate 200 hotMetric) 151 := by
  obtain ⟨actions, s, hrun, -, hhot⟩ := hotMetrics_run 200
  obtain ⟨hcount, hshown⟩ := hhot.shown (by decide)
  have hmore : Runs.run step s [] = some s := rfl
  obtain ⟨k, hk⟩ := (historyPages_newest hrun hmore).1.2.1
  rw [hcount, hshown] at hk
  obtain rfl := newestMetrics_hot metricRow_hotMetric hk
  exact hk

/-- 200 readings at 1e308 degrees do not fit, and one that is stored between the two critical
sections of a request is shown below a header card that says 0. -/
theorem historyPages_incomplete :
    (∃ actions, ∃ s : System 1, Runs.run step (init 1) actions = some s ∧
      ¬ CompleteMetrics (stateGetMetricCount s.g) (metricsShown s.g)) ∧
    (∃ actions more, ∃ s s' : System 1, Runs.run step (init 1) actions = some s ∧
      Runs.run step s more = some s' ∧
      ¬ CompleteMetrics (stateGetMetricCount s.g) (metricsShown s'.g)) := by
  constructor
  · obtain ⟨actions, s, hrun, -, hhot⟩ := hotMetrics_run 200
    obtain ⟨hcount, hshown⟩ := hhot.shown (by decide)
    refine ⟨actions, s, hrun, ?_⟩
    rw [hcount, hshown]
    exact not_completeMetrics metricRow_hotMetric
  · obtain ⟨actions, s, hrun, hidle, hhot⟩ := hotMetrics_run 0
    have hstay : ∀ line ∈ List.replicate 1 hotLine,
        IsLine line ∧ ∀ g, ((handleLine line).run g).1.2 = false :=
      fun line hline => hotLines_stay 1 line (List.mem_cons_of_mem _ hline)
    obtain ⟨more, s', hmore, -, hg⟩ := run_lines hidle hstay
    have hnext : HotMetrics (0 + 1) s'.g := hg ▸ hotMetrics_reach hhot
    refine ⟨actions, more, s, s', hrun, hmore, ?_⟩
    rw [(hhot.shown (by decide)).1, (hnext.shown (by decide)).2]
    exact not_completeMetrics_late hotMetric

end System

end IotMonitoring
