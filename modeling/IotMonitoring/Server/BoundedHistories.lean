import IotMonitoring.Server.Calls

/-!
# The metric and alert tables as bounded histories

The pages `/metrics` and `/alerts` walk the circular tables with their own
index formula. Along any sequence of state operations the walk shows exactly
the newest entries that were appended, newest first, each once.
-/

namespace IotMonitoring

open ByteStrings Binary64
set_option autoImplicit false

/-- The index `route_metrics` reads for its row `j`, in C's `int` arithmetic. -/
def routeMetricsIndex (g : GlobalState) (j : Nat) : Int :=
  Int.tmod ((g.metrics.next : Int) - 1 - j + maxMetrics) maxMetrics

/-- The index `route_alerts` reads for its row `j`. -/
def routeAlertsIndex (g : GlobalState) (j : Nat) : Int :=
  Int.tmod ((g.alerts.next : Int) - 1 - j + maxAlerts) maxAlerts

/-- A table whose reader, walking by `index`, sees the newest entries of `hist`. -/
structure ExactHistory {α : Type} {N : Nat} (t : CircularTable α N) (index : Nat → Int)
    (hist : List α) : Prop where
  next_lt : t.next < N
  count_eq : t.count = min hist.length N
  index_range : ∀ j < t.count, 0 ≤ index j ∧ index j < N
  index_injective : ∀ j < t.count, ∀ k < t.count, index j = index k → j = k
  entries_eq : ((List.range t.count).map fun j => t.slotAt (index j)) = (hist.take N).map some

theorem exactHistory_of_holds {α : Type} {N : Nat} (hN : 0 < N) {t : CircularTable α N}
    {hist : List α} (h : t.Holds hist) : ExactHistory t t.readIndex hist where
  next_lt := h.next_lt hN
  count_eq := h.count_eq
  index_range := fun _ hj => h.readIndex_range hN hj
  index_injective := fun _ hj _ hk he => h.readIndex_injective hj hk he
  entries_eq := h.recent_eq hN

/-- A state with the history of the calls that made it, newest first. -/
def execRecorded (s : GlobalState × List Event) (c : StateCall) : GlobalState × List Event :=
  (c.exec s.1, (c.event s.1).toList ++ s.2)

def runCalls (calls : List StateCall) : GlobalState × List Event :=
  calls.foldl execRecorded (stateInit, [])

theorem tablesHold_foldl (calls : List StateCall) {s : GlobalState × List Event}
    (h : TablesHold s.1 s.2) :
    TablesHold (calls.foldl execRecorded s).1 (calls.foldl execRecorded s).2 := by
  induction calls generalizing s with
  | nil => exact h
  | cons c calls ih => exact ih (tablesHold_exec h c)

/-- After any sequence of operations the two tables are the exact bounded
histories of the metrics and of the alerts appended so far. -/
theorem circularTables_exact (calls : List StateCall) :
    ExactHistory (runCalls calls).1.metrics (routeMetricsIndex (runCalls calls).1)
        (metricsIn (runCalls calls).2) ∧
      ExactHistory (runCalls calls).1.alerts (routeAlertsIndex (runCalls calls).1)
        (alertsIn (runCalls calls).2) := by
  have h := tablesHold_foldl calls (s := (stateInit, [])) tablesHold_init
  exact ⟨exactHistory_of_holds (by decide) h.metrics, exactHistory_of_holds (by decide) h.alerts⟩

end IotMonitoring
