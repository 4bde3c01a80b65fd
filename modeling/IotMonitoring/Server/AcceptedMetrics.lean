import IotMonitoring.Server.Calls
import IotMonitoring.Server.Refinement

/-!
# What an accepted METRIC does

An uninterrupted METRIC is answered 200 exactly when its sensor is ACTIVE, its
value is read and its timestamp has the right form, and then the state it
leaves is `Reported`: the record of the one sensor, one metric, and an alert if
the reading is anomalous.
-/

namespace IotMonitoring

open ByteStrings Binary64
set_option autoImplicit false

/-- A line whose first token is METRIC is handled as one. -/
theorem serverMachine_metric {line : Bytes} {args : List Bytes}
    (hts : tokenize line 8 = ascii "METRIC" :: args) (g : GlobalState) :
    serverMachine line g = (handleMetric (tokenize line 8)).run g := by
  unfold serverMachine handleLine
  rw [hts, show handleTokens (ascii "METRIC" :: args) = staying (handleMetric _) from rfl,
    run_staying]

/-- The alert table after a reading has been judged. -/
def judgedAlerts (id : Bytes) (value : Double) (timestamp : Bytes) (type : SensorType)
    (alerts : CircularTable Alert maxAlerts) : CircularTable Alert maxAlerts :=
  match anomaly type value with
  | some (threshold, message) => alerts.push ⟨safeStrncpy id, value, threshold,
      safeStrncpy timestamp, safeStrncpy (sensorTypeToStr type), safeStrncpy message⟩
  | none => alerts

/-- `g'` is `g` after a reading of the sensor in slot `i`. -/
structure Reported (g g' : GlobalState) (id : Bytes) (i : Fin maxSensors) (value : Double)
    (timestamp : Bytes) : Prop where
  sensors : g'.sensors = Function.update g.sensors i { g.sensors i with
    lastValue := value, lastTimestamp := safeStrncpy timestamp
    alertLevel := levelOf (g.sensors i).type value }
  count : g'.sensorCount = g.sensorCount
  metrics : g'.metrics = g.metrics.push ⟨safeStrncpy id, value, safeStrncpy timestamp,
    safeStrncpy (sensorTypeToStr (g.sensors i).type)⟩
  alerts : g'.alerts = judgedAlerts id value timestamp (g.sensors i).type g.alerts

theorem Reported.slotOf {g g' : GlobalState} {id : Bytes} {i : Fin maxSensors} {value : Double}
    {timestamp : Bytes} (h : Reported g g' id i value timestamp) (id' : Bytes) :
    g'.slotOf id' = g.slotOf id' :=
  slotOf_setSensor (s := { g.sensors i with
    lastValue := value, lastTimestamp := safeStrncpy timestamp
    alertLevel := levelOf (g.sensors i).type value }) rfl rfl h.sensors

section
variable {g : GlobalState} {id : Bytes} {i : Fin maxSensors}

theorem alertsEvaluate_tables (value : Double) (type : SensorType) (timestamp : Bytes) :
    ((alertsEvaluate id value type timestamp).run g).2.metrics = g.metrics ∧
      ((alertsEvaluate id value type timestamp).run g).2.alerts =
        judgedAlerts id value timestamp type g.alerts := by
  unfold alertsEvaluate judgedAlerts
  cases anomaly type value with
  | none =>
    simp only [Program.run_bind, Program.run_call, Program.run_pure, stateSetAlertLevel]
    exact updateSensor_tables id _ g
  | some crossed =>
    simp only [Program.run_bind, Program.run_call, Program.run_pure, stateSetAlertLevel]
    exact updateSensor_tables id _ _

theorem reported_record (hs : g.slotOf id = some i) (value : Double) (timestamp : Bytes) :
    ((recordMetric id value timestamp (g.sensors i).type).run g).1 = metricOk ∧
      Reported g ((recordMetric id value timestamp (g.sensors i).type).run g).2 id i value
        timestamp := by
  obtain ⟨hreply, hsens, hcount⟩ := recordMetric_run hs value timestamp (g.sensors i).type
  refine ⟨hreply, hsens, hcount, ?_, ?_⟩
  · unfold recordMetric
    simp only [stateAddMetric_found hs, Program.run_bind, Program.run_call, if_true,
      Program.run_pure]
    rw [(alertsEvaluate_tables value (g.sensors i).type timestamp).1]
  · unfold recordMetric
    simp only [stateAddMetric_found hs, Program.run_bind, Program.run_call, if_true,
      Program.run_pure]
    rw [(alertsEvaluate_tables value (g.sensors i).type timestamp).2]
    rfl

/-- A METRIC that passes every check is answered 200. -/
theorem handleMetric_reported {valueStr timestamp : Bytes} {value : Double} (command : Bytes)
    (hs : g.slotOf id = some i) (hactive : (g.sensors i).status = .active)
    (hvalue : parseDouble valueStr = some value) (htime : isValidTimestamp timestamp = true) :
    ((handleMetric [command, id, valueStr, timestamp]).run g).1 = metricOk ∧
      Reported g ((handleMetric [command, id, valueStr, timestamp]).run g).2 id i value
        timestamp := by
  have hcheck : checkMetric valueStr timestamp (some (i, g.sensors i)) =
      .ok (value, (g.sensors i).type) := by
    have hnot : ¬ (g.sensors i).status ≠ .active := not_not.mpr hactive
    simp only [checkMetric, if_neg hnot, hvalue, htime, if_true]
  unfold handleMetric
  simp only [Program.run_bind, Program.run_call, stateFindSensor, hs, Option.map_some, hcheck]
  exact reported_record hs value timestamp

/-- A METRIC answered 200 has passed every check. -/
theorem handleMetric_accepted {ts : List Bytes} (hok : ((handleMetric ts).run g).1 = metricOk) :
    ∃ command id valueStr timestamp i value, ts = [command, id, valueStr, timestamp] ∧
      g.slotOf id = some i ∧ (g.sensors i).status = .active ∧ parseDouble valueStr = some value ∧
      isValidTimestamp timestamp = true ∧
      Reported g ((handleMetric ts).run g).2 id i value timestamp := by
  unfold handleMetric at hok
  split at hok
  · rename_i command id valueStr timestamp
    simp only [Program.run_bind, Program.run_call] at hok
    cases hcheck : checkMetric valueStr timestamp (stateFindSensor id g).1 with
    | error resp =>
      have hrefused : ∀ resp ∈ [sensorNotFound, sensorNotRegistered, invalidValue, badRequest],
          resp ≠ metricOk := by decide
      rw [hcheck] at hok
      exact absurd hok (hrefused resp (checkMetric_error hcheck))
    | ok checked =>
      obtain ⟨value, type⟩ := checked
      obtain ⟨i, s, hfound, hactive, htype, hvalue, htime⟩ := checkMetric_ok hcheck
      obtain ⟨j, hs, hj⟩ := Option.map_eq_some_iff.mp hfound
      cases hj
      have hdone := handleMetric_reported command hs hactive hvalue htime
      exact ⟨command, id, valueStr, timestamp, i, value, rfl, hs, hactive, hvalue, htime, hdone.2⟩
  · have hne : badRequest ≠ metricOk := by decide
    exact absurd hok hne

end

end IotMonitoring
