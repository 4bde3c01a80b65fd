import IotMonitoring.Shared.LockedPrograms
import IotMonitoring.Server.State

/-!
# Thresholds

`alerts_evaluate` of `alerts.c`: judge a reading, append an alert if it is
anomalous, and set the sensor's level in a second critical section.
-/

namespace IotMonitoring

open ByteStrings Binary64
set_option autoImplicit false

def tempThresholdHigh : Double := ofNat 70
def vibThresholdHigh : Double := ofNat 50
def powerThresholdLow : Double := ofNat 10
def powerThresholdHigh : Double := ofNat 100

def anomalyMessage (typeStr : Bytes) (value : Double) (comparison : Bytes) (threshold : Double) :
    Bytes :=
  snprintf maxMessageLen
    (typeStr ++ ascii " anomaly: " ++ fixed2 value ++ comparison ++ fixed2 threshold)

/-- The `switch` of `alerts_evaluate`: the threshold crossed and the message, if any. -/
def anomaly (type : SensorType) (value : Double) : Option (Double × Bytes) :=
  match type with
  | .temp =>
    if value.gt tempThresholdHigh then
      some (tempThresholdHigh, anomalyMessage (ascii "TEMP") value (ascii " > ") tempThresholdHigh)
    else none
  | .vib =>
    if value.gt vibThresholdHigh then
      some (vibThresholdHigh, anomalyMessage (ascii "VIB") value (ascii " > ") vibThresholdHigh)
    else none
  | .power =>
    if value.lt powerThresholdLow then
      some (powerThresholdLow, anomalyMessage (ascii "POWER") value (ascii " < ") powerThresholdLow)
    else if value.gt powerThresholdHigh then
      some (powerThresholdHigh,
        anomalyMessage (ascii "POWER") value (ascii " > ") powerThresholdHigh)
    else none
  | .invalid => none

def alertsEvaluate (sensorId : Bytes) (value : Double) (type : SensorType) (timestamp : Bytes) :
    Program GlobalState Bool :=
  match anomaly type value with
  | some (threshold, message) => do
    Program.call
      (stateAddAlert sensorId value threshold timestamp (sensorTypeToStr type) message)
    let _ ← Program.call (stateSetAlertLevel sensorId .alert)
    pure true
  | none => do
    let _ ← Program.call (stateSetAlertLevel sensorId .normal)
    pure false

/-- The protocol's rule for an anomalous reading. -/
def Anomalous : SensorType → Double → Prop
  | .temp, value => value.gt (ofNat 70) = true
  | .vib, value => value.gt (ofNat 50) = true
  | .power, value => value.lt (ofNat 10) = true ∨ value.gt (ofNat 100) = true
  | .invalid, _ => False

instance (type : SensorType) (value : Double) : Decidable (Anomalous type value) := by
  cases type <;> unfold Anomalous <;> infer_instance

theorem anomaly_isSome_iff (type : SensorType) (value : Double) :
    (anomaly type value).isSome ↔ Anomalous type value := by
  cases type with
  | temp => by_cases h : value.gt (ofNat 70) = true <;> simp [anomaly, Anomalous, tempThresholdHigh, h]
  | vib => by_cases h : value.gt (ofNat 50) = true <;> simp [anomaly, Anomalous, vibThresholdHigh, h]
  | power =>
    by_cases hlow : value.lt (ofNat 10) = true
    · simp [anomaly, Anomalous, powerThresholdLow, hlow]
    · by_cases hhigh : value.gt (ofNat 100) = true <;>
        simp [anomaly, Anomalous, powerThresholdLow, powerThresholdHigh, hlow, hhigh]
  | invalid => simp [anomaly, Anomalous]

/-- The level a reading asks for. -/
def levelOf (type : SensorType) (value : Double) : AlertLevel :=
  if Anomalous type value then .alert else .normal

theorem levelOf_eq_alert_iff {type : SensorType} {value : Double} :
    levelOf type value = .alert ↔ Anomalous type value := by
  unfold levelOf
  split <;> simp_all

theorem anomaly_eq_none_iff {type : SensorType} {value : Double} :
    anomaly type value = none ↔ ¬ Anomalous type value := by
  rw [← anomaly_isSome_iff, Option.not_isSome_iff_eq_none]

end IotMonitoring
