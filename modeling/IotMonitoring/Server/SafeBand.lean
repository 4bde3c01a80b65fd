import IotMonitoring.Shared.NumberTexts
import IotMonitoring.Server.AcceptedMetrics
import IotMonitoring.Server.Reachable

/-!
# What NORMAL means

A reading that raises no alert lies inside the band of its type, unless it is
no number: every comparison with a NaN is false, so `alerts_evaluate` finds
nothing wrong with it, and `parse_double` lets it in.
-/

namespace IotMonitoring

open ByteStrings Binary64
set_option autoImplicit false

/-- The value is a number in the band of safe readings of the type. -/
def InBand : SensorType → Double → Prop
  | .temp, value => value.le (ofNat 70) = true
  | .vib, value => value.le (ofNat 50) = true
  | .power, value => (ofNat 10).le value = true ∧ value.le (ofNat 100) = true
  | .invalid, _ => False

theorem ofNat_not_isNan (n : Nat) : ¬ (ofNat n).IsNan := ofRatio_not_isNan false n 1

theorem inBand_not_isNan {type : SensorType} {value : Double} (h : InBand type value) :
    ¬ value.IsNan := by
  cases type with
  | temp => exact (Double.not_isNan_of_le h).1
  | vib => exact (Double.not_isNan_of_le h).1
  | power => exact (Double.not_isNan_of_le h.2).1
  | invalid => exact h.elim

theorem inBand_iff_not_anomalous {type : SensorType} (htype : type ≠ .invalid) {value : Double}
    (hvalue : ¬ value.IsNan) : InBand type value ↔ ¬ Anomalous type value := by
  have hhigh : ∀ n, value.le (ofNat n) = true ↔ ¬ value.gt (ofNat n) = true := fun n => by
    rw [Double.le_iff_not_lt hvalue (ofNat_not_isNan n), Double.gt, Bool.not_eq_true]
  have hlow : ∀ n, (ofNat n).le value = true ↔ ¬ value.lt (ofNat n) = true := fun n => by
    rw [Double.le_iff_not_lt (ofNat_not_isNan n) hvalue, Bool.not_eq_true]
  cases type with
  | temp => exact hhigh 70
  | vib => exact hhigh 50
  | power => exact (and_congr (hlow 10) (hhigh 100)).trans not_or.symm
  | invalid => exact absurd rfl htype

theorem not_anomalous_of_isNan {type : SensorType} {value : Double} (h : value.IsNan) :
    ¬ Anomalous type value := by
  obtain ⟨negative, rfl⟩ := h
  have hcompare : ∀ d : Double, d.lt (.nan negative) = false := by
    intro d
    cases d with
    | nan _ => rfl
    | infinite s => cases s <;> rfl
    | finite s u _ => cases s <;> rfl
  have hcompared : ∀ d : Double, (Double.nan negative).lt d = false := fun _ => rfl
  cases type with
  | temp => simp only [Anomalous, Double.gt, hcompare, Bool.false_eq_true, not_false_eq_true]
  | vib => simp only [Anomalous, Double.gt, hcompare, Bool.false_eq_true, not_false_eq_true]
  | power =>
    simp only [Anomalous, Double.gt, hcompare, hcompared, Bool.false_eq_true, or_self,
      not_false_eq_true]
  | invalid => exact id

/-! ## After a METRIC -/

/-- After the METRIC in `line` its sensor is at level ALERT and one alert was appended, or its last
value is in its band and no alert was appended. -/
def NormalMeansSafe (line : Bytes) (g : GlobalState) : Prop :=
  ∃ id i, (tokenize line 8)[1]? = some id ∧ (serverMachine line g).2.slotOf id = some i ∧
    ((((serverMachine line g).2.sensors i).alertLevel = .alert ∧
        ∃ a, (serverMachine line g).2.alerts = g.alerts.push a) ∨
      (InBand ((serverMachine line g).2.sensors i).type
          ((serverMachine line g).2.sensors i).lastValue ∧
        (serverMachine line g).2.alerts = g.alerts))

/-- Only a value that is no number is neither reported nor in its band. -/
theorem reported_safe_iff {g g' : GlobalState} {id : Bytes} {i : Fin maxSensors} {value : Double}
    {timestamp : Bytes} (h : Reported g g' id i value timestamp)
    (htype : (g.sensors i).type ≠ .invalid) :
    (((g'.sensors i).alertLevel = .alert ∧ ∃ a, g'.alerts = g.alerts.push a) ∨
      (InBand (g'.sensors i).type (g'.sensors i).lastValue ∧ g'.alerts = g.alerts)) ↔
        ¬ value.IsNan := by
  rw [h.alerts, h.sensors]
  simp only [Function.update_self, levelOf_eq_alert_iff, judgedAlerts]
  constructor
  · rintro (⟨hanomalous, -⟩ | ⟨hband, -⟩) hnan
    · exact not_anomalous_of_isNan hnan hanomalous
    · exact inBand_not_isNan hband hnan
  · intro hvalue
    cases hjudged : anomaly (g.sensors i).type value with
    | none =>
      exact Or.inr ⟨(inBand_iff_not_anomalous htype hvalue).mpr (anomaly_eq_none_iff.mp hjudged), rfl⟩
    | some crossed =>
      have hsome : (anomaly (g.sensors i).type value).isSome := by rw [hjudged]; rfl
      exact Or.inl ⟨(anomaly_isSome_iff _ _).mp hsome, _, rfl⟩

theorem parseDouble_isNan_iff {token : Bytes} {value : Double} (h : parseDouble token = some value) :
    value.IsNan ↔ SpellsNan token := by
  unfold parseDouble at h
  cases hread : strtod token with
  | none =>
    rw [hread] at h
    cases h
  | some c =>
    rw [hread] at h
    simp only at h
    split at h
    · cases h
    · rename_i hend
      cases h
      exact spellsNan_iff hread (not_not.mp fun hrest => hend (Or.inr hrest))

theorem normalMeansSafe_iff {g : GlobalState} (ht : TableOk g) {line : Bytes}
    (hmetric : (tokenize line 8).head? = some (ascii "METRIC"))
    (hok : (serverMachine line g).1 = metricOk) :
    NormalMeansSafe line g ↔ ∀ token ∈ (tokenize line 8)[2]?, ¬ SpellsNan token := by
  obtain ⟨args, hts⟩ := List.head?_eq_some_iff.mp hmetric
  have hrun := serverMachine_metric hts g
  rw [hrun] at hok
  obtain ⟨command, id, valueStr, timestamp, i, value, htokens, hs, -, hvalue, -, hdone⟩ :=
    handleMetric_accepted hok
  have hsafe := reported_safe_iff hdone (ht.typed i (slotOf_occupied hs))
  have hslot := (hdone.slotOf id).trans hs
  unfold NormalMeansSafe
  rw [hrun]
  rw [htokens] at hsafe hslot ⊢
  simp only [List.getElem?_cons_succ, List.getElem?_cons_zero, Option.mem_def, Option.some.injEq,
    forall_eq']
  rw [← parseDouble_isNan_iff hvalue, ← hsafe]
  constructor
  · rintro ⟨id', i', rfl, hs', h⟩
    rw [hslot] at hs'
    cases hs'
    exact h
  · exact fun h => ⟨id, i, rfl, hslot, h⟩

namespace System
variable {n : Nat}

/-- In every reachable state, an uninterrupted METRIC answered 200 leaves its sensor reported or in
its band exactly when its value token does not spell a NaN. -/
theorem normal_is_safe_iff {s : System n} {actions : List (Action n)}
    (hrun : Runs.run step (init n) actions = some s) {line : Bytes}
    (hmetric : (tokenize line 8).head? = some (ascii "METRIC"))
    (hok : (serverMachine line s.g).1 = metricOk) :
    NormalMeansSafe line s.g ↔ ∀ token ∈ (tokenize line 8)[2]?, ¬ SpellsNan token :=
  normalMeansSafe_iff (systemOk_run hrun).table hmetric hok

def registeredSensor (c : Fin n) : List (Action n) :=
  [.connect c, .receive c (ascii "REGISTER s1 TEMP"), .proceed c]

theorem normal_is_safe_seventy : ∃ s : System 1,
    Runs.run step (init 1) (registeredSensor 0) = some s ∧
      NormalMeansSafe (ascii "METRIC s1 70 2026-03-30T14:05:00Z") s.g := by
  have h : (Runs.run step (init 1) (registeredSensor 0)).map (fun s =>
      (serverMachine (ascii "METRIC s1 70 2026-03-30T14:05:00Z") s.g).1) = some metricOk := by
    decide +kernel
  obtain ⟨s, hs, hok⟩ := Option.map_eq_some_iff.mp h
  refine ⟨s, hs, (normal_is_safe_iff hs (by decide +kernel) hok).mpr ?_⟩
  intro token htoken hnan
  have hread : parseDouble (ascii "70") = some (ofNat 70) := by decide +kernel
  have htok : (tokenize (ascii "METRIC s1 70 2026-03-30T14:05:00Z") 8)[2]? = some (ascii "70") := by
    decide +kernel
  rw [htok] at htoken
  cases htoken
  exact ofNat_not_isNan 70 ((parseDouble_isNan_iff hread).mpr hnan)

/-- The value `nan` is accepted; the sensor stays NORMAL, and no alert is raised. -/
theorem normal_not_safe_nan : ∃ s : System 1,
    Runs.run step (init 1) (registeredSensor 0) = some s ∧
      (serverMachine (ascii "METRIC s1 nan 2026-03-30T14:05:00Z") s.g).1 = metricOk ∧
      ¬ NormalMeansSafe (ascii "METRIC s1 nan 2026-03-30T14:05:00Z") s.g := by
  have h : (Runs.run step (init 1) (registeredSensor 0)).map (fun s =>
      (serverMachine (ascii "METRIC s1 nan 2026-03-30T14:05:00Z") s.g).1) = some metricOk := by
    decide +kernel
  obtain ⟨s, hs, hok⟩ := Option.map_eq_some_iff.mp h
  refine ⟨s, hs, hok, fun hsafe => ?_⟩
  have hread : parseDouble (ascii "nan") = some (.nan false) := by decide +kernel
  exact (normalMeansSafe_iff (systemOk_run hs).table (by decide +kernel) hok).mp hsafe (ascii "nan")
    (by decide +kernel) ((parseDouble_isNan_iff hread).mp (Double.isNan_nan false))

end System

end IotMonitoring
