import IotMonitoring.Server.AcceptedMetrics
import IotMonitoring.Server.Isolation
import IotMonitoring.Server.LineRuns

/-!
# Servers with given numbers

A server can be brought into a state with any number of sensors up to 64, any
number of these active, and any numbers of metrics and alerts that the tables
hold, as long as every alert has its metric and metrics have a sensor: register
the sensors, report on the first, deregister the last ones.
-/

namespace IotMonitoring

open ByteStrings Binary64
set_option autoImplicit false

/-- The id of the sensor in slot `k`: one printable byte, from `!` on. -/
def benchId (k : Nat) : Bytes := [UInt8.ofNat (33 + k)]

/-- The first `t` slots hold the sensors of that order, the first `a` of them active. -/
structure Bench (t a m l : Nat) (g : GlobalState) : Prop where
  table : TableOk g
  count : g.sensorCount = t
  ids : ∀ i : Fin maxSensors, i.val < t → (g.sensors i).id.text = benchId i
  types : ∀ i : Fin maxSensors, i.val < t → (g.sensors i).type = .temp
  actives : ∀ i : Fin maxSensors, i.val < t → ((g.sensors i).status = .active ↔ i.val < a)
  metrics : g.metrics.count = m
  alerts : g.alerts.count = l

theorem benchId_injective {j k : Nat} (hj : j < maxSensors) (hk : k < maxSensors)
    (h : benchId j = benchId k) : j = k := by
  have hbyte : (UInt8.ofNat (33 + j)).toNat = (UInt8.ofNat (33 + k)).toNat :=
    congrArg UInt8.toNat (List.head_eq_of_cons_eq h)
  have hbelow : ∀ i, i < maxSensors → 33 + i < UInt8.size := by
    intro i hi
    simp only [maxSensors, UInt8.size] at hi ⊢
    omega
  rw [UInt8.toNat_ofNat_of_lt' (hbelow j hj), UInt8.toNat_ofNat_of_lt' (hbelow k hk)] at hbyte
  exact Nat.add_left_cancel hbyte

theorem benchId_sensorId {k : Nat} (hk : k < maxSensors) : SensorId (benchId k) := by
  have hall : ∀ k < 64, isBlank (UInt8.ofNat (33 + k)) = false ∧ UInt8.ofNat (33 + k) ≠ 0 ∧
      UInt8.ofNat (33 + k) ≠ newline ∧ UInt8.ofNat (33 + k) ≠ carriageReturn := by decide
  obtain ⟨hblank, hbyte⟩ := hall k hk
  refine ⟨⟨List.cons_ne_nil _ _, ?_⟩, ?_⟩
  · intro c hc
    rw [List.mem_singleton.mp hc]
    exact hblank
  · intro c hc
    rw [List.mem_singleton.mp hc]
    exact hbyte

section Steps
variable {t a m l : Nat} {g : GlobalState}

theorem Bench.occupied_iff (h : Bench t a m l g) (i : Fin maxSensors) :
    (g.sensors i).active = true ↔ i.val < t := by
  rw [← h.count]
  exact h.table.packed i

theorem Bench.slotOf (h : Bench t a m l g) {i : Fin maxSensors} (hi : i.val < t) :
    g.slotOf (benchId i) = some i := by
  have hdistinct : SlotTable.Distinct (·.active) (·.id.text) g.sensors := by
    intro j k hj hk hsame
    have hjt := (h.occupied_iff j).mp hj
    have hkt := (h.occupied_iff k).mp hk
    change (g.sensors j).id.text = (g.sensors k).id.text at hsame
    rw [h.ids j hjt, h.ids k hkt] at hsame
    exact Fin.ext (benchId_injective j.isLt k.isLt hsame)
  rw [← h.ids i hi]
  exact SlotTable.find_of_distinct hdistinct ((h.occupied_iff i).mpr hi)

theorem Bench.missing (h : Bench t a m l g) {k : Nat} (hk : k < maxSensors) (ht : t ≤ k) :
    g.slotOf (benchId k) = none := by
  apply SlotTable.find_eq_none_iff.mpr
  intro j hj hsame
  have hjt := (h.occupied_iff j).mp hj
  rw [h.ids j hjt] at hsame
  have := benchId_injective j.isLt hk hsame
  omega

theorem bench_init : Bench 0 maxSensors 0 0 stateInit where
  table := tableOk_init
  count := rfl
  ids := fun _ hi => absurd hi (Nat.not_lt_zero _)
  types := fun _ hi => absurd hi (Nat.not_lt_zero _)
  actives := fun _ hi => absurd hi (Nat.not_lt_zero _)
  metrics := rfl
  alerts := rfl

theorem bench_register (h : Bench t maxSensors m l g) (ht : t < maxSensors) :
    Bench (t + 1) maxSensors m l (serverMachine (registerCommand (benchId t)) g).2 := by
  have hsensor := benchId_sensorId ht
  have htable := tableOk_exec h.table (.register (benchId t) .temp)
  have hmissing := h.missing ht (Nat.le_refl t)
  rw [serverMachine_register hsensor]
  rcases stateRegisterSensor_cases (benchId t) .temp g with ⟨hinv, -⟩ | ⟨i, -, hs, -⟩ |
    ⟨i, -, hs, -⟩ | ⟨-, -, hfull, -⟩ | ⟨i, -, -, hfree, hr⟩
  · cases hinv
  · rw [hmissing] at hs
    cases hs
  · rw [hmissing] at hs
    cases hs
  · exact absurd hfull (freeSlot_of_count h.table (by rw [h.count]; exact ht))
  · have hi : i.val = t := (SlotTable.eq_of_free h.table.packed hfree).trans h.count
    rw [StateCall.exec, hr] at htable
    rw [hr]
    have hother : ∀ j : Fin maxSensors, j.val < t + 1 → j ≠ i → j.val < t := by
      intro j hj hne
      have hval : j.val ≠ i.val := fun heq => hne (Fin.ext heq)
      omega
    refine ⟨htable, congrArg (· + 1) h.count, ?_, ?_, ?_, h.metrics, h.alerts⟩
    · intro j hj
      by_cases hji : j = i
      · subst hji
        simp only [setSensor_sensors, Function.update_self]
        rw [hi]
        exact Buffer.copy_text_of_fits (by simp [benchId]) hsensor.zero_notMem
      · simp only [setSensor_sensors, Function.update_of_ne hji]
        exact h.ids j (hother j hj hji)
    · intro j hj
      by_cases hji : j = i
      · subst hji
        simp only [setSensor_sensors, Function.update_self]
        rfl
      · simp only [setSensor_sensors, Function.update_of_ne hji]
        exact h.types j (hother j hj hji)
    · intro j hj
      by_cases hji : j = i
      · subst hji
        simp only [setSensor_sensors, Function.update_self]
        exact ⟨fun _ => j.isLt, fun _ => rfl⟩
      · simp only [setSensor_sensors, Function.update_of_ne hji]
        exact h.actives j (hother j hj hji)

/-- A sensor keeps its place on the bench when what identifies it and its status are kept. -/
theorem Bench.update {g' : GlobalState} {i : Fin maxSensors} {s : Sensor} {a' m' l' : Nat}
    (h : Bench t a m l g) (hsensors : g'.sensors = Function.update g.sensors i s)
    (hsame : SameIdentity (g.sensors i) s) (hcount : g'.sensorCount = g.sensorCount)
    (hactives : ∀ j : Fin maxSensors, j.val < t →
      ((Function.update g.sensors i s j).status = .active ↔ j.val < a'))
    (hmetrics : g'.metrics.count = m') (halerts : g'.alerts.count = l') : Bench t a' m' l' g' := by
  have htable : TableOk g' := h.table.change (.inPlace i s hsame hsensors hcount)
  refine ⟨htable, hcount.trans h.count, ?_, ?_, ?_, hmetrics, halerts⟩
  · intro j hj
    rw [hsensors]
    by_cases hji : j = i
    · subst hji
      rw [Function.update_self, hsame.id]
      exact h.ids j hj
    · rw [Function.update_of_ne hji]
      exact h.ids j hj
  · intro j hj
    rw [hsensors]
    by_cases hji : j = i
    · subst hji
      rw [Function.update_self, hsame.type]
      exact h.types j hj
    · rw [Function.update_of_ne hji]
      exact h.types j hj
  · intro j hj
    rw [hsensors]
    exact hactives j hj

/-- A reading of the first sensor, `99` above its threshold and `20` below it. -/
def benchReading (reading : Bytes) : Bytes :=
  ascii "METRIC ! " ++ reading ++ ascii " 2026-03-30T14:05:00Z"

theorem bench_reported {reading : Bytes} {value : Double} (h : Bench t a m l g) (ht : 0 < t)
    (ha : 0 < a) (htokens : tokenize (benchReading reading) 8 =
      [ascii "METRIC", ascii "!", reading, ascii "2026-03-30T14:05:00Z"])
    (hvalue : parseDouble reading = some value) :
    Reported g (serverMachine (benchReading reading) g).2 (ascii "!") 0 value
      (ascii "2026-03-30T14:05:00Z") := by
  have htime : isValidTimestamp (ascii "2026-03-30T14:05:00Z") = true := by decide
  have hfound : g.slotOf (ascii "!") = some 0 := h.slotOf (i := 0) ht
  have hactive := (h.actives 0 ht).mpr ha
  have hdone := (handleMetric_reported (ascii "METRIC") hfound hactive hvalue htime).2
  rw [serverMachine_metric htokens, htokens]
  exact hdone

/-- A reading that is stored, with or without an alert. -/
theorem bench_metric {reading : Bytes} {value : Double} {l' : Nat} (h : Bench t a m l g)
    (ht : 0 < t) (ha : 0 < a) (hm : m < maxMetrics)
    (htokens : tokenize (benchReading reading) 8 =
      [ascii "METRIC", ascii "!", reading, ascii "2026-03-30T14:05:00Z"])
    (hvalue : parseDouble reading = some value)
    (hjudged : (judgedAlerts (ascii "!") value (ascii "2026-03-30T14:05:00Z") .temp
      g.alerts).count = l') :
    Bench t a (m + 1) l' (serverMachine (benchReading reading) g).2 := by
  have hdone := bench_reported h ht ha htokens hvalue
  have htype : (g.sensors 0).type = .temp := h.types 0 ht
  apply h.update hdone.sensors ⟨rfl, rfl, rfl⟩ hdone.count
  · intro j hj
    by_cases hj0 : j = 0
    · subst hj0
      rw [Function.update_self]
      exact h.actives 0 hj
    · rw [Function.update_of_ne hj0]
      exact h.actives j hj
  · rw [hdone.metrics, CircularTable.push, h.metrics, if_pos hm]
  · rw [hdone.alerts, htype]
    exact hjudged

theorem bench_hot (h : Bench t a m l g) (ht : 0 < t) (ha : 0 < a) (hm : m < maxMetrics)
    (hl : l < maxAlerts) :
    Bench t a (m + 1) (l + 1) (serverMachine (benchReading (ascii "99")) g).2 := by
  have hcrossed : ∃ value, parseDouble (ascii "99") = some value ∧
      value.gt tempThresholdHigh = true := by
    refine ⟨ofNat 99, ?_, ?_⟩
    · decide +kernel
    · decide +kernel
  obtain ⟨value, hvalue, hgt⟩ := hcrossed
  apply bench_metric h ht ha hm (by decide +kernel) hvalue
  simp only [judgedAlerts, anomaly, hgt, if_true, CircularTable.push, h.alerts, if_pos hl]

theorem bench_calm (h : Bench t a m l g) (ht : 0 < t) (ha : 0 < a) (hm : m < maxMetrics) :
    Bench t a (m + 1) l (serverMachine (benchReading (ascii "20")) g).2 := by
  have hbelow : ∃ value, parseDouble (ascii "20") = some value ∧
      value.gt tempThresholdHigh = false := by
    refine ⟨ofNat 20, ?_, ?_⟩
    · decide +kernel
    · decide +kernel
  obtain ⟨value, hvalue, hgt⟩ := hbelow
  apply bench_metric h ht ha hm (by decide +kernel) hvalue
  simp only [judgedAlerts, anomaly, hgt, Bool.false_eq_true, if_false, h.alerts]

def quitCommand (id : Bytes) : Bytes := joinWords space [ascii "QUIT", id]

theorem serverMachine_quit {id : Bytes} (hid : SensorId id) (g : GlobalState) :
    (serverMachine (quitCommand id) g).2 = (stateDeactivateSensor id g).2 := by
  have hcommand : IsWord isBlank (ascii "QUIT") ∧ (0 : UInt8) ∉ ascii "QUIT" := by decide
  have htokens : tokenize (quitCommand id) 8 = [ascii "QUIT", id] := by
    apply tokenize_words
    · intro w hw
      simp only [List.mem_cons, List.not_mem_nil, or_false] at hw
      rcases hw with rfl | rfl
      · exact hcommand
      · exact ⟨hid.word, hid.zero_notMem⟩
    · simp only [List.length_cons, List.length_nil]
      omega
  unfold serverMachine handleLine
  rw [htokens]
  rfl

theorem bench_quit (h : Bench t (a + 1) m l g) (hat : a < t) (ht : t ≤ maxSensors) :
    Bench t a m l (serverMachine (quitCommand (benchId a)) g).2 := by
  have ha : a < maxSensors := Nat.lt_of_lt_of_le hat ht
  have hfound : g.slotOf (benchId a) = some ⟨a, ha⟩ := h.slotOf (i := ⟨a, ha⟩) hat
  rw [serverMachine_quit (benchId_sensorId ha), stateDeactivateSensor, updateSensor_found hfound]
  refine h.update (setSensor_sensors g ⟨a, ha⟩ _) ⟨rfl, rfl, rfl⟩ rfl ?_ h.metrics h.alerts
  intro j hj
  by_cases hja : j = ⟨a, ha⟩
  · subst hja
    rw [Function.update_self]
    simp
  · rw [Function.update_of_ne hja, h.actives j hj]
    have hval : j.val ≠ a := fun heq => hja (Fin.ext heq)
    omega

end Steps

/-! ## All lines together -/

theorem bench_registers {t : Nat} (ht : t ≤ maxSensors) : Bench t maxSensors 0 0
    (Runs.reach serverMachine stateInit
      ((List.range t).map fun k => registerCommand (benchId k))) := by
  induction t with
  | zero => exact bench_init
  | succ t ih =>
    rw [List.range_succ, List.map_append, Runs.reach_append]
    exact bench_register (ih (Nat.le_of_succ_le ht)) ht

section Repeated
variable {t a m l : Nat} {g : GlobalState}

theorem bench_hots (h : Bench t a m l g) (ht : 0 < t) (ha : 0 < a) {k : Nat}
    (hm : m + k ≤ maxMetrics) (hl : l + k ≤ maxAlerts) : Bench t a (m + k) (l + k)
      (Runs.reach serverMachine g (List.replicate k (benchReading (ascii "99")))) := by
  induction k generalizing m l g with
  | zero => exact h
  | succ k ih =>
    have hnext := ih (bench_hot h ht ha (by omega) (by omega)) (by omega) (by omega)
    rw [Nat.add_right_comm m, Nat.add_right_comm l] at hnext
    exact hnext

theorem bench_calms (h : Bench t a m l g) (ht : 0 < t) (ha : 0 < a) {k : Nat}
    (hm : m + k ≤ maxMetrics) : Bench t a (m + k) l
      (Runs.reach serverMachine g (List.replicate k (benchReading (ascii "20")))) := by
  induction k generalizing m g with
  | zero => exact h
  | succ k ih =>
    have hnext := ih (bench_calm h ht ha (by omega)) (by omega)
    rw [Nat.add_right_comm m] at hnext
    exact hnext

/-- The sensors `b - 1` down to `a` leave. -/
theorem bench_quits {b k : Nat} (h : Bench t b m l g) (hb : b = a + k) (hbt : b ≤ t)
    (ht : t ≤ maxSensors) : Bench t a m l (Runs.reach serverMachine g
      ((List.range k).reverse.map fun j => quitCommand (benchId (a + j)))) := by
  subst hb
  induction k generalizing g with
  | zero => exact h
  | succ k ih =>
    rw [List.range_succ, List.reverse_append, List.reverse_singleton, List.singleton_append,
      List.map_cons, Runs.reach]
    exact ih (bench_quit h (by omega) ht) (by omega)

theorem Bench.allActive (h : Bench t maxSensors m l g) : Bench t t m l g := by
  refine { h with actives := fun i hi => ?_ }
  rw [h.actives i hi]
  exact ⟨fun _ => hi, fun _ => i.isLt⟩

theorem Bench.activeCount (h : Bench t a m l g) (hat : a ≤ t) (ht : t ≤ maxSensors) :
    stateGetActiveSensorCount g = a := by
  suffices hpacked : SlotTable.Packed (fun s : Sensor => s.active && decide (s.status = .active))
      g.sensors a from SlotTable.countP_of_packed hpacked (Nat.le_trans hat ht)
  intro i
  rw [Bool.and_eq_true, h.occupied_iff, decide_eq_true_iff]
  constructor
  · rintro ⟨hi, hactive⟩
    exact (h.actives i hi).mp hactive
  · intro hi
    have hit := Nat.lt_of_lt_of_le hi hat
    exact ⟨hit, (h.actives i hit).mpr hi⟩

end Repeated

/-- The lines that bring a server to `t` sensors, `a` of them active, `m` metrics and `l` alerts. -/
def benchLines (t a m l : Nat) : List Bytes :=
  ((List.range t).map fun k => registerCommand (benchId k)) ++
    List.replicate l (benchReading (ascii "99")) ++
    List.replicate (m - l) (benchReading (ascii "20")) ++
    (List.range (t - a)).reverse.map fun j => quitCommand (benchId (a + j))

theorem benchLines_isLine {t a m l : Nat} (ht : t ≤ maxSensors) :
    ∀ line ∈ benchLines t a m l, IsLine line := by
  have hquits : ∀ k < 64, IsLine (quitCommand (benchId k)) := by decide +kernel
  have hreadings : IsLine (benchReading (ascii "99")) ∧ IsLine (benchReading (ascii "20")) := by
    decide +kernel
  intro line hline
  simp only [benchLines, List.mem_append, List.mem_map, List.mem_range, List.mem_reverse] at hline
  rcases hline with ((⟨k, hk, rfl⟩ | hline) | hline) | ⟨j, hj, rfl⟩
  · have hk64 : k < maxSensors := Nat.lt_of_lt_of_le hk ht
    exact isLine_registerCommand (benchId_sensorId hk64) (by simp [benchId])
  · rw [List.eq_of_mem_replicate hline]
    exact hreadings.1
  · rw [List.eq_of_mem_replicate hline]
    exact hreadings.2
  · simp only [maxSensors] at ht
    exact hquits (a + j) (by omega)

/-- Any numbers the tables hold are those of a server, if each alert has its metric and metrics have
a sensor. -/
theorem numbers_reachable {t a m l : Nat} (ht : t ≤ maxSensors) (hat : a ≤ t)
    (hm : m ≤ maxMetrics) (hl : l ≤ maxAlerts) (hlm : l ≤ m) (hnone : t = 0 → m = 0) :
    ∃ n actions, ∃ s : System n, Runs.run System.step (System.init n) actions = some s ∧
      stateGetSensorCount s.g = t ∧ stateGetActiveSensorCount s.g = a ∧
      stateGetAlertCount s.g = l ∧ stateGetMetricCount s.g = m := by
  obtain ⟨actions, s, hrun, hg⟩ := System.lines_reachable (benchLines_isLine (a := a) (m := m)
    (l := l) ht)
  have hregistered := bench_registers ht
  have hreported : Bench t maxSensors m l (Runs.reach serverMachine (Runs.reach serverMachine
      (Runs.reach serverMachine stateInit ((List.range t).map fun k => registerCommand (benchId k)))
      (List.replicate l (benchReading (ascii "99"))))
      (List.replicate (m - l) (benchReading (ascii "20")))) := by
    rcases Nat.eq_zero_or_pos t with hzero | hpos
    · obtain rfl : m = 0 := hnone hzero
      obtain rfl : l = 0 := Nat.le_zero.mp hlm
      exact hregistered
    · have hhot := bench_hots hregistered hpos (by decide) (k := l) (by omega) (by omega)
      have hcalm := bench_calms hhot hpos (by decide) (k := m - l) (by omega)
      have htotal : 0 + l + (m - l) = m := by omega
      rw [htotal, Nat.zero_add] at hcalm
      exact hcalm
  have hsplit : t = a + (t - a) := by omega
  have hend := bench_quits hreported.allActive hsplit (Nat.le_refl t) ht
  have hbench : Bench t a m l s.g := by
    rw [hg, benchLines, Runs.reach_append, Runs.reach_append, Runs.reach_append]
    exact hend
  exact ⟨_, actions, s, hrun, hbench.count, hbench.activeCount hat ht, hbench.alerts,
    hbench.metrics⟩

end IotMonitoring
