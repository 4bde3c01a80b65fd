import IotMonitoring.Server.Clients

/-!
# What a command changes

`Program.sections` lists the states around the critical sections that a command
enters itself, whatever the other connections do in between. A refused command
and a command that only asks change nothing in any of them; an accepted one
changes only the slot it names and the tables it writes to.
-/

namespace IotMonitoring

open ByteStrings Binary64 Program
set_option autoImplicit false

/-- The operations other connections get done before each critical section of a command. -/
def interference (others : Nat → List StateCall) (k : Nat) (g : GlobalState) : GlobalState :=
  (others k).foldl (fun g call => call.exec g) g

theorem interference_extends (others : Nat → List StateCall) (k : Nat) {g : GlobalState}
    (ht : TableOk g) : TableOk (interference others k g) ∧ Extends g (interference others k g) := by
  unfold interference
  induction others k generalizing g with
  | nil => exact ⟨ht, Extends.refl g⟩
  | cons call calls ih =>
    obtain ⟨htable, hext⟩ := ih (tableOk_exec ht call)
    exact ⟨htable, (extends_exec call g).trans hext⟩

/-- In `g` the id names slot `i`. -/
structure NamesSlot (id : Bytes) (i : Fin maxSensors) (g : GlobalState) : Prop where
  table : TableOk g
  found : g.slotOf id = some i

theorem NamesSlot.exec {id : Bytes} {i : Fin maxSensors} {g : GlobalState} (h : NamesSlot id i g)
    (call : StateCall) : NamesSlot id i (call.exec g) :=
  ⟨tableOk_exec h.table call, slotOf_extends h.table (extends_exec call g) h.found⟩

theorem NamesSlot.interference {id : Bytes} {i : Fin maxSensors} {g : GlobalState}
    (h : NamesSlot id i g) (others : Nat → List StateCall) (k : Nat) :
    NamesSlot id i (interference others k g) := by
  obtain ⟨htable, hext⟩ := interference_extends others k h.table
  exact ⟨htable, slotOf_extends h.table hext h.found⟩

/-- One section of a METRIC of `id`: what it may change, and what it appends. -/
structure Reports (id : Bytes) (q : GlobalState × GlobalState) (ms : List Metric)
    (as : List Alert) : Prop where
  others : ∀ j, q.1.slotOf id ≠ some j → q.2.sensors j = q.1.sensors j
  named : ∀ j, ∃ value timestamp level, q.2.sensors j = { q.1.sensors j with
    lastValue := value, lastTimestamp := timestamp, alertLevel := level }
  count : q.2.sensorCount = q.1.sensorCount
  metrics : q.2.metrics = ms.foldl CircularTable.push q.1.metrics
  alerts : q.2.alerts = as.foldl CircularTable.push q.1.alerts

/-- Sections of a METRIC of `id` that append so many metrics and alerts in all. -/
def ReportFrame (id : Bytes) (secs : List (GlobalState × GlobalState)) (metrics alerts : Nat) :
    Prop :=
  ∃ effects : List (List Metric × List Alert),
    List.Forall₂ (fun q e => Reports id q e.1 e.2) secs effects ∧
      (effects.flatMap Prod.fst).length = metrics ∧ (effects.flatMap Prod.snd).length = alerts

/-- The only section of a registration that succeeds: one slot changes, and no other table. -/
structure Registers (q : GlobalState × GlobalState) (i : Fin maxSensors) : Prop where
  changed : q.2.sensors i ≠ q.1.sensors i
  others : ∀ j, j ≠ i → q.2.sensors j = q.1.sensors j
  count : q.2.sensorCount = q.1.sensorCount ∨ q.2.sensorCount = q.1.sensorCount + 1
  metrics : q.2.metrics = q.1.metrics
  alerts : q.2.alerts = q.1.alerts

/-! ## METRIC -/

section Metric
variable {id : Bytes} {env : Nat → GlobalState → GlobalState} {st : Nat × GlobalState}

theorem reportFrame_append {s₁ s₂ : List (GlobalState × GlobalState)} {m₁ m₂ a₁ a₂ : Nat}
    (h₁ : ReportFrame id s₁ m₁ a₁) (h₂ : ReportFrame id s₂ m₂ a₂) :
    ReportFrame id (s₁ ++ s₂) (m₁ + m₂) (a₁ + a₂) := by
  obtain ⟨e₁, hf₁, hm₁, ha₁⟩ := h₁
  obtain ⟨e₂, hf₂, hm₂, ha₂⟩ := h₂
  refine ⟨e₁ ++ e₂, List.rel_append hf₁ hf₂, ?_, ?_⟩
  · rw [List.flatMap_append, List.length_append, hm₁, hm₂]
  · rw [List.flatMap_append, List.length_append, ha₁, ha₂]

theorem reportFrame_one {q : GlobalState × GlobalState} {ms : List Metric} {as : List Alert}
    (h : Reports id q ms as) : ReportFrame id [q] ms.length as.length := by
  refine ⟨[(ms, as)], .cons h .nil, ?_, ?_⟩
  · simp only [List.flatMap_cons, List.flatMap_nil, List.append_nil]
  · simp only [List.flatMap_cons, List.flatMap_nil, List.append_nil]

theorem reports_same (g : GlobalState) : Reports id (g, g) [] [] :=
  ⟨fun _ _ => rfl, fun _ => ⟨_, _, _, rfl⟩, rfl, rfl, rfl⟩

/-- An update of the named sensor that leaves identity, type and status alone. -/
theorem reports_update {g : GlobalState} {f : Sensor → Sensor}
    (hf : ∀ s, ∃ value timestamp level, f s = { s with
      lastValue := value, lastTimestamp := timestamp, alertLevel := level }) :
    Reports id (g, (g.updateSensor id f).2) [] [] := by
  cases hs : g.slotOf id with
  | none =>
    rw [updateSensor_missing hs]
    exact reports_same g
  | some i =>
    rw [updateSensor_found hs]
    refine ⟨?_, ?_, rfl, rfl, rfl⟩
    · intro j hj
      have hne : j ≠ i := by
        rintro rfl
        exact hj hs
      exact Function.update_of_ne hne _ _
    · intro j
      by_cases hj : j = i
      · subst hj
        obtain ⟨value, timestamp, level, heq⟩ := hf (g.sensors j)
        exact ⟨value, timestamp, level, by rw [setSensor_sensors, Function.update_self, heq]⟩
      · exact ⟨_, _, _, Function.update_of_ne hj _ _⟩

theorem reports_setLevel (g : GlobalState) (level : AlertLevel) :
    Reports id (g, (stateSetAlertLevel id level g).2) [] [] :=
  reports_update fun s => ⟨s.lastValue, s.lastTimestamp, level, rfl⟩

theorem reports_addAlert (g : GlobalState) (value threshold : Double)
    (timestamp typeStr message : Bytes) :
    ∃ a, Reports id (g, (stateAddAlert id value threshold timestamp typeStr message g).2) [] [a] :=
  ⟨_, fun _ _ => rfl, fun _ => ⟨_, _, _, rfl⟩, rfl, rfl, rfl⟩

theorem reports_addMetric {g : GlobalState} {value : Double} {timestamp typeStr : Bytes}
    (h : (stateAddMetric id value timestamp typeStr g).1 = true) :
    ∃ m, Reports id (g, (stateAddMetric id value timestamp typeStr g).2) [m] [] := by
  cases hs : g.slotOf id with
  | none =>
    rw [stateAddMetric_missing hs] at h
    cases h
  | some i =>
    have hupd : Reports id (g, (g.updateSensor id fun s =>
        { s with lastValue := value, lastTimestamp := safeStrncpy timestamp }).2) [] [] :=
      reports_update fun s => ⟨value, _, s.alertLevel, rfl⟩
    rw [updateSensor_found hs] at hupd
    rw [stateAddMetric_found hs]
    exact ⟨_, hupd.others, hupd.named, hupd.count, rfl, hupd.alerts⟩

theorem reportFrame_evaluate (value : Double) (type : SensorType) (timestamp : Bytes) :
    ∃ alerts ≤ 1, ReportFrame id ((alertsEvaluate id value type timestamp).sections env st) 0 alerts := by
  unfold alertsEvaluate
  split
  · refine ⟨1, Nat.le_refl 1, ?_⟩
    simp only [sections_bind, sections_call, sections_pure, List.append_nil]
    rename_i threshold message _
    obtain ⟨a, ha⟩ : ∃ a, Reports id _ [] [a] := reports_addAlert (env st.1 st.2) value threshold
      timestamp (sensorTypeToStr type) message
    exact reportFrame_append (reportFrame_one ha) (reportFrame_one (reports_setLevel _ _))
  · refine ⟨0, Nat.zero_le 1, ?_⟩
    simp only [sections_bind, sections_call, sections_pure, List.append_nil]
    exact reportFrame_one (reports_setLevel _ _)

/-- A METRIC past its checks is answered 200 only if it appended, and then exactly one metric. -/
theorem reportFrame_record (value : Double) (timestamp : Bytes) (type : SensorType)
    (hresp : accepted (((recordMetric id value timestamp type).disturbed env).run st).1 = true) :
    ∃ alerts ≤ 1, ReportFrame id ((recordMetric id value timestamp type).sections env st) 1 alerts := by
  have hafter : ∀ (stored : Bool) (st : Nat × GlobalState), accepted (((if stored then do
      let _ ← alertsEvaluate id value type timestamp
      pure metricOk
      else pure internalError : Program GlobalState Bytes).disturbed env).run st).1 = true →
        stored = true ∧ ∃ alerts ≤ 1, ReportFrame id ((if stored then do
          let _ ← alertsEvaluate id value type timestamp
          pure metricOk
          else pure internalError : Program GlobalState Bytes).sections env st) 0 alerts := by
    intro stored st hstored
    cases stored with
    | false => cases hstored
    | true =>
      refine ⟨rfl, ?_⟩
      simp only [if_true, sections_bind, sections_pure, List.append_nil]
      exact reportFrame_evaluate value type timestamp
  simp only [recordMetric, disturbed_bind, run_bind] at hresp
  simp only [recordMetric, sections_bind]
  obtain ⟨hadd, alerts, hle, heval⟩ := hafter _ _ hresp
  obtain ⟨m, hm⟩ := reports_addMetric hadd
  exact ⟨0 + alerts, by omega, reportFrame_append (reportFrame_one hm) heval⟩

theorem reportFrame_handle {command valueStr timestamp : Bytes}
    (hresp : accepted (((handleMetric [command, id, valueStr, timestamp]).disturbed env).run st).1 =
      true) : ∃ alerts ≤ 1,
        ReportFrame id ((handleMetric [command, id, valueStr, timestamp]).sections env st) 1 alerts := by
  unfold handleMetric at hresp ⊢
  simp only [disturbed_bind, run_bind, run_disturbed_call] at hresp
  simp only [sections_bind, sections_call, run_disturbed_call]
  cases hcheck : checkMetric valueStr timestamp (stateFindSensor id (env st.1 st.2)).1 with
  | error resp =>
    have hmem := checkMetric_error hcheck
    have hrefused : ∀ resp ∈ [sensorNotFound, sensorNotRegistered, invalidValue, badRequest],
        accepted resp = false := by decide
    rw [hcheck] at hresp
    simp only [disturbed_pure, run_pure, hrefused resp hmem, Bool.false_eq_true] at hresp
  | ok checked =>
    rw [hcheck] at hresp
    obtain ⟨alerts, hle, hrecord⟩ := reportFrame_record checked.1 timestamp checked.2 hresp
    have hfind : ReportFrame id [(env st.1 st.2, env st.1 st.2)] 0 0 :=
      reportFrame_one (reports_same (env st.1 st.2))
    exact ⟨0 + alerts, by omega, reportFrame_append hfind hrecord⟩

end Metric

section NamedSlot
variable {id : Bytes} {i : Fin maxSensors}

theorem namesSlot_report (timestamp : Bytes) : KeptByReport (NamesSlot id i) id timestamp where
  addMetric value typeStr _ hg := hg.exec (.addMetric id value timestamp typeStr)
  addAlert value threshold typeStr message _ hg :=
    hg.exec (.addAlert id value threshold timestamp typeStr message)
  setLevel level _ hg := hg.exec (.setAlertLevel id level)

/-- The sections of an accepted METRIC find the sensor in one and the same slot. -/
theorem metric_slot {command valueStr timestamp : Bytes} {others : Nat → List StateCall}
    {st : Nat × GlobalState} (ht : TableOk st.2)
    (hresp : accepted (((handleMetric [command, id, valueStr, timestamp]).disturbed
      (interference others)).run st).1 = true) :
    ∃ i, ∀ q ∈ (handleMetric [command, id, valueStr, timestamp]).sections (interference others) st,
      q.1.slotOf id = some i := by
  unfold handleMetric at hresp ⊢
  simp only [disturbed_bind, run_bind, run_disturbed_call] at hresp
  simp only [sections_bind, sections_call, run_disturbed_call, List.singleton_append,
    List.mem_cons, forall_eq_or_imp]
  obtain ⟨htable, -⟩ := interference_extends others st.1 ht
  cases hcheck : checkMetric valueStr timestamp
      (stateFindSensor id (interference others st.1 st.2)).1 with
  | error resp =>
    have hrefused : ∀ resp ∈ [sensorNotFound, sensorNotRegistered, invalidValue, badRequest],
        accepted resp = false := by decide
    rw [hcheck] at hresp
    simp only [disturbed_pure, run_pure, hrefused resp (checkMetric_error hcheck),
      Bool.false_eq_true] at hresp
  | ok checked =>
    obtain ⟨i, s, hfound, -⟩ := checkMetric_ok hcheck
    obtain ⟨j, hs, hj⟩ := Option.map_eq_some_iff.mp hfound
    have hnamed : NamesSlot id j (interference others st.1 st.2) := ⟨htable, hs⟩
    refine ⟨j, hs, fun q hq => ?_⟩
    have hkept : Ensures (NamesSlot id j) (fun _ => True)
        (recordMetric id checked.1 timestamp checked.2) :=
      (namesSlot_report timestamp).record trivial trivial checked.1 checked.2
    exact ((hkept.sections (fun k g hg => hg.interference others k) hnamed) q hq).1.found

end NamedSlot

/-! ## Refused commands -/

section Refused
variable {env : Nat → GlobalState → GlobalState} {st : Nat × GlobalState}

theorem unchanged_register {ts : List Bytes}
    (hresp : accepted (((handleRegister ts).disturbed env).run st).1 = false) :
    ∀ q ∈ (handleRegister ts).sections env st, q.2 = q.1 := by
  unfold handleRegister at hresp ⊢
  split
  · rename_i command id typeStr
    split
    · exact fun q hq => (by cases hq)
    · rename_i htype
      simp only [if_neg htype, disturbed_bind, run_bind, run_disturbed_call, disturbed_pure,
        run_pure] at hresp
      simp only [sections_bind, sections_call, sections_pure, List.append_nil, List.mem_singleton]
      rintro q rfl
      rcases stateRegisterSensor_cases id (sensorTypeFromStr typeStr) (env st.1 st.2) with ⟨-, h⟩ |
        ⟨i, -, -, -, h⟩ | ⟨i, -, -, -, h⟩ | ⟨-, -, -, h⟩ | ⟨i, -, -, -, h⟩
      · rw [h]
      · rw [h, (accepted_registerReply_iff id .ok).mpr rfl] at hresp
        cases hresp
      · rw [h]
      · rw [h]
      · rw [h, (accepted_registerReply_iff id .ok).mpr rfl] at hresp
        cases hresp
  · exact fun q hq => (by cases hq)

theorem unchanged_addMetric {g : GlobalState} {id timestamp typeStr : Bytes} {value : Double}
    (h : (stateAddMetric id value timestamp typeStr g).1 = false) :
    (stateAddMetric id value timestamp typeStr g).2 = g := by
  cases hs : g.slotOf id with
  | none => rw [stateAddMetric_missing hs]
  | some i =>
    rw [stateAddMetric_found hs] at h
    cases h

theorem unchanged_record {id timestamp : Bytes} {value : Double} {type : SensorType}
    (hresp : accepted (((recordMetric id value timestamp type).disturbed env).run st).1 = false) :
    ∀ q ∈ (recordMetric id value timestamp type).sections env st, q.2 = q.1 := by
  have hafter : ∀ (stored : Bool) (st : Nat × GlobalState), accepted (((if stored then do
      let _ ← alertsEvaluate id value type timestamp
      pure metricOk
      else pure internalError : Program GlobalState Bytes).disturbed env).run st).1 = false →
        stored = false ∧ (if stored then do
          let _ ← alertsEvaluate id value type timestamp
          pure metricOk
          else pure internalError : Program GlobalState Bytes).sections env st = [] := by
    intro stored st hstored
    cases stored with
    | false => exact ⟨rfl, rfl⟩
    | true =>
      simp only [if_true, disturbed_bind, run_bind, disturbed_pure, run_pure] at hstored
      cases hstored
  simp only [recordMetric, disturbed_bind, run_bind] at hresp
  simp only [recordMetric, sections_bind]
  obtain ⟨hadd, hnone⟩ := hafter _ _ hresp
  rw [hnone, List.append_nil]
  intro q hq
  rw [List.mem_singleton.mp hq]
  exact unchanged_addMetric hadd

theorem unchanged_metric {ts : List Bytes}
    (hresp : accepted (((handleMetric ts).disturbed env).run st).1 = false) :
    ∀ q ∈ (handleMetric ts).sections env st, q.2 = q.1 := by
  unfold handleMetric at hresp ⊢
  split
  · rename_i command id valueStr timestamp
    simp only [disturbed_bind, run_bind, run_disturbed_call] at hresp
    simp only [sections_bind, sections_call, run_disturbed_call, List.singleton_append,
      List.mem_cons, forall_eq_or_imp]
    refine ⟨rfl, ?_⟩
    cases hcheck : checkMetric valueStr timestamp (stateFindSensor id (env st.1 st.2)).1 with
    | error resp => exact fun q hq => (by cases hq)
    | ok checked =>
      rw [hcheck] at hresp
      exact unchanged_record hresp
  · exact fun q hq => (by cases hq)

theorem unchanged_status (ts : List Bytes) :
    ∀ q ∈ (handleStatus ts).sections env st, q.2 = q.1 := by
  unfold handleStatus
  split
  · simp only [sections_bind, sections_call, sections_pure, List.append_nil, List.mem_singleton]
    rintro q rfl
    rfl
  · exact fun q hq => (by cases hq)

theorem unchanged_ping (ts : List Bytes) : ∀ q ∈ (handlePing ts).sections env st, q.2 = q.1 := by
  unfold handlePing
  split <;> exact fun q hq => (by cases hq)

/-- A QUIT enters one critical section at most, and changes at most the status of one slot. -/
theorem quit_sections (ts : List Bytes) : (handleQuit ts).sections env st = [] ∨
    ∃ q, (handleQuit ts).sections env st = [q] ∧ accepted (((handleQuit ts).disturbed env).run st).1.1 =
      true ∧ (q.2 = q.1 ∨ ∃ i, q.2 = q.1.setSensor i { q.1.sensors i with status := .inactive }) := by
  unfold handleQuit
  split
  · rename_i command id
    simp only [sections_bind, sections_call, sections_pure, List.append_nil]
    refine Or.inr ⟨_, rfl, rfl, ?_⟩
    simp only [stateDeactivateSensor]
    cases hs : (env st.1 st.2).slotOf id with
    | none => exact Or.inl (by rw [updateSensor_missing hs])
    | some i => exact Or.inr ⟨i, by rw [updateSensor_found hs]⟩
  · exact Or.inl rfl

theorem unchanged_quit {ts : List Bytes}
    (hresp : accepted (((handleQuit ts).disturbed env).run st).1.1 = false) :
    ∀ q ∈ (handleQuit ts).sections env st, q.2 = q.1 := by
  rcases quit_sections ts with h | ⟨q, -, hok, -⟩
  · rw [h]
    exact fun q hq => (by cases hq)
  · rw [hok] at hresp
    cases hresp

theorem sections_staying (p : Program GlobalState Bytes) :
    (staying p).sections env st = p.sections env st := by
  simp only [staying, sections_bind, sections_pure, List.append_nil]

theorem reply_staying (p : Program GlobalState Bytes) :
    (((staying p).disturbed env).run st).1.1 = ((p.disturbed env).run st).1 := by
  simp only [staying, disturbed_bind, run_bind, disturbed_pure, run_pure]

theorem unchanged_tokens {ts : List Bytes}
    (hresp : accepted (((handleTokens ts).disturbed env).run st).1.1 = false) :
    ∀ q ∈ (handleTokens ts).sections env st, q.2 = q.1 := by
  rcases ts with _ | ⟨command, args⟩
  · exact fun q hq => (by cases hq)
  rcases handleTokens_cases command args with ⟨-, h⟩ | ⟨-, h⟩ | ⟨-, h⟩ | ⟨-, h⟩ | ⟨-, h⟩ | ⟨-, h⟩
  · rw [h, reply_staying] at hresp
    rw [h, sections_staying]
    exact unchanged_register hresp
  · rw [h, reply_staying] at hresp
    rw [h, sections_staying]
    exact unchanged_metric hresp
  · rw [h, sections_staying]
    exact unchanged_status _
  · rw [h, sections_staying]
    exact unchanged_ping _
  · rw [h] at hresp ⊢
    exact unchanged_quit hresp
  · rw [h]
    exact fun q hq => (by cases hq)

end Refused

/-! ## Commands that are answered 200 -/

theorem registers_register {id : Bytes} {type : SensorType} {g : GlobalState}
    (h : (stateRegisterSensor id type g).1 = .ok) :
    ∃ i, Registers (g, (stateRegisterSensor id type g).2) i := by
  have hothers : ∀ (i : Fin maxSensors) (s : Sensor), ∀ j, j ≠ i →
      Function.update g.sensors i s j = g.sensors j := fun i s j hj => Function.update_of_ne hj _ _
  rcases stateRegisterSensor_cases id type g with ⟨-, hr⟩ | ⟨i, -, -, hst, hr⟩ | ⟨i, -, -, -, hr⟩ |
    ⟨-, -, -, hr⟩ | ⟨i, -, -, hfree, hr⟩
  · rw [hr] at h
    cases h
  · refine ⟨i, ?_, by rw [hr]; exact hothers i _, by rw [hr]; exact Or.inl rfl, by rw [hr]; rfl,
      by rw [hr]; rfl⟩
    intro hsame
    have hstatus := congrArg Sensor.status hsame
    simp only [hr, setSensor_sensors, Function.update_self, hst, reduceCtorEq] at hstatus
  · rw [hr] at h
    cases h
  · rw [hr] at h
    cases h
  · refine ⟨i, ?_, by rw [hr]; exact hothers i _, by rw [hr]; exact Or.inr rfl, by rw [hr]; rfl,
      by rw [hr]; rfl⟩
    intro hsame
    have hactive := congrArg Sensor.active hsame
    have hunused := SlotTable.not_occupied_of_free hfree
    simp only [hr, setSensor_sensors, Function.update_self, newSensor] at hactive
    rw [← hactive] at hunused
    cases hunused

section Answered
variable {env : Nat → GlobalState → GlobalState} {st : Nat × GlobalState}

theorem register_sections {ts : List Bytes}
    (hresp : accepted (((handleRegister ts).disturbed env).run st).1 = true) :
    ∃ q i, (handleRegister ts).sections env st = [q] ∧ Registers q i := by
  unfold handleRegister at hresp ⊢
  split at hresp
  · rename_i command id typeStr
    by_cases htype : sensorTypeFromStr typeStr = .invalid
    · rw [if_pos htype] at hresp
      cases hresp
    · simp only [if_neg htype, disturbed_bind, run_bind, run_disturbed_call, disturbed_pure,
        run_pure] at hresp
      simp only [if_neg htype, sections_bind, sections_call, sections_pure, List.append_nil]
      obtain ⟨i, hi⟩ := registers_register ((accepted_registerReply_iff id _).mp hresp)
      exact ⟨_, i, rfl, hi⟩
  · cases hresp

end Answered

/-! ## The frame of every command -/

/-- The critical sections that the command in a line enters, each with the state around it. -/
def ownSections (others : Nat → List StateCall) (line : Bytes) (g : GlobalState) :
    List (GlobalState × GlobalState) :=
  (handleLine line).sections (interference others) (0, g)

def ownReply (others : Nat → List StateCall) (line : Bytes) (g : GlobalState) : Bytes :=
  (((handleLine line).disturbed (interference others)).run (0, g)).1.1

/-- What the command in a line may change, by its name and reply. Every state the server
reaches has `TableOk`; it is needed only to see a METRIC find its sensor in the same slot twice. -/
structure CommandFrame (others : Nat → List StateCall) (line : Bytes) (g : GlobalState) : Prop where
  unchanged : accepted (ownReply others line g) = false ∨
    (tokenize line 8).head? = some (ascii "PING") ∨ (tokenize line 8).head? = some (ascii "STATUS") →
      ∀ q ∈ ownSections others line g, q.2 = q.1
  metric : (tokenize line 8).head? = some (ascii "METRIC") →
    accepted (ownReply others line g) = true → ∃ id, (tokenize line 8)[1]? = some id ∧
      (∃ alerts ≤ 1, ReportFrame id (ownSections others line g) 1 alerts) ∧
      (TableOk g → ∃ i, ∀ q ∈ ownSections others line g, q.1.slotOf id = some i)
  quit : (tokenize line 8).head? = some (ascii "QUIT") → ownSections others line g = [] ∨
    ∃ q, ownSections others line g = [q] ∧
      (q.2 = q.1 ∨ ∃ i, q.2 = q.1.setSensor i { q.1.sensors i with status := .inactive })
  register : (tokenize line 8).head? = some (ascii "REGISTER") →
    accepted (ownReply others line g) = true →
      ∃ q i, ownSections others line g = [q] ∧ Registers q i

/-- The tokens of an accepted METRIC. -/
theorem metric_tokens {env : Nat → GlobalState → GlobalState} {st : Nat × GlobalState}
    {ts : List Bytes} (hresp : accepted (((handleMetric ts).disturbed env).run st).1 = true) :
    ∃ command id valueStr timestamp, ts = [command, id, valueStr, timestamp] := by
  unfold handleMetric at hresp
  split at hresp
  · exact ⟨_, _, _, _, rfl⟩
  · cases hresp

/-- Refused commands leave no trace, and accepted ones touch only what they name,
whatever other connections do between their sections. -/
theorem command_framed (others : Nat → List StateCall) (line : Bytes) (g : GlobalState) :
    CommandFrame others line g := by
  have hhead : ∀ {name : Bytes}, (tokenize line 8).head? = some name →
      ∃ args, tokenize line 8 = name :: args := fun h => List.head?_eq_some_iff.mp h
  constructor
  · rintro (hresp | hping | hstatus)
    · exact unchanged_tokens hresp
    · obtain ⟨args, hts⟩ := hhead hping
      unfold ownSections handleLine
      rw [hts, show handleTokens (ascii "PING" :: args) = staying (handlePing _) from rfl,
        sections_staying]
      exact unchanged_ping _
    · obtain ⟨args, hts⟩ := hhead hstatus
      unfold ownSections handleLine
      rw [hts, show handleTokens (ascii "STATUS" :: args) = staying (handleStatus _) from rfl,
        sections_staying]
      exact unchanged_status _
  · intro hmetric hresp
    obtain ⟨args, hts⟩ := hhead hmetric
    unfold ownReply handleLine at hresp
    unfold ownSections handleLine
    rw [hts, show handleTokens (ascii "METRIC" :: args) = staying (handleMetric _) from rfl,
      reply_staying] at hresp
    rw [hts, show handleTokens (ascii "METRIC" :: args) = staying (handleMetric _) from rfl,
      sections_staying]
    obtain ⟨command, id, valueStr, timestamp, harity⟩ := metric_tokens hresp
    rw [harity] at hresp ⊢
    exact ⟨id, rfl, reportFrame_handle hresp, fun ht => metric_slot ht hresp⟩
  · intro hquit
    obtain ⟨args, hts⟩ := hhead hquit
    unfold ownSections handleLine
    rw [hts, show handleTokens (ascii "QUIT" :: args) = handleQuit _ from rfl]
    rcases quit_sections (ascii "QUIT" :: args) with hnone | ⟨q, hq, -, hstatus⟩
    · exact Or.inl hnone
    · exact Or.inr ⟨q, hq, hstatus⟩
  · intro hregister hresp
    obtain ⟨args, hts⟩ := hhead hregister
    unfold ownReply handleLine at hresp
    unfold ownSections handleLine
    rw [hts, show handleTokens (ascii "REGISTER" :: args) = staying (handleRegister _) from rfl,
      reply_staying] at hresp
    rw [hts, show handleTokens (ascii "REGISTER" :: args) = staying (handleRegister _) from rfl,
      sections_staying]
    exact register_sections hresp

end IotMonitoring
