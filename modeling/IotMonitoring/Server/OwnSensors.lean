import IotMonitoring.Server.AcceptedMetrics
import IotMonitoring.Server.Frames
import IotMonitoring.Server.Identity

/-!
# A sensor that one connection names

While the other connections call nothing about an id, the sensor found under it
belongs to the connection that registered it. `Does` is the triple for such a
connection: from a state where the sensor is `s`, whatever the others do between
the sections, the program returns its result, leaves the sensor as `s'`, writes
to no other slot, and appends these metrics and alerts. The rules compose the
triples of the operations to that of a whole connection.
-/

namespace IotMonitoring

open ByteStrings Binary64
set_option autoImplicit false

/-- The calls of the other connections name other sensors. -/
def Elsewhere (id : Bytes) (others : Nat → List StateCall) : Prop :=
  ∀ k, ∀ call ∈ others k, call.names ≠ id

/-- The sensor with the id is `s`, in slot `i`. -/
structure Holds (id : Bytes) (i : Fin maxSensors) (s : Sensor) (g : GlobalState) : Prop
    extends NamesSlot id i g where
  sensor : g.sensors i = s

/-- A section writes to no slot but `i` and appends these. -/
structure Effect (i : Fin maxSensors) (q : GlobalState × GlobalState)
    (appended : List Metric × List Alert) : Prop where
  others : ∀ j, j ≠ i → q.2.sensors j = q.1.sensors j
  metrics : q.2.metrics = appended.1.foldl CircularTable.push q.1.metrics
  alerts : q.2.alerts = appended.2.foldl CircularTable.push q.1.alerts

/-- The sections write to no slot but `i` and append these, one after the other. -/
def Appends (i : Fin maxSensors) (secs : List (GlobalState × GlobalState)) (metrics : List Metric)
    (alerts : List Alert) : Prop :=
  ∃ effects : List (List Metric × List Alert), List.Forall₂ (Effect i) secs effects ∧
    effects.flatMap Prod.fst = metrics ∧ effects.flatMap Prod.snd = alerts

theorem appends_nil (i : Fin maxSensors) : Appends i [] [] [] := ⟨[], .nil, rfl, rfl⟩

theorem appends_append {i : Fin maxSensors} {s₁ s₂ : List (GlobalState × GlobalState)}
    {m₁ m₂ : List Metric} {a₁ a₂ : List Alert} (h₁ : Appends i s₁ m₁ a₁)
    (h₂ : Appends i s₂ m₂ a₂) : Appends i (s₁ ++ s₂) (m₁ ++ m₂) (a₁ ++ a₂) := by
  obtain ⟨e₁, hall₁, rfl, rfl⟩ := h₁
  obtain ⟨e₂, hall₂, rfl, rfl⟩ := h₂
  exact ⟨e₁ ++ e₂, List.rel_append hall₁ hall₂, List.flatMap_append, List.flatMap_append⟩

theorem appends_one {i : Fin maxSensors} {q : GlobalState × GlobalState} {ms : List Metric}
    {as : List Alert} (h : Effect i q (ms, as)) : Appends i [q] ms as :=
  ⟨[(ms, as)], .cons h .nil, by simp, by simp⟩

theorem Holds.exec {id : Bytes} {i : Fin maxSensors} {s : Sensor} {g : GlobalState}
    (h : Holds id i s g) {call : StateCall} (hne : call.names ≠ id) : Holds id i s (call.exec g) :=
  ⟨h.toNamesSlot.exec call, (exec_other h.found hne).trans h.sensor⟩

/-! ## Triples -/

section
variable {others : Nat → List StateCall} {id : Bytes} {i : Fin maxSensors}

theorem Holds.interference (helse : Elsewhere id others) {s : Sensor} {g : GlobalState}
    (h : Holds id i s g) (k : Nat) : Holds id i s (interference others k g) := by
  have hcalls := helse k
  unfold IotMonitoring.interference
  generalize others k = calls at hcalls ⊢
  induction calls generalizing g with
  | nil => exact h
  | cons call calls ih =>
    exact ih (h.exec (hcalls call List.mem_cons_self))
      fun c hc => hcalls c (List.mem_cons_of_mem _ hc)

variable (others id i)

/-- The run of a program from `st`, with what it appends. -/
structure Done {α : Type} (p : Program GlobalState α) (st : Nat × GlobalState) (a : α) (s : Sensor)
    (metrics : List Metric) (alerts : List Alert) : Prop where
  result : ((p.disturbed (interference others)).run st).1 = a
  holds : Holds id i s ((p.disturbed (interference others)).run st).2.2
  appends : Appends i (p.sections (interference others) st) metrics alerts

/-- The triple of a program, from every state in which the sensor is `s`. -/
def Does {α : Type} (s : Sensor) (p : Program GlobalState α) (a : α) (s' : Sensor)
    (metrics : List Metric) (alerts : List Alert) : Prop :=
  ∀ st : Nat × GlobalState, Holds id i s st.2 → Done others id i p st a s' metrics alerts

variable {others id i} {α β : Type} {s s₁ s' : Sensor} {m₁ m₂ : List Metric} {a₁ a₂ : List Alert}

theorem does_pure (a : α) : Does others id i s (pure a) a s [] [] :=
  fun _ h => ⟨rfl, h, appends_nil i⟩

theorem Done.bind {p : Program GlobalState α} {f : α → Program GlobalState β}
    {st : Nat × GlobalState} {a : α} {b : β} (hp : Done others id i p st a s₁ m₁ a₁)
    (hf : Does others id i s₁ (f a) b s' m₂ a₂) :
    Done others id i (p >>= f) st b s' (m₁ ++ m₂) (a₁ ++ a₂) := by
  obtain ⟨rfl, hholds, happends⟩ := hp
  have hdone := hf _ hholds
  constructor
  · rw [Program.disturbed_bind, Program.run_bind]
    exact hdone.result
  · rw [Program.disturbed_bind, Program.run_bind]
    exact hdone.holds
  · rw [Program.sections_bind]
    exact appends_append happends hdone.appends

theorem does_bind {p : Program GlobalState α} {f : α → Program GlobalState β} {a : α} {b : β}
    (hp : Does others id i s p a s₁ m₁ a₁) (hf : Does others id i s₁ (f a) b s' m₂ a₂) :
    Does others id i s (p >>= f) b s' (m₁ ++ m₂) (a₁ ++ a₂) :=
  fun st h => (hp st h).bind hf

/-- What is returned in the end is computed without a section. -/
theorem Done.map {p : Program GlobalState α} {f : α → β} {st : Nat × GlobalState} {a : α}
    (hp : Done others id i p st a s' m₁ a₁) :
    Done others id i (p >>= fun x => pure (f x)) st (f a) s' m₁ a₁ := by
  have h := hp.bind (f := fun x => pure (f x)) (does_pure (f a))
  rw [List.append_nil, List.append_nil] at h
  exact h

theorem done_staying {p : Program GlobalState Bytes} {st : Nat × GlobalState} {resp : Bytes}
    (hp : Done others id i p st resp s' m₁ a₁) :
    Done others id i (staying p) st (resp, false) s' m₁ a₁ := hp.map

/-- A critical section that does so in every state with the sensor. -/
theorem does_call (helse : Elsewhere id others) {op : GlobalState → α × GlobalState} {a : α}
    (h : ∀ g, Holds id i s g → (op g).1 = a ∧ Holds id i s' (op g).2 ∧ Effect i (g, (op g).2) (m₁, a₁)) :
    Does others id i s (Program.call op) a s' m₁ a₁ := by
  intro st hst
  obtain ⟨hresult, hholds, heffect⟩ := h _ (hst.interference helse st.1)
  exact ⟨hresult, hholds, appends_one heffect⟩

/-! ## The operations -/

section
variable (helse : Elsewhere id others)
include helse

/-- An update of the sensor found. -/
theorem does_update {f : Sensor → Sensor} (hf : ∀ x, SameIdentity x (f x)) :
    Does others id i s (Program.call (GlobalState.updateSensor id f)) true (f s) [] [] := by
  apply does_call helse
  rintro g ⟨⟨htable, hfound⟩, rfl⟩
  have hchange := updateSensor_change id f hf g
  rw [updateSensor_found hfound] at hchange ⊢
  refine ⟨rfl, ⟨⟨htable.change hchange, ?_⟩, Function.update_self _ _ _⟩, ?_⟩
  · exact slotOf_extends htable hchange.extends hfound
  · exact ⟨fun j hj => Function.update_of_ne hj _ _, rfl, rfl⟩

theorem does_find : Does others id i s (Program.call (stateFindSensor id)) (some (i, s)) s [] [] := by
  apply does_call helse
  rintro g ⟨⟨htable, hfound⟩, rfl⟩
  refine ⟨?_, ⟨⟨htable, hfound⟩, rfl⟩, fun _ _ => rfl, rfl, rfl⟩
  rw [stateFindSensor, hfound, Option.map_some]

theorem does_addMetric (value : Double) (timestamp typeStr : Bytes) :
    Does others id i s (Program.call (stateAddMetric id value timestamp typeStr)) true
      { s with lastValue := value, lastTimestamp := safeStrncpy timestamp }
      [⟨safeStrncpy id, value, safeStrncpy timestamp, safeStrncpy typeStr⟩] [] := by
  apply does_call helse
  rintro g ⟨⟨htable, hfound⟩, rfl⟩
  have hchange := exec_sensors (.addMetric id value timestamp typeStr) g
  simp only [StateCall.exec] at hchange
  rw [stateAddMetric_found hfound] at hchange ⊢
  refine ⟨rfl, ⟨⟨htable.change hchange, ?_⟩, Function.update_self _ _ _⟩, ?_⟩
  · exact slotOf_extends htable hchange.extends hfound
  · exact ⟨fun j hj => Function.update_of_ne hj _ _, rfl, rfl⟩

theorem does_addAlert (value threshold : Double) (timestamp typeStr message : Bytes) :
    Does others id i s (Program.call (stateAddAlert id value threshold timestamp typeStr message)) ()
      s [] [⟨safeStrncpy id, value, threshold, safeStrncpy timestamp, safeStrncpy typeStr,
        safeStrncpy message⟩] := by
  apply does_call helse
  rintro g ⟨⟨htable, hfound⟩, rfl⟩
  have hchange := exec_sensors (.addAlert id value threshold timestamp typeStr message) g
  exact ⟨rfl, ⟨⟨htable.change hchange, slotOf_extends htable hchange.extends hfound⟩, rfl⟩,
    fun _ _ => rfl, rfl, rfl⟩

theorem does_setLevel (level : AlertLevel) :
    Does others id i s (Program.call (stateSetAlertLevel id level)) true
      { s with alertLevel := level } [] [] :=
  does_update helse fun _ => ⟨rfl, rfl, rfl⟩

theorem does_deactivate : Does others id i s (Program.call (stateDeactivateSensor id)) true
    { s with status := .inactive } [] [] :=
  does_update helse fun _ => ⟨rfl, rfl, rfl⟩

end

end

/-! ## Readings -/

/-- A reading as the server takes it from a line. -/
structure Report where
  value : Double
  timestamp : Bytes

namespace Report

def metric (id : Bytes) (type : SensorType) (r : Report) : Metric :=
  ⟨safeStrncpy id, r.value, safeStrncpy r.timestamp, safeStrncpy (sensorTypeToStr type)⟩

/-- The alert of a reading, if it is anomalous. -/
def alert? (id : Bytes) (type : SensorType) (r : Report) : Option Alert :=
  (anomaly type r.value).map fun crossed => ⟨safeStrncpy id, r.value, crossed.1,
    safeStrncpy r.timestamp, safeStrncpy (sensorTypeToStr type), safeStrncpy crossed.2⟩

/-- The record of the sensor after the reading. -/
def onto (r : Report) (s : Sensor) : Sensor := { s with
  lastValue := r.value, lastTimestamp := safeStrncpy r.timestamp
  alertLevel := levelOf s.type r.value }

theorem alert?_isSome (id : Bytes) (type : SensorType) (r : Report) :
    (r.alert? id type).isSome = true ↔ Anomalous type r.value := by
  rw [alert?, Option.isSome_map, anomaly_isSome_iff]

/-- A METRIC line of the id that brings this reading. -/
structure In (r : Report) (id line : Bytes) : Prop where
  tokens : ∃ valueStr, tokenize line 8 = [ascii "METRIC", id, valueStr, r.timestamp] ∧
    parseDouble valueStr = some r.value
  time : isValidTimestamp r.timestamp = true

end Report

/-! ## Commands about the id -/

section
variable {others : Nat → List StateCall} {id : Bytes} {i : Fin maxSensors}
variable (helse : Elsewhere id others) {s : Sensor} {r : Report} {line : Bytes}
include helse

theorem does_evaluate (type : SensorType) (r : Report) :
    Does others id i s (alertsEvaluate id r.value type r.timestamp) (anomaly type r.value).isSome
      { s with alertLevel := levelOf type r.value } [] (r.alert? id type).toList := by
  have hlevel : levelOf type r.value = if (anomaly type r.value).isSome then .alert else .normal := by
    rw [levelOf]
    exact if_congr (anomaly_isSome_iff type r.value).symm rfl rfl
  rw [hlevel, Report.alert?]
  unfold alertsEvaluate
  cases anomaly type r.value with
  | none => exact fun st h => (does_setLevel helse .normal st h).map
  | some crossed =>
    intro st h
    have hadd := does_addAlert (i := i) (s := s) helse r.value crossed.1 r.timestamp
      (sensorTypeToStr type) crossed.2
    exact (hadd st h).bind fun st' h' => (does_setLevel helse .alert st' h').map

theorem does_metric {command valueStr : Bytes} (hactive : s.status = .active)
    (hvalue : parseDouble valueStr = some r.value) (htime : isValidTimestamp r.timestamp = true) :
    Does others id i s (handleMetric [command, id, valueStr, r.timestamp]) metricOk (r.onto s)
      [r.metric id s.type] (r.alert? id s.type).toList := by
  have hcheck : checkMetric valueStr r.timestamp (some (i, s)) = .ok (r.value, s.type) := by
    have hnot : ¬ s.status ≠ .active := not_not.mpr hactive
    simp only [checkMetric, if_neg hnot, hvalue, htime, if_true]
  refine does_bind (does_find helse) ?_
  simp only [hcheck]
  have hadd := does_addMetric (i := i) (s := s) helse r.value r.timestamp (sensorTypeToStr s.type)
  refine does_bind hadd fun st h => ?_
  exact (does_evaluate helse s.type r st h).map

/-- The reading in a METRIC line is stored and judged. -/
theorem does_report (hactive : s.status = .active) (hin : r.In id line) :
    Does others id i s (handleLine line) (metricOk, false) (r.onto s) [r.metric id s.type]
      (r.alert? id s.type).toList := by
  obtain ⟨valueStr, htokens, hvalue⟩ := hin.tokens
  intro st h
  rw [handleLine, htokens]
  exact done_staying (does_metric helse hactive hvalue hin.time st h)

theorem does_quit (htokens : tokenize line 8 = [ascii "QUIT", id]) :
    Does others id i s (handleLine line) (bye, true) { s with status := .inactive } [] [] := by
  intro st h
  rw [handleLine, htokens]
  exact (does_deactivate helse st h).map

omit helse in
/-- A REGISTER that succeeds leaves an ACTIVE sensor of its type, unless the id was known under
another one. -/
theorem done_register {typeStr : Bytes} (st : Nat × GlobalState) (htable : TableOk st.2)
    (htokens : tokenize line 8 = [ascii "REGISTER", id, typeStr])
    (hz : (0 : UInt8) ∉ id) (hfits : id.length < maxIdLen)
    (hok : (stateRegisterSensor id (sensorTypeFromStr typeStr)
      (interference others st.1 st.2)).1 = .ok)
    (hsame : ∀ i, (interference others st.1 st.2).slotOf id = some i →
      ((interference others st.1 st.2).sensors i).type = sensorTypeFromStr typeStr) :
    ∃ i s, s.status = .active ∧ s.type = sensorTypeFromStr typeStr ∧
      Done others id i (handleLine line) st (registered id, false) s [] [] := by
  generalize htype : sensorTypeFromStr typeStr = type at hok hsame
  generalize hg : interference others st.1 st.2 = g at hok hsame
  have ht : TableOk g := hg ▸ (interference_extends others st.1 htable).1
  have hsome := (event_register_isSome id type g).mpr hok
  obtain ⟨e, he⟩ := Option.isSome_iff_exists.mp hsome
  obtain ⟨i, rfl, hvalid, hslot, hsens⟩ := event_register he
  obtain ⟨hfound, hactive⟩ := slotOf_registered ht he fun _ => newSensor_id type hz hfits
  have hkept : (((StateCall.register id type).exec g).sensors i).type = type := by
    simp only [StateCall.exec, hsens, Function.update_self]
    rcases hslot with ⟨hs, -⟩ | ⟨-, hfree⟩
    · rw [written_again (slotOf_occupied hs)]
      exact hsame i hs
    · rw [written_new hfree]
      rfl
  have heffect : Effect i (g, (stateRegisterSensor id type g).2) ([], []) := by
    refine ⟨fun j hj => ?_, ?_, ?_⟩
    · rw [hsens]
      exact Function.update_of_ne hj _ _
    · exact (stateRegisterSensor_tables id type g).1
    · exact (stateRegisterSensor_tables id type g).2
  have hdone : Done others id i (Program.call (stateRegisterSensor id type)) st .ok
      (((StateCall.register id type).exec g).sensors i) [] [] := by
    refine ⟨?_, ?_, ?_⟩
    · rw [Program.run_disturbed_call, hg]
      exact hok
    · rw [Program.run_disturbed_call, hg]
      exact ⟨⟨tableOk_exec ht (.register id type), hfound⟩, rfl⟩
    · rw [Program.sections_call, hg]
      exact appends_one heffect
  refine ⟨i, _, hactive, hkept, ?_⟩
  have hprogram : handleLine line = staying (Program.call (stateRegisterSensor id type) >>= fun result =>
      pure (registerReply id result)) := by
    rw [handleLine, htokens]
    change staying (handleRegister [ascii "REGISTER", id, typeStr]) = _
    rw [handleRegister, htype, if_neg hvalid]
  rw [hprogram]
  have hstay := done_staying (hdone.map (f := registerReply id))
  rw [registerReply_ok hfits] at hstay
  exact hstay

end

end IotMonitoring
