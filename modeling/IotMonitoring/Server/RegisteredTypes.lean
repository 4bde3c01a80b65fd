import IotMonitoring.Server.Identity
import IotMonitoring.Server.TableShape

/-!
# The type a registration asks for

A slot keeps the type it was first filled with: `state_register_sensor` sets
the type of a new slot and leaves it alone when it makes a known sensor ACTIVE
again. A registration therefore takes effect exactly when the id fits its field
and was not known under another type.
-/

namespace IotMonitoring

open ByteStrings Binary64
set_option autoImplicit false

/-- What a successful registration leaves under its id. -/
theorem hasType_registered {g : GlobalState} (ht : TableOk g) {id : Bytes} {type : SensorType}
    (hok : (stateRegisterSensor id type g).1 = .ok) (hz : (0 : UInt8) ∉ id)
    (hfits : id.length < maxIdLen) (hknown : ∀ i, g.slotOf id = some i → (g.sensors i).type = type) :
    HasType (stateRegisterSensor id type g).2 id type := by
  have hext : Extends g (stateRegisterSensor id type g).2 := extends_exec (.register id type) g
  rcases stateRegisterSensor_cases id type g with ⟨-, hr⟩ | ⟨i, -, hs, -, hr⟩ | ⟨i, -, -, -, hr⟩ |
    ⟨-, -, -, hr⟩ | ⟨i, -, hs, hfree, hr⟩
  · rw [hr] at hok
    cases hok
  · exact ⟨i, slotOf_extends ht hext hs,
      ((hext i (slotOf_occupied hs)).2.2).trans (hknown i hs)⟩
  · rw [hr] at hok
    cases hok
  · rw [hr] at hok
    cases hok
  · rw [hr]
    refine ⟨i, ?_, ?_⟩
    · exact SlotTable.find_update_key hs rfl (newSensor_id type hz hfits)
    · change (Function.update g.sensors i (newSensor id type) i).type = type
      rw [Function.update_self]
      rfl

/-- A registration under which the type is found had an id that fits, and no other type before. -/
theorem known_of_hasType {g : GlobalState} (ht : TableOk g) {id : Bytes} {type : SensorType}
    (h : HasType (stateRegisterSensor id type g).2 id type) :
    id.length < maxIdLen ∧ ∀ i, g.slotOf id = some i → (g.sensors i).type = type := by
  obtain ⟨j, hj, htype⟩ := h
  have hext : Extends g (stateRegisterSensor id type g).2 := extends_exec (.register id type) g
  refine ⟨slotOf_length hj, fun i hi => ?_⟩
  have hsame := slotOf_extends ht hext hi
  rw [hj] at hsame
  cases hsame
  exact ((hext j (slotOf_occupied hi)).2.2).symm.trans htype

theorem registered_of_reply {id : Bytes} {result : RegisterResult}
    (h : registerReply id result = registered id) : result = .ok := by
  have hhead : ∀ resp ∈ [internalError, sensorAlreadyExists, invalidSensorType],
      ∀ tail, snprintf bufferSize resp ≠ ascii "200 REGISTERED " ++ tail := by
    intro resp hresp tail heq
    have hshort : ∀ resp ∈ [internalError, sensorAlreadyExists, invalidSensorType],
        (snprintf bufferSize resp).take 3 ≠ ascii "200" := by decide
    apply hshort resp hresp
    rw [heq]
    rfl
  cases result with
  | ok => rfl
  | tableFull => exact absurd h (hhead internalError (by simp) id)
  | alreadyExists => exact absurd h (hhead sensorAlreadyExists (by simp) id)
  | invalidType => exact absurd h (hhead invalidSensorType (by simp) id)

namespace System
variable {n : Nat}

/-- The action is a successful REGISTER of the id. -/
def RegistersId (id : Bytes) (s : System n) : Action n → Prop
  | .proceed c => ∃ type, s.conn c = .busy (.register id type) ∧
      (stateRegisterSensor id type s.g).1 = .ok
  | _ => False

/-- A METRIC of the id that gets past its checks is stored with the type and judged by its
thresholds. -/
def JudgedAs (id : Bytes) (type : SensorType) (s : System n) : Prop :=
  ∀ c value timestamp checked s', s.conn c = .busy (.addMetric id value timestamp checked) →
    s.step (.proceed c) = some s' →
      (∃ i, s'.log = .did c (.metricAdded i ⟨safeStrncpy id, value, safeStrncpy timestamp,
        safeStrncpy (sensorTypeToStr type)⟩) :: s.log) ∧
      s'.conn c = .busy (Phase.evaluate id value timestamp type)

/-- The id is found with the type, and until its next successful REGISTER every METRIC of it is
stored and judged as that type. -/
structure TakesEffect (id : Bytes) (type : SensorType) (s : System n) : Prop where
  found : HasType s.g id type
  judged : ∀ more t, Runs.run step s more = some t →
    Runs.Guarded step (fun u a => ¬ u.RegistersId id a) s more → t.JudgedAs id type

theorem settle_evaluate (s : System n) (c : Fin n) (id : Bytes) (value : Double) (timestamp : Bytes)
    (type : SensorType) : (s.settle c (Phase.evaluate id value timestamp type)).log = s.log ∧
      (s.settle c (Phase.evaluate id value timestamp type)).conn c =
        .busy (Phase.evaluate id value timestamp type) := by
  unfold Phase.evaluate
  cases anomaly type value with
  | none => exact ⟨rfl, Function.update_self _ _ _⟩
  | some crossed => exact ⟨rfl, Function.update_self _ _ _⟩

theorem judgedAs_of_hasType {s : System n} (h : SystemOk s) {id : Bytes} {type : SensorType}
    (hfound : HasType s.g id type) : s.JudgedAs id type := by
  intro c value timestamp checked s' hc hstep
  obtain ⟨i, hs, htype⟩ := hfound
  have hchecked : HasType s.g id checked := h.phases c _ hc
  have heq : checked = type := by
    obtain ⟨j, hj, hjtype⟩ := hchecked
    rw [hs] at hj
    cases hj
    exact hjtype.symm.trans htype
  subst heq
  cases step_cases hstep with
  | proceed c φ call hc' hcall =>
    rw [hc] at hc'
    cases hc'
    cases hcall
    rw [next_addMetric hchecked]
    obtain ⟨hlog, hconn⟩ := settle_evaluate (s.execute c (.addMetric id value timestamp
      (sensorTypeToStr checked))) c id value timestamp checked
    refine ⟨⟨i, ?_⟩, hconn⟩
    rw [hlog, execute_log]
    simp only [StateCall.event, hs, Option.map_some, Option.toList_some, List.map_cons,
      List.map_nil, List.singleton_append]

/-- A registration answered 200 REGISTERED takes effect as asked exactly when the id fits its field
and no sensor of another type was known under it. -/
theorem registration_effective_iff {s s' : System n} {actions : List (Action n)} {c : Fin n}
    {id : Bytes} {type : SensorType} (hrun : Runs.run step (init n) actions = some s)
    (hc : s.conn c = .busy (.register id type)) (hstep : s.step (.proceed c) = some s')
    (hreply : s'.log.head? = some (.answered c (registered id))) :
    s'.TakesEffect id type ↔
      id.length < maxIdLen ∧ ∀ i, s.g.slotOf id = some i → (s.g.sensors i).type = type := by
  have h := systemOk_run hrun
  have h' := systemOk_step h hstep
  have hz : (0 : UInt8) ∉ id := (h.phases c _ hc).2
  cases step_cases hstep with
  | proceed c φ call hc' hcall =>
    rw [hc] at hc'
    cases hc'
    cases hcall
    have hok : (stateRegisterSensor id type s.g).1 = .ok := by
      simp only [Phase.next, settle, List.head?_cons, Option.some.injEq, Entry.answered.injEq,
        true_and] at hreply
      exact registered_of_reply hreply
    constructor
    · intro heffect
      have hfound := heffect.found
      rw [settle_g] at hfound
      exact known_of_hasType h.table hfound
    · rintro ⟨hfits, hknown⟩
      have hfound := hasType_registered h.table hok hz hfits hknown
      refine ⟨by rw [settle_g]; exact hfound, fun more t hmore _ => ?_⟩
      have ht := Runs.invariant_run systemOk_step h' hmore
      apply judgedAs_of_hasType ht
      have hext := extends_run hmore
      rw [settle_g] at hext
      exact HasType.extends (by rw [← settle_g]; exact h'.table) hext hfound

deriving instance DecidableEq for Entry

theorem registration_effective_first : ∃ s s' : System 1,
    Runs.run step (init 1) [.connect 0, .receive 0 (ascii "REGISTER s1 TEMP")] = some s ∧
      s.step (.proceed 0) = some s' ∧ s'.TakesEffect (ascii "s1") .temp := by
  have hreply : ((Runs.run step (init 1) [.connect 0, .receive 0 (ascii "REGISTER s1 TEMP")]).bind
      fun s => (s.step (.proceed 0)).map fun s' => s'.log.head?) =
        some (some (.answered 0 (registered (ascii "s1")))) := by decide +kernel
  obtain ⟨s, hs, hreply⟩ := Option.bind_eq_some_iff.mp hreply
  obtain ⟨s', hs', hreply⟩ := Option.map_eq_some_iff.mp hreply
  have hc : ∀ t : System 1, Runs.run step (init 1)
      [.connect 0, .receive 0 (ascii "REGISTER s1 TEMP")] = some t →
        t.conn 0 = .busy (.register (ascii "s1") .temp) := by
    rintro t ht
    cases ht
    rfl
  refine ⟨s, s', hs, hs', (registration_effective_iff hs (hc s hs) hs' hreply).mpr ⟨by decide, ?_⟩⟩
  intro i hi
  have hnone : (Runs.run step (init 1) [.connect 0, .receive 0 (ascii "REGISTER s1 TEMP")]).map
      (fun s => s.g.slotOf (ascii "s1")) = some none := by decide +kernel
  rw [hs] at hnone
  simp only [Option.map_some, Option.some.injEq] at hnone
  rw [hi] at hnone
  cases hnone

/-- A sensor registered as TEMP and quit is asked for again, as VIB. -/
def otherType (c d : Fin n) : List (Action n) :=
  [.connect c, .receive c (ascii "REGISTER s1 TEMP"), .proceed c, .receive c (ascii "QUIT s1"),
    .proceed c, .connect d, .receive d (ascii "REGISTER s1 VIB")]

/-- It is answered 200 REGISTERED, and stays a TEMP sensor. -/
theorem registration_ineffective_otherType : ∃ s s' : System 2,
    Runs.run step (init 2) (otherType 0 1) = some s ∧ s.step (.proceed 1) = some s' ∧
      s'.log.head? = some (.answered 1 (registered (ascii "s1"))) ∧
        ¬ s'.TakesEffect (ascii "s1") .vib := by
  have h : ((Runs.run step (init 2) (otherType 0 1)).bind fun s => (s.step (.proceed 1)).map fun s' =>
      (s'.log.head?, s'.g.slotOf (ascii "s1"), (s'.g.sensors 0).type)) =
        some (some (.answered 1 (registered (ascii "s1"))), some 0, .temp) := by decide +kernel
  obtain ⟨s, hs, h⟩ := Option.bind_eq_some_iff.mp h
  obtain ⟨s', hs', h⟩ := Option.map_eq_some_iff.mp h
  simp only [Prod.mk.injEq] at h
  obtain ⟨hreply, hslot, htype⟩ := h
  refine ⟨s, s', hs, hs', hreply, fun heffect => ?_⟩
  obtain ⟨i, hi, hvib⟩ := heffect.found
  rw [hslot] at hi
  cases hi
  rw [htype] at hvib
  cases hvib

end System

end IotMonitoring
