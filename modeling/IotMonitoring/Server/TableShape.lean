import IotMonitoring.Server.StoredIds

/-!
# The shape of the sensor table

What every reachable state says about the table as a whole: the occupied slots
are a prefix counted by `sensorCount`, each holds a name and a real type for
good, and a registration fails for lack of room only when the table is full and
the id is unknown. Ids of any length are covered; they are stored cut.
-/

namespace IotMonitoring

open ByteStrings Binary64
set_option autoImplicit false

/-- The occupied slots are the first `sensorCount`, each with a nonempty id and a real type. -/
structure Shaped (g : GlobalState) : Prop where
  prefix_iff : ∀ i : Fin maxSensors, (g.sensors i).active = true ↔ i.val < g.sensorCount
  count_le : g.sensorCount ≤ maxSensors
  id_ne_nil : ∀ i, (g.sensors i).active = true → (g.sensors i).id.text ≠ []
  id_length : ∀ i, (g.sensors i).active = true → (g.sensors i).id.text.length ≤ 63
  type_mem : ∀ i, (g.sensors i).active = true →
    (g.sensors i).type ∈ [SensorType.temp, .vib, .power]

/-- The table is full and no sensor has the id. -/
def NoRoomFor (g : GlobalState) (id : Bytes) : Prop :=
  ∀ i, (g.sensors i).active = true ∧ (g.sensors i).id.text ≠ id

def Phase.Named : Phase → Prop
  | .register id _ => id ≠ []
  | _ => True

/-- A registration reports a full table exactly when the id is new and there is no free slot. -/
theorem tableFull_iff {g : GlobalState} (ht : TableOk g) (id : Bytes) {type : SensorType}
    (htype : type ≠ .invalid) :
    (stateRegisterSensor id type g).1 = .tableFull ↔ NoRoomFor g id := by
  have hmissing : g.slotOf id = none ↔
      ∀ i, (g.sensors i).active = true → (g.sensors i).id.text ≠ id := SlotTable.find_eq_none_iff
  have hfull : g.freeSlot = none ↔ ∀ i, (g.sensors i).active = true := by
    rw [GlobalState.freeSlot, SlotTable.free_eq_none_iff_full ht.packed]
    constructor
    · intro hcount i
      exact (ht.packed i).mpr (Nat.lt_of_lt_of_le i.isLt hcount)
    · intro hall
      have hlast := (ht.packed ⟨63, by decide⟩).mp (hall _)
      exact hlast
  constructor
  · intro hr
    rcases stateRegisterSensor_cases id type g with ⟨hinv, -⟩ | ⟨i, -, -, -, h⟩ | ⟨i, -, -, -, h⟩ |
      ⟨-, hs, hf, -⟩ | ⟨i, -, -, -, h⟩
    · exact absurd hinv htype
    · rw [h] at hr
      cases hr
    · rw [h] at hr
      cases hr
    · intro i
      have hi := hfull.mp hf i
      exact ⟨hi, hmissing.mp hs i hi⟩
    · rw [h] at hr
      cases hr
  · intro hno
    have hs : g.slotOf id = none := hmissing.mpr fun i _ => (hno i).2
    have hf : g.freeSlot = none := hfull.mpr fun i => (hno i).1
    simp only [stateRegisterSensor, if_neg htype, hs, hf]

namespace System
variable {n : Nat}

structure NamedOk (s : System n) : Prop where
  ok : SystemOk s
  ids : ∀ i, (s.g.sensors i).active = true → (s.g.sensors i).id.text ≠ []
  phases : ∀ c φ, s.conn c = .busy φ → φ.Named

theorem namedOk_run {s : System n} {actions : List (Action n)}
    (hrun : Runs.run step (init n) actions = some s) : NamedOk s := by
  have h : StoredIdsOk (· ≠ []) s := by
    apply storedIdsOk_run _ _ hrun
    · intro w hw
      obtain ⟨c, cs, rfl⟩ := List.exists_cons_of_ne_nil hw
      exact List.cons_ne_nil _ _
    · exact fun line hline w hw => (tokens_spec hw).1.nonempty
  refine ⟨h.ok, h.ids, fun c φ hc => ?_⟩
  have hphase := h.phases c φ hc
  cases φ with
  | register id type => exact hphase
  | _ => trivial

theorem NamedOk.shaped {s : System n} (h : NamedOk s) : Shaped s.g where
  prefix_iff := h.ok.table.packed
  count_le := h.ok.table.count_le
  id_ne_nil := h.ids
  id_length := fun i _ => Nat.le_of_lt_succ (s.g.sensors i).id.length_lt
  type_mem := by
    intro i hi
    have hvalid := h.ok.table.typed i hi
    cases hty : (s.g.sensors i).type with
    | invalid => exact absurd hty hvalid
    | _ => decide

theorem extends_run {s s' : System n} {more : List (Action n)}
    (hrun : Runs.run step s more = some s') : Extends s.g s'.g :=
  Runs.invariant_run (I := fun t => Extends s.g t.g)
    (fun he hstep => he.trans (extends_step hstep)) (Extends.refl s.g) hrun

/-- In every reachable state the table is well shaped, every occupied slot stays occupied with its
id and type whatever happens next, and every registration about to be made, and any other of a real
type, reports a full table exactly when there is none of that id and no room for it. -/
theorem table_shaped {s : System n} {actions : List (Action n)}
    (hrun : Runs.run step (init n) actions = some s) :
    Shaped s.g ∧
    (∀ more s', Runs.run step s more = some s' → Extends s.g s'.g) ∧
    (∀ c id type, s.conn c = .busy (.register id type) →
      ((stateRegisterSensor id type s.g).1 = .tableFull ↔ NoRoomFor s.g id)) ∧
    ∀ id type, type ≠ .invalid →
      ((stateRegisterSensor id type s.g).1 = .tableFull ↔ NoRoomFor s.g id) := by
  have h := namedOk_run hrun
  refine ⟨h.shaped, fun more s' hmore => extends_run hmore, ?_, ?_⟩
  · intro c id type hc
    exact tableFull_iff h.ok.table id (h.ok.phases c _ hc).1
  · intro id type htype
    exact tableFull_iff h.ok.table id htype

/-- Two sensors are registered, one under an id of 70 bytes. -/
theorem table_shaped_twoSensors :
    ∃ s : System 1, Runs.run step (init 1)
        [.connect 0, .receive 0 (ascii "REGISTER s1 TEMP"), .proceed 0,
          .receive 0 (ascii "REGISTER " ++ List.replicate 70 97 ++ ascii " VIB"), .proceed 0] =
          some s ∧
      s.g.sensorCount = 2 ∧ Shaped s.g := by
  have h : (Runs.run step (init 1)
      [.connect 0, .receive 0 (ascii "REGISTER s1 TEMP"), .proceed 0,
        .receive 0 (ascii "REGISTER " ++ List.replicate 70 97 ++ ascii " VIB"), .proceed 0]).map
      (fun s => s.g.sensorCount) = some 2 := by decide +kernel
  obtain ⟨s, hs, hcount⟩ := Option.map_eq_some_iff.mp h
  exact ⟨s, hs, hcount, (table_shaped hs).1⟩

end System

end IotMonitoring
