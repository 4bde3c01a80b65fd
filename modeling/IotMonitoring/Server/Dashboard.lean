import IotMonitoring.Server.AlertHistory
import IotMonitoring.Server.Attribution
import IotMonitoring.Server.Populations
import IotMonitoring.Server.SensorsPage

/-!
# The dashboard

`route_dashboard` reads its four numbers in four critical sections. What they
say together depends on the commands handled in between: `dashboard_consistent_iff`
says for which of them there is a state in which the four numbers hold at once.
-/

namespace IotMonitoring

open ByteStrings Binary64
set_option autoImplicit false

/-! ## The page -/

def dashboardIntro : List String := [
  "<div class='container'>",
  "<div class='hero'>",
  "<section class='hero-panel'>",
  "<div class='eyebrow'>Dashboard operativo</div>",
  "<h1>Estado general de la instalaci&oacute;n</h1>",
  "<p class='hero-copy'>Lectura r&aacute;pida del sistema para turnos operativos: sensores registrados, actividad actual, incidentes y flujo de telemetr&iacute;a acumulado.</p>",
  "</section>",
  "<aside class='hero-panel'>",
  "<div class='eyebrow'>Prioridad</div>",
  "<h2>Foco actual</h2>",
  "<p>Usa Sensores para revisar estado individual, Alertas para incidentes y M&eacute;tricas para la trazabilidad reciente.</p>",
  "<div class='footer-note'>HTTP en 8080 y SMP en 9090 seg&uacute;n configuraci&oacute;n actual del servidor.</div>",
  "</aside>",
  "</div>",
  "<div class='stats'>"]

def dashboardLinks : List String := [
  "</div>",
  "<div class='info-grid'>",
  "<section class='info-card'>",
  "<h2>Lectura recomendada</h2>",
  "<ul>",
  "<li>Si alertas sube y activos cae, revisa desconexiones o QUIT de sensores.</li>",
  "<li>Valores an&oacute;malos actualizan el nivel ALERT del sensor inmediatamente.</li>",
  "<li>El dashboard resume el sistema; el detalle fino est&aacute; en las tablas.</li>",
  "</ul>",
  "</section>",
  "<section class='info-card'>",
  "<h2>Accesos r&aacute;pidos</h2>",
  "<ul>",
  "<li><a class='cta-link' href='/sensors'>Revisar sensores</a></li>",
  "<li><a class='cta-link' href='/alerts'>Abrir alertas</a></li>",
  "<li><a class='cta-link' href='/metrics'>Ver m&eacute;tricas</a></li>",
  "</ul>",
  "</section>",
  "</div>",
  "</div></body></html>"]

/-- One card of the page, with its number, label and note. -/
def dashboardCard (number : Nat) (label delta : String) : Bytes :=
  ascii "<div class='stat-card'>" ++ ascii "  <div class='number'>" ++ decimal number ++
    ascii "</div>" ++ ascii "  <div class='label'>" ++ ascii label ++ ascii "</div>" ++
    ascii "  <div class='delta'>" ++ ascii delta ++ ascii "</div>" ++ ascii "</div>"

def dashboardBody (total active alerts metrics : Nat) : Bytes :=
  snprintf httpResponseMax
    (literal ["<!DOCTYPE html><html><head>", "<meta charset='UTF-8'><title>Dashboard</title>"] ++
      cssStyle ++ ascii "</head><body>" ++ buildNav ++ literal dashboardIntro ++
      dashboardCard total "Sensores Registrados" "Inventario total conocido" ++
      dashboardCard active "Sensores Activos" "Con sesi&oacute;n SMP abierta" ++
      dashboardCard alerts "Alertas Registradas" "Eventos fuera de umbral" ++
      dashboardCard metrics "M&eacute;tricas Recibidas" "Telemetr&iacute;a acumulada" ++
      literal dashboardLinks)

def routeDashboard : Program GlobalState Bytes := do
  let total ← Program.call fun g => (stateGetSensorCount g, g)
  let active ← Program.call fun g => (stateGetActiveSensorCount g, g)
  let alerts ← Program.call fun g => (stateGetAlertCount g, g)
  let metrics ← Program.call fun g => (stateGetMetricCount g, g)
  pure (dashboardBody total active alerts metrics)

/-- The numbers are those of four moments. -/
theorem routeDashboard_body (env : Nat → GlobalState → GlobalState) (g : GlobalState) :
    ((routeDashboard.disturbed env).run (0, g)).1 =
      dashboardBody (stateGetSensorCount (env 0 g)) (stateGetActiveSensorCount (env 1 (env 0 g)))
        (stateGetAlertCount (env 2 (env 1 (env 0 g))))
        (stateGetMetricCount (env 3 (env 2 (env 1 (env 0 g))))) := by
  simp only [routeDashboard, Program.disturbed_bind, Program.run_bind, Program.run_disturbed_call,
    Program.disturbed_pure, Program.run_pure]

/-- The four numbers in one state. -/
structure Shows (g : GlobalState) (total active alerts metrics : Nat) : Prop where
  total : stateGetSensorCount g = total
  active : stateGetActiveSensorCount g = active
  alerts : stateGetAlertCount g = alerts
  metrics : stateGetMetricCount g = metrics

/-- No more active sensors than sensors, and a server can be in a state with the four numbers. -/
def Consistent (total active alerts metrics : Nat) : Prop :=
  active ≤ total ∧ ∃ n, ∃ actions, ∃ s : System n,
    Runs.run System.step (System.init n) actions = some s ∧
      Shows s.g total active alerts metrics

/-! ## What the calls in between do -/

namespace StateCall

/-- The call makes a sensor ACTIVE that was not, or registers a new one. -/
def activates : StateCall → GlobalState → Bool
  | register id type, g => decide ((stateRegisterSensor id type g).1 = .ok)
  | _, _ => false

/-- The call makes an ACTIVE sensor INACTIVE. -/
def retires : StateCall → GlobalState → Bool
  | deactivate id, g => (g.slotOf id).any fun i => decide ((g.sensors i).status = .active)
  | _, _ => false

/-- The call stores a metric. -/
def stores : StateCall → GlobalState → Bool
  | addMetric id _ _ _, g => (g.slotOf id).isSome
  | _, _ => false

end StateCall

/-- The sensor counts as active. -/
def Sensor.counts (s : Sensor) : Bool := s.active && decide (s.status = .active)

/-- What a call does to the number of active sensors. -/
theorem exec_active (c : StateCall) (g : GlobalState) :
    stateGetActiveSensorCount (c.exec g) + (c.retires g).toNat =
      stateGetActiveSensorCount g + (c.activates g).toNat := by
  have hslot : ∀ e i, c.event g = some e → e.slot? = some i →
      ((e.written (g.sensors i)).counts).toNat + (c.retires g).toNat =
        ((g.sensors i).counts).toNat + (c.activates g).toNat →
      stateGetActiveSensorCount (c.exec g) + (c.retires g).toNat =
        stateGetActiveSensorCount g + (c.activates g).toNat := by
    intro e i he hi hone
    have hsensors : (c.exec g).sensors =
        Function.update g.sensors i (e.written (g.sensors i)) := by
      rw [exec_sensors_event, he]
      simp only [hi]
    have hcount := SlotTable.countP_update Sensor.counts g.sensors (e.written (g.sensors i)) i
    rw [← hsensors] at hcount
    simp only [Sensor.counts] at hcount hone
    simp only [stateGetActiveSensorCount]
    omega
  have hsame : (c.exec g).sensors = g.sensors → c.retires g = false → c.activates g = false →
      stateGetActiveSensorCount (c.exec g) + (c.retires g).toNat =
        stateGetActiveSensorCount g + (c.activates g).toNat := by
    intro hsensors hretires hactivates
    rw [stateGetActiveSensorCount, hsensors, hretires, hactivates]
    rfl
  cases c with
  | register id type =>
    cases he : (StateCall.register id type).event g with
    | none =>
      have hnot : (StateCall.register id type).activates g = false := by
        apply decide_eq_false
        rw [← event_register_isSome, he]
        exact Bool.false_ne_true
      exact hsame (congrArg GlobalState.sensors (event_register_none he)) rfl hnot
    | some e =>
      have hok : (StateCall.register id type).activates g = true := by
        apply decide_eq_true
        rw [← event_register_isSome, he]
        rfl
      obtain ⟨i, rfl, -, hbefore, -⟩ := event_register he
      apply hslot _ i he rfl
      rw [hok]
      rcases hbefore with ⟨hs, hinactive⟩ | ⟨-, hfree⟩
      · have hocc := slotOf_occupied hs
        rw [written_again hocc]
        simp only [Sensor.counts, hocc, hinactive, StateCall.retires]
        rfl
      · have hocc : (g.sensors i).active = false := SlotTable.not_occupied_of_free hfree
        rw [written_new hfree]
        simp only [Sensor.counts, hocc, StateCall.retires]
        rfl
  | find id => exact hsame rfl rfl rfl
  | addMetric id value timestamp typeStr =>
    cases hs : g.slotOf id with
    | none =>
      apply hsame _ rfl rfl
      rw [StateCall.exec, stateAddMetric_missing hs]
    | some i =>
      apply hslot _ i (congrArg (Option.map _) hs) rfl
      rfl
  | addAlert id value threshold timestamp typeStr message => exact hsame rfl rfl rfl
  | deactivate id =>
    cases hs : g.slotOf id with
    | none =>
      have hretires : (StateCall.deactivate id).retires g = false := by
        rw [StateCall.retires, hs]
        rfl
      apply hsame _ hretires rfl
      rw [StateCall.exec, stateDeactivateSensor, updateSensor_missing hs]
    | some i =>
      have hocc := slotOf_occupied hs
      have hretires : (StateCall.deactivate id).retires g =
          decide ((g.sensors i).status = .active) := by
        rw [StateCall.retires, hs]
        rfl
      apply hslot (.deactivated id (some i)) i (by rw [StateCall.event, hs]) rfl
      rw [hretires]
      simp only [Sensor.counts, Event.written, hocc, StateCall.activates, Bool.true_and,
        reduceCtorEq, decide_false, Bool.toNat_false]
      omega
  | setAlertLevel id level =>
    cases hs : g.slotOf id with
    | none =>
      apply hsame _ rfl rfl
      rw [StateCall.exec, stateSetAlertLevel, updateSensor_missing hs]
    | some i =>
      apply hslot _ i (congrArg (Option.map _) hs) rfl
      rfl

/-- A call that stores a metric leaves some; another leaves as many as there were. -/
theorem exec_noMetrics (c : StateCall) (g : GlobalState) :
    stateGetMetricCount (c.exec g) = 0 ↔ stateGetMetricCount g = 0 ∧ c.stores g = false := by
  have hsame : (c.exec g).metrics = g.metrics → c.stores g = false →
      (stateGetMetricCount (c.exec g) = 0 ↔ stateGetMetricCount g = 0 ∧ c.stores g = false) := by
    intro hmetrics hstores
    rw [stateGetMetricCount, hmetrics, hstores]
    exact (and_iff_left rfl).symm
  cases c with
  | register id type => exact hsame (stateRegisterSensor_tables id type g).1 rfl
  | find id => exact hsame rfl rfl
  | addMetric id value timestamp typeStr =>
    cases hs : g.slotOf id with
    | none =>
      apply hsame
      · rw [StateCall.exec, stateAddMetric_missing hs]
      · rw [StateCall.stores, hs]
        rfl
    | some i =>
      rw [StateCall.exec, StateCall.stores, stateAddMetric_found hs, hs]
      simp only [stateGetMetricCount, CircularTable.push, Option.isSome_some, reduceCtorEq,
        and_false, iff_false]
      split
      · exact Nat.succ_ne_zero _
      · have hpos : 0 < maxMetrics := by decide
        omega
  | addAlert id value threshold timestamp typeStr message => exact hsame rfl rfl
  | deactivate id => exact hsame (updateSensor_tables id _ g).1 rfl
  | setAlertLevel id level => exact hsame (updateSensor_tables id _ g).1 rfl

namespace System
variable {n : Nat}

/-- The operation an action carries out. -/
def callOf (s : System n) : Action n → Option StateCall
  | .proceed c =>
    match s.conn c with
    | .busy φ => φ.call
    | _ => none
  | _ => none

/-- How many operations of a run satisfy `p` of the state they start in. -/
def countCalls (p : StateCall → GlobalState → Bool) : System n → List (Action n) → Nat
  | _, [] => 0
  | s, a :: actions =>
    ((s.callOf a).elim 0 fun c => (p c s.g).toNat) +
      ((s.step a).map fun s' => countCalls p s' actions).getD 0

theorem countCalls_cons {p : StateCall → GlobalState → Bool} {s s' : System n} {a : Action n}
    (hstep : s.step a = some s') (actions : List (Action n)) : countCalls p s (a :: actions) =
      ((s.callOf a).elim 0 fun c => (p c s.g).toNat) + countCalls p s' actions := by
  rw [countCalls, hstep]
  rfl

/-- A step changes the shared state by its operation. -/
theorem step_callOf {s s' : System n} {a : Action n} (hstep : s.step a = some s') :
    s'.g = (s.callOf a).elim s.g fun c => c.exec s.g := by
  cases step_cases hstep with
  | connect c hc => rfl
  | receive c line hc hline => rw [settle_g]; rfl
  | proceed c φ call hc hcall =>
    rw [settle_g, callOf]
    simp only [hc, hcall]
    rfl
  | disconnect c hc => rfl

/-- Over a run the active sensors change by the calls that make one active or inactive. -/
theorem run_active {s s' : System n} {actions : List (Action n)}
    (hrun : Runs.run step s actions = some s') :
    stateGetActiveSensorCount s'.g + countCalls StateCall.retires s actions =
      stateGetActiveSensorCount s.g + countCalls StateCall.activates s actions := by
  induction actions generalizing s with
  | nil =>
    cases hrun
    rfl
  | cons a actions ih =>
    obtain ⟨t, ht, hrun⟩ := Option.bind_eq_some_iff.mp hrun
    have hrest := ih hrun
    have hg := step_callOf ht
    rw [countCalls_cons ht, countCalls_cons ht]
    cases hcall : s.callOf a with
    | none =>
      rw [hcall] at hg
      simp only [Option.elim] at hg ⊢
      rw [hg] at hrest
      omega
    | some c =>
      have hexec := exec_active c s.g
      rw [hcall] at hg
      simp only [Option.elim] at hg ⊢
      rw [hg] at hrest
      omega

/-- After a run there are no metrics exactly when there were none and none was stored. -/
theorem run_noMetrics {s s' : System n} {actions : List (Action n)}
    (hrun : Runs.run step s actions = some s') : stateGetMetricCount s'.g = 0 ↔
      stateGetMetricCount s.g = 0 ∧ countCalls StateCall.stores s actions = 0 := by
  induction actions generalizing s with
  | nil =>
    cases hrun
    exact (and_iff_left rfl).symm
  | cons a actions ih =>
    obtain ⟨t, ht, hrun⟩ := Option.bind_eq_some_iff.mp hrun
    have hg := step_callOf ht
    rw [ih hrun, countCalls_cons ht]
    cases hcall : s.callOf a with
    | none =>
      rw [hcall] at hg
      simp only [Option.elim] at hg ⊢
      rw [hg, Nat.zero_add]
    | some c =>
      rw [hcall] at hg
      simp only [Option.elim] at hg ⊢
      rw [hg, exec_noMetrics, and_assoc]
      cases c.stores s.g
      · simp
      · simp

/-! ## The numbers of a reachable state -/

/-- The registered sensors that are INACTIVE. -/
def inactive (g : GlobalState) : Nat :=
  (occupied g).countP fun s => decide (s.status = .inactive)

theorem active_add_inactive {s : System n} {actions : List (Action n)}
    (hrun : Runs.run step (init n) actions = some s) :
    stateGetActiveSensorCount s.g + inactive s.g = stateGetSensorCount s.g := by
  have hsplit := (occupied s.g).length_eq_countP_add_countP fun x => decide (x.status = .active)
  have hother : (fun x : Sensor => decide (¬ decide (x.status = .active) = true)) =
      fun x => decide (x.status = .inactive) := by
    funext x
    cases x.status <;> rfl
  rw [hother, occupied_active, occupied_length (namedOk_run hrun).shaped] at hsplit
  exact hsplit.symm

theorem metricCount_le_step {s s' : System n} {a : Action n} (hstep : s.step a = some s') :
    stateGetMetricCount s.g ≤ stateGetMetricCount s'.g ∧
      stateGetAlertCount s.g ≤ stateGetAlertCount s'.g := by
  have hpush : ∀ {α : Type} {N : Nat} (t : CircularTable α N) (x : Option α),
      t.count ≤ (x.elim t t.push).count := by
    intro α N t x
    cases x with
    | none => exact Nat.le_refl _
    | some x =>
      simp only [Option.elim, CircularTable.push]
      split <;> omega
  rw [step_callOf hstep]
  cases s.callOf a with
  | none => exact ⟨Nat.le_refl _, Nat.le_refl _⟩
  | some c =>
    simp only [Option.elim, stateGetMetricCount, stateGetAlertCount, exec_metrics, exec_alerts]
    exact ⟨hpush _ _, hpush _ _⟩

theorem counts_le_run {s s' : System n} {more : List (Action n)}
    (hrun : Runs.run step s more = some s') :
    stateGetMetricCount s.g ≤ stateGetMetricCount s'.g ∧
      stateGetAlertCount s.g ≤ stateGetAlertCount s'.g := by
  refine Runs.invariant_run (I := fun t => stateGetMetricCount s.g ≤ stateGetMetricCount t.g ∧
    stateGetAlertCount s.g ≤ stateGetAlertCount t.g) ?_ ⟨Nat.le_refl _, Nat.le_refl _⟩ hrun
  intro t a t' hle hstep
  have hnext := metricCount_le_step hstep
  exact ⟨Nat.le_trans hle.1 hnext.1, Nat.le_trans hle.2 hnext.2⟩

theorem alertCount_le_metricCount {s : System n} {actions : List (Action n)}
    (hrun : Runs.run step (init n) actions = some s) :
    stateGetAlertCount s.g ≤ stateGetMetricCount s.g := by
  obtain ⟨hok, hpaid⟩ := alertsPaid_run hrun
  have hle := alerts_le_metrics hpaid
  have hmax : maxAlerts ≤ maxMetrics := by decide
  rw [stateGetAlertCount, stateGetMetricCount, hok.tables.alerts.count_eq,
    hok.tables.metrics.count_eq]
  omega

/-- Without a sensor there is no metric. -/
theorem noMetrics_of_noSensors {s : System n} {actions : List (Action n)}
    (hrun : Runs.run step (init n) actions = some s) (hnone : stateGetSensorCount s.g = 0) :
    stateGetMetricCount s.g = 0 := by
  obtain ⟨hok, hattributed⟩ := logAttributed_run hrun
  have hempty : metricsIn (eventsOf s.log) = [] := by
    apply List.eq_nil_iff_forall_not_mem.mpr
    intro m hm
    obtain ⟨i, hs, -⟩ := hattributed.metrics m hm
    have hi := (hok.table.packed i).mp (slotOf_occupied hs)
    rw [stateGetSensorCount] at hnone
    omega
  rw [stateGetMetricCount, hok.tables.metrics.count_eq, hempty]
  rfl

/-! ## When the dashboard is consistent -/

/-- The four reads of a request happen in the states `s₀` to `s₃`, with any steps in between. The
numbers hold together exactly when no more sensors became active between the first two reads than
were INACTIVE at the first or left in between, and, if no slot was occupied at the first read, no
metric was stored before the last. -/
theorem dashboard_consistent_iff {s₀ s₁ s₂ s₃ : System n} {before first second third : List (Action n)}
    (hrun : Runs.run step (init n) before = some s₀) (h₁ : Runs.run step s₀ first = some s₁)
    (h₂ : Runs.run step s₁ second = some s₂) (h₃ : Runs.run step s₂ third = some s₃) :
    Consistent (stateGetSensorCount s₀.g) (stateGetActiveSensorCount s₁.g)
        (stateGetAlertCount s₂.g) (stateGetMetricCount s₃.g) ↔
      countCalls StateCall.activates s₀ first ≤
        inactive s₀.g + countCalls StateCall.retires s₀ first ∧
      (occupied s₀.g = [] →
        countCalls StateCall.stores s₀ (first ++ (second ++ third)) = 0) := by
  have hlater := Runs.run_trans h₁ (Runs.run_trans h₂ h₃)
  have hend := Runs.run_trans hrun hlater
  have hsplit := active_add_inactive hrun
  have hactive := run_active h₁
  have hstored := run_noMetrics hlater
  have hbefore := noMetrics_of_noSensors hrun
  have hcount := occupied_length (namedOk_run hrun).shaped
  constructor
  · rintro ⟨hle, m, actions, s, hs, hshows⟩
    refine ⟨by omega, fun hnone => ?_⟩
    rw [hnone, List.length_nil] at hcount
    have hzero := noMetrics_of_noSensors hs (hshows.total.trans hcount.symm)
    rw [hshows.metrics] at hzero
    exact (hstored.mp hzero).2
  · rintro ⟨hbalance, hquiet⟩
    have hle : stateGetActiveSensorCount s₁.g ≤ stateGetSensorCount s₀.g := by omega
    have hsensors : stateGetSensorCount s₀.g ≤ maxSensors := (namedOk_run hrun).shaped.count_le
    have halerts : stateGetAlertCount s₂.g ≤ maxAlerts :=
      (systemOk_run (Runs.run_trans (Runs.run_trans hrun h₁) h₂)).tables.alerts.count_le
    have hmetrics : stateGetMetricCount s₃.g ≤ maxMetrics :=
      (systemOk_run hend).tables.metrics.count_le
    have hcaused := Nat.le_trans (counts_le_run h₃).2 (alertCount_le_metricCount hend)
    have hnone : stateGetSensorCount s₀.g = 0 → stateGetMetricCount s₃.g = 0 :=
      fun h => hstored.mpr ⟨hbefore h, hquiet (List.eq_nil_of_length_eq_zero (hcount.trans h))⟩
    obtain ⟨m, actions, s, hs, h1, h2, h3, h4⟩ :=
      numbers_reachable hsensors hle hmetrics halerts hcaused hnone
    exact ⟨hle, m, actions, s, hs, h1, h2, h3, h4⟩

/-- A METRIC between the last two reads does no harm. -/
theorem dashboard_consistent_metric :
    ∃ s₀ s₃ : System 1,
      Runs.run step (init 1) [.connect 0, .receive 0 (ascii "REGISTER s1 TEMP"), .proceed 0] =
        some s₀ ∧
      Runs.run step s₀ [.receive 0 (ascii "METRIC s1 20 2026-03-30T14:05:00Z"), .proceed 0,
        .proceed 0, .proceed 0] = some s₃ ∧
      Consistent (stateGetSensorCount s₀.g) (stateGetActiveSensorCount s₀.g)
        (stateGetAlertCount s₀.g) (stateGetMetricCount s₃.g) := by
  have h : (Runs.run step (init 1) [.connect 0, .receive 0 (ascii "REGISTER s1 TEMP"),
      .proceed 0]).map (fun s => (stateGetSensorCount s.g, (Runs.run step s
        [.receive 0 (ascii "METRIC s1 20 2026-03-30T14:05:00Z"), .proceed 0, .proceed 0,
          .proceed 0]).isSome)) = some (1, true) := by decide +kernel
  obtain ⟨s₀, hrun, hs₀⟩ := Option.map_eq_some_iff.mp h
  obtain ⟨hone, hmetric⟩ := Prod.mk.inj hs₀
  obtain ⟨s₃, h₃⟩ := Option.isSome_iff_exists.mp hmetric
  have hnil : Runs.run step s₀ [] = some s₀ := rfl
  refine ⟨s₀, s₃, hrun, h₃, (dashboard_consistent_iff hrun hnil hnil h₃).mpr ⟨?_, ?_⟩⟩
  · exact Nat.zero_le _
  · intro hnone
    have hcount := occupied_length (namedOk_run hrun).shaped
    rw [hnone, hone] at hcount
    cases hcount

/-- A sensor that registers between the first two reads is counted as active only. -/
theorem dashboard_inconsistent :
    ∃ s₀ s₁ : System 1, Runs.run step (init 1) [.connect 0] = some s₀ ∧
      Runs.run step s₀ [.receive 0 (ascii "REGISTER s1 TEMP"), .proceed 0] = some s₁ ∧
      ¬ Consistent (stateGetSensorCount s₀.g) (stateGetActiveSensorCount s₁.g)
        (stateGetAlertCount s₁.g) (stateGetMetricCount s₁.g) := by
  have h : (Runs.run step (init 1) [.connect 0]).map (fun s => (stateGetSensorCount s.g,
      (Runs.run step s [.receive 0 (ascii "REGISTER s1 TEMP"), .proceed 0]).map
        fun s' => stateGetActiveSensorCount s'.g)) = some (0, some 1) := by decide +kernel
  obtain ⟨s₀, hrun, hs₀⟩ := Option.map_eq_some_iff.mp h
  obtain ⟨hzero, hafter⟩ := Prod.mk.inj hs₀
  obtain ⟨s₁, h₁, hone⟩ := Option.map_eq_some_iff.mp hafter
  refine ⟨s₀, s₁, hrun, h₁, ?_⟩
  rintro ⟨hle, -⟩
  rw [hzero, hone] at hle
  exact absurd hle (by decide)

end System

end IotMonitoring
