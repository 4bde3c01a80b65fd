import IotMonitoring.Shared.PageBuffers
import IotMonitoring.Shared.LockedPrograms
import IotMonitoring.Server.BoundedHistories

/-!
# Operator pages

The page of `GET /alerts` in `http_server.c`: the count for its header card is
read in one critical section, the rows are written in another. Each call of
`snprintf` is recorded with the offset it writes at.
-/

namespace IotMonitoring

open ByteStrings Binary64
set_option autoImplicit false

abbrev httpResponseMax : Nat := 65536

def cssStylePage : List String := [
  "<style>",
  ":root \x7b --bg:#0b1220; --panel:#101a2d; --panel-soft:#16233a; --line:#2b3f5f;",
  "        --text:#edf4ff; --muted:#8ea4c5; --cyan:#68d5ff; --amber:#ffc857;",
  "        --good:#52d39a; --bad:#ff7c70; --accent:#7aa2ff; \x7d",
  "* \x7b margin:0; padding:0; box-sizing:border-box; \x7d",
  "body \x7b font-family:'Avenir Next','Helvetica Neue','Segoe UI',sans-serif;",
  "       color:var(--text); min-height:100vh; background:radial-gradient(circle at top left,#14304f 0,#0b1220 45%),",
  "       linear-gradient(135deg,#08111f,#0b1220 55%,#0f1a2d); \x7d",
  "body::before \x7b content:''; position:fixed; inset:0; pointer-events:none;",
  "       background-image:linear-gradient(rgba(104,213,255,.08) 1px,transparent 1px),",
  "       linear-gradient(90deg,rgba(104,213,255,.08) 1px,transparent 1px);",
  "       background-size:36px 36px; mask-image:linear-gradient(to bottom,rgba(0,0,0,.6),transparent 75%); \x7d",
  "nav \x7b position:sticky; top:0; z-index:5; display:flex; align-items:center; gap:14px;",
  "      padding:18px 28px; background:rgba(6,13,24,.82); backdrop-filter:blur(18px);",
  "      border-bottom:1px solid rgba(122,162,255,.18); \x7d",
  "nav .brand \x7b margin-right:auto; color:#fff; font-size:1.1rem; font-weight:800;",
  "      letter-spacing:.08em; text-transform:uppercase; \x7d",
  "nav .brand small \x7b display:block; font-size:.68rem; color:var(--muted); font-weight:600; \x7d",
  "nav a \x7b color:var(--muted); text-decoration:none; font-weight:700; font-size:.93rem;",
  "      letter-spacing:.03em; padding:10px 14px; border-radius:999px; border:1px solid transparent;",
  "      transition:all .2s ease; \x7d",
  "nav a:hover \x7b color:var(--text); border-color:rgba(122,162,255,.28); background:rgba(122,162,255,.1); \x7d",
  ".container \x7b max-width:1200px; margin:0 auto; padding:36px 24px 64px; \x7d"]

def cssStylePanels : List String := [
  ".hero \x7b display:grid; grid-template-columns:1.5fr 1fr; gap:20px; margin-bottom:24px; \x7d",
  ".hero-panel, .card, .stat-card, .info-card \x7b background:linear-gradient(180deg,rgba(19,31,52,.96),rgba(11,20,34,.94));",
  "      border:1px solid rgba(122,162,255,.16); border-radius:22px; box-shadow:0 24px 60px rgba(0,0,0,.3); \x7d",
  ".hero-panel \x7b padding:28px; position:relative; overflow:hidden; \x7d",
  ".hero-panel::after \x7b content:''; position:absolute; inset:auto -60px -60px auto; width:180px; height:180px;",
  "      background:radial-gradient(circle,rgba(255,200,87,.22),transparent 70%); \x7d",
  ".eyebrow \x7b display:inline-flex; align-items:center; gap:10px; padding:8px 12px; border-radius:999px;",
  "      background:rgba(104,213,255,.1); color:var(--cyan); font-size:.78rem; font-weight:800; letter-spacing:.08em;",
  "      text-transform:uppercase; margin-bottom:18px; \x7d",
  "h1 \x7b font-size:clamp(2rem,4vw,3.4rem); line-height:1; margin-bottom:14px; letter-spacing:-.04em; \x7d",
  "h2 \x7b font-size:1.45rem; margin-bottom:10px; \x7d",
  "p \x7b color:var(--muted); line-height:1.6; \x7d",
  ".hero-copy \x7b max-width:42rem; \x7d",
  ".hero-grid \x7b display:grid; grid-template-columns:repeat(2,minmax(0,1fr)); gap:14px; margin-top:24px; \x7d",
  ".mini-panel \x7b padding:16px; border-radius:18px; background:rgba(255,255,255,.03); border:1px solid rgba(255,255,255,.06); \x7d",
  ".mini-panel strong \x7b display:block; color:var(--text); margin-bottom:4px; font-size:1.2rem; \x7d",
  ".card \x7b padding:24px; margin-bottom:20px; \x7d",
  ".card-title \x7b display:flex; align-items:flex-end; justify-content:space-between; gap:12px; margin-bottom:18px; \x7d",
  ".card-title p \x7b max-width:44rem; \x7d",
  ".stats \x7b display:grid; grid-template-columns:repeat(auto-fit,minmax(180px,1fr)); gap:16px; margin-bottom:24px; \x7d",
  ".stat-card \x7b padding:22px; position:relative; overflow:hidden; \x7d",
  ".stat-card::before \x7b content:''; position:absolute; inset:0 auto 0 0; width:4px; background:linear-gradient(180deg,var(--cyan),var(--amber)); \x7d",
  ".stat-card .number \x7b font-size:2.4rem; font-weight:800; letter-spacing:-.05em; color:var(--text); \x7d",
  ".stat-card .label \x7b color:var(--muted); text-transform:uppercase; letter-spacing:.08em; font-size:.74rem; margin-top:8px; \x7d",
  ".stat-card .delta \x7b color:var(--cyan); font-size:.82rem; margin-top:10px; \x7d",
  ".info-grid \x7b display:grid; grid-template-columns:repeat(auto-fit,minmax(260px,1fr)); gap:18px; margin-top:18px; \x7d",
  ".info-card \x7b padding:20px; \x7d",
  ".info-card ul \x7b list-style:none; margin-top:12px; \x7d",
  ".info-card li \x7b color:var(--muted); padding:8px 0; border-bottom:1px solid rgba(255,255,255,.06); \x7d",
  ".info-card li:last-child \x7b border-bottom:none; \x7d"]

def cssStyleTables : List String := [
  ".table-wrap \x7b overflow:auto; border-radius:18px; border:1px solid rgba(255,255,255,.06); \x7d",
  "table \x7b width:100%; border-collapse:collapse; min-width:720px; \x7d",
  "th \x7b padding:14px 16px; text-align:left; font-size:.78rem; letter-spacing:.08em; text-transform:uppercase;",
  "     color:var(--cyan); background:rgba(8,17,31,.88); \x7d",
  "td \x7b padding:14px 16px; border-top:1px solid rgba(255,255,255,.06); color:#d6e4fb; \x7d",
  "tr:hover td \x7b background:rgba(122,162,255,.06); \x7d",
  ".badge \x7b display:inline-flex; align-items:center; justify-content:center; padding:6px 12px; border-radius:999px;",
  "      font-size:.78rem; font-weight:800; letter-spacing:.05em; text-transform:uppercase; \x7d",
  ".badge-active, .badge-normal \x7b background:rgba(82,211,154,.14); color:var(--good); \x7d",
  ".badge-inactive, .badge-alert \x7b background:rgba(255,124,112,.14); color:var(--bad); \x7d",
  ".badge-accent \x7b background:rgba(255,200,87,.14); color:var(--amber); \x7d",
  ".login-box \x7b max-width:460px; margin:0 auto; text-align:left; \x7d",
  ".login-box form \x7b margin-top:22px; \x7d",
  ".login-box input[type=text] \x7b width:100%; margin-bottom:14px; padding:14px 16px; border-radius:14px;",
  "      border:1px solid rgba(122,162,255,.22); background:rgba(255,255,255,.04); color:var(--text); font-size:1rem; \x7d",
  ".login-box button, .cta-link \x7b display:inline-flex; align-items:center; justify-content:center; gap:8px;",
  "      padding:13px 20px; border:none; border-radius:999px; cursor:pointer; font-weight:800; font-size:.95rem;",
  "      color:#06111d; background:linear-gradient(135deg,var(--amber),#ff9d5c); text-decoration:none; box-shadow:0 12px 30px rgba(255,157,92,.22); \x7d",
  ".login-box button:hover, .cta-link:hover \x7b filter:brightness(1.05); \x7d",
  ".msg-ok \x7b color:var(--good); margin:18px 0; \x7d",
  ".msg-error \x7b color:var(--bad); margin:18px 0; \x7d",
  ".empty-state \x7b padding:28px; border:1px dashed rgba(122,162,255,.24); border-radius:18px; color:var(--muted); \x7d",
  ".footer-note \x7b margin-top:16px; font-size:.84rem; color:var(--muted); \x7d",
  "@media (max-width: 820px) \x7b .hero \x7b grid-template-columns:1fr; \x7d nav \x7b flex-wrap:wrap; \x7d .container \x7b padding:24px 16px 48px; \x7d \x7d",
  "</style>"]

/-- `CSS_STYLE`, one literal in the source. -/
def cssStyle : Bytes := literal cssStylePage ++ literal cssStylePanels ++ literal cssStyleTables

def navText : List String := [
  "<nav>",
  "<span class='brand'>IoT Monitor<small>Operator console</small></span>",
  "<a href='/'>Inicio</a>",
  "<a href='/dashboard'>Dashboard</a>",
  "<a href='/sensors'>Sensores</a>",
  "<a href='/alerts'>Alertas</a>",
  "<a href='/metrics'>M&eacute;tricas</a>",
  "</nav>"]

/-- The navigation bar, written into a `char[1024]`. -/
def buildNav : Bytes := snprintf 1024 (literal navText)

/-! ## GET /alerts -/

def alertsHeadCards : List String := [
  "<div class='container'>",
  "<div class='card'>",
  "<div class='card-title'>",
  "<div><div class='eyebrow'>Eventos de riesgo</div><h2>Alertas registradas</h2>",
  "<p>Incidentes ordenados desde el m&aacute;s reciente, con valor observado, umbral y timestamp.</p></div>",
  "<span class='badge badge-alert'>Atenci&oacute;n prioritaria</span>",
  "</div>",
  "<div class='stats'>",
  "<div class='stat-card'><div class='number'>"]

def alertsHeadTable : List String := [
  "</div><div class='label'>Alertas acumuladas</div></div>",
  "<div class='stat-card'><div class='number'>70 / 50 / 10-100</div><div class='label'>Umbrales TEMP / VIB / POWER</div></div>",
  "</div>",
  "</div>",
  "<div class='card'>",
  "<div class='table-wrap'><table>",
  "<tr><th>Sensor</th><th>Tipo</th><th>Valor</th>",
  "<th>Umbral</th><th>Mensaje</th><th>Timestamp</th></tr>"]

/-- The text of the first `snprintf` of `route_alerts`. -/
def alertsHead (countSnapshot : Nat) : Bytes :=
  literal ["<!DOCTYPE html><html><head>", "<meta charset='UTF-8'><title>Alertas</title>"] ++ cssStyle ++
    ascii "</head><body>" ++ buildNav ++ literal alertsHeadCards ++ decimal countSnapshot ++
    literal alertsHeadTable

def alertRow (a : Alert) : Bytes :=
  ascii "<tr><td>" ++ a.sensorId.text ++ ascii "</td><td>" ++ a.typeStr.text ++
    ascii "</td><td>" ++ fixed2 a.value ++ ascii "</td><td>" ++ fixed2 a.threshold ++
    ascii "</td><td>" ++ a.message.text ++ ascii "</td><td>" ++ a.timestamp.text ++
    ascii "</td></tr>"

def alertsTail : Bytes := ascii "</table></div></div></div></body></html>"

/-- `sizeof(body) - 512`, the bound of the loop on the offset. -/
def alertsBudget : Nat := httpResponseMax - 512

/-- The entries the loop visits, from the most recent to the oldest. -/
def alertsShown (g : GlobalState) : List Alert :=
  (List.range g.alerts.count).filterMap fun j => g.alerts.slotAt (routeAlertsIndex g j)

/-- The calls of `snprintf` into `body`, given the count read first and the alerts scanned later. -/
def alertsCalls (countSnapshot : Nat) (alerts : List Alert) : List Call :=
  callsFrom 0 (alertsHead countSnapshot :: (takeRows alertsBudget (alertsHead countSnapshot).length
    (alerts.map alertRow) ++ [alertsTail]))

def routeAlerts : Program GlobalState (List Call) := do
  let countSnapshot ← Program.call fun g => (stateGetAlertCount g, g)
  let alerts ← Program.call fun g => (alertsShown g, g)
  pure (alertsCalls countSnapshot alerts)

/-! ## GET /metrics -/

def metricsHeadCards : List String := [
  "<div class='container'>",
  "<div class='card'>",
  "<div class='card-title'>",
  "<div><div class='eyebrow'>Historial reciente</div><h2>&Uacute;ltimas m&eacute;tricas</h2>",
  "<p>Traza descendente del flujo de telemetr&iacute;a almacenado en memoria por el servidor.</p></div>",
  "<span class='badge badge-accent'>Buffer circular</span>",
  "</div>",
  "<div class='stats'>",
  "<div class='stat-card'><div class='number'>"]

def metricsHeadTable : List String := [
  "</div><div class='label'>M&eacute;tricas almacenadas</div></div>",
  "<div class='stat-card'><div class='number'>512</div><div class='label'>Capacidad m&aacute;xima del buffer</div></div>",
  "</div>",
  "</div>",
  "<div class='card'>",
  "<div class='table-wrap'><table>",
  "<tr><th>Sensor</th><th>Tipo</th>",
  "<th>Valor</th><th>Timestamp</th></tr>"]

def metricsHead (countSnapshot : Nat) : Bytes :=
  literal ["<!DOCTYPE html><html><head>", "<meta charset='UTF-8'><title>M&eacute;tricas</title>"] ++
    cssStyle ++ ascii "</head><body>" ++ buildNav ++ literal metricsHeadCards ++
    decimal countSnapshot ++ literal metricsHeadTable

def metricRow (m : Metric) : Bytes :=
  ascii "<tr><td>" ++ m.sensorId.text ++ ascii "</td><td>" ++ m.typeStr.text ++
    ascii "</td><td>" ++ fixed2 m.value ++ ascii "</td><td>" ++ m.timestamp.text ++
    ascii "</td></tr>"

def metricsTail : Bytes := ascii "</table></div></div></div></body></html>"

def metricsBudget : Nat := httpResponseMax - 512

def metricsShown (g : GlobalState) : List Metric :=
  (List.range g.metrics.count).filterMap fun j => g.metrics.slotAt (routeMetricsIndex g j)

def metricsCalls (countSnapshot : Nat) (metrics : List Metric) : List Call :=
  tableCalls metricsBudget (metricsHead countSnapshot) (metrics.map metricRow) metricsTail

def routeMetrics : Program GlobalState (List Call) := do
  let countSnapshot ← Program.call fun g => (stateGetMetricCount g, g)
  let metrics ← Program.call fun g => (metricsShown g, g)
  pure (metricsCalls countSnapshot metrics)

/-! ## Lengths -/

theorem cssStylePage_length : (literal cssStylePage).length = 1671 := by
  apply Eq.trans
  · repeat apply literal_length_cons
    exact literal_length_nil
  · decide

theorem cssStylePanels_length : (literal cssStylePanels).length = 2507 := by
  apply Eq.trans
  · repeat apply literal_length_cons
    exact literal_length_nil
  · decide +kernel

theorem cssStyleTables_length : (literal cssStyleTables).length = 2043 := by
  apply Eq.trans
  · repeat apply literal_length_cons
    exact literal_length_nil
  · decide +kernel

theorem navText_length : (literal navText).length = 234 := by
  apply Eq.trans
  · repeat apply literal_length_cons
    exact literal_length_nil
  · decide

theorem cssStyle_length : cssStyle.length = 6221 := by
  simp only [cssStyle, List.length_append, cssStylePage_length, cssStylePanels_length,
    cssStyleTables_length]

theorem openBody_length : (ascii "</head><body>").length = 13 := by decide

theorem buildNav_length : buildNav.length = 234 := by
  rw [buildNav, snprintf_of_fits (by rw [navText_length]; decide), navText_length]

theorem alertsHeadCards_length : (literal alertsHeadCards).length = 380 := by
  apply Eq.trans
  · repeat apply literal_length_cons
    exact literal_length_nil
  · decide

theorem alertsHeadTable_length : (literal alertsHeadTable).length = 339 := by
  apply Eq.trans
  · repeat apply literal_length_cons
    exact literal_length_nil
  · decide

theorem alertsHead_length (countSnapshot : Nat) :
    (alertsHead countSnapshot).length = 7258 + (decimal countSnapshot).length := by
  have hopen : (literal ["<!DOCTYPE html><html><head>",
      "<meta charset='UTF-8'><title>Alertas</title>"]).length = 71 := by decide
  simp only [alertsHead, List.length_append, hopen, cssStyle_length, openBody_length,
    buildNav_length, alertsHeadCards_length, alertsHeadTable_length]
  omega

theorem metricsHeadCards_length : (literal metricsHeadCards).length = 377 := by
  apply Eq.trans
  · repeat apply literal_length_cons
    exact literal_length_nil
  · decide

theorem metricsHeadTable_length : (literal metricsHeadTable).length = 311 := by
  apply Eq.trans
  · repeat apply literal_length_cons
    exact literal_length_nil
  · decide

theorem metricsHead_length (countSnapshot : Nat) :
    (metricsHead countSnapshot).length = 7235 + (decimal countSnapshot).length := by
  have hopen : (literal ["<!DOCTYPE html><html><head>",
      "<meta charset='UTF-8'><title>M&eacute;tricas</title>"]).length = 79 := by decide
  simp only [metricsHead, List.length_append, hopen, cssStyle_length, openBody_length,
    buildNav_length, metricsHeadCards_length, metricsHeadTable_length]
  omega

/-- The length of a row, from the fields of its alert. -/
def rowLength (a : Alert) : Nat :=
  63 + a.sensorId.text.length + a.typeStr.text.length + (fixed2 a.value).length +
    (fixed2 a.threshold).length + a.message.text.length + a.timestamp.text.length

theorem openRow_length : (ascii "<tr><td>").length = 8 := by decide

theorem nextCell_length : (ascii "</td><td>").length = 9 := by decide

theorem closeRow_length : (ascii "</td></tr>").length = 10 := by decide

theorem alertRow_length (a : Alert) : (alertRow a).length = rowLength a := by
  simp only [alertRow, rowLength, List.length_append, openRow_length, nextCell_length,
    closeRow_length]
  omega

/-- A row of the metrics page always fits into what the budget leaves. -/
theorem metricRow_length_le (m : Metric) : (metricRow m).length ≤ 459 := by
  have hid : m.sensorId.text.length < 64 := m.sensorId.length_lt
  have htype : m.typeStr.text.length < 8 := m.typeStr.length_lt
  have hvalue := fixed2_length_le m.value
  have htime : m.timestamp.text.length < 32 := m.timestamp.length_lt
  simp only [metricRow, List.length_append, openRow_length, nextCell_length, closeRow_length]
  omega

theorem metricsTail_length : metricsTail.length = 40 := by decide

end IotMonitoring
