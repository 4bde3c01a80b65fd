import IotMonitoring.Server.AuthTraffic
import IotMonitoring.Server.HistoryPages
import IotMonitoring.Server.PageTexts
import IotMonitoring.Server.SensorsPage

/-!
# The pages read back

`http_server.c` prints ids and user names as they are; no page escapes them. A
text that begins neither a tag nor a character reference is read back as it
stands, so with such ids the tables give the stored entries, one row each, and
the ids leave no trace in the markup.
-/

namespace IotMonitoring

open ByteStrings Binary64 Markup
set_option autoImplicit false
set_option maxRecDepth 8000

/-! ## Rows -/

/-- The texts of a row of `/sensors`. -/
def sensorTexts (s : Sensor) : List Bytes :=
  [s.id.text, sensorTypeToStr s.type, sensorStatusToStr s.status, fixed2 s.lastValue,
    s.lastTimestamp.text, alertLevelToStr s.alertLevel]

def alertTexts (a : Alert) : List Bytes :=
  [a.sensorId.text, a.typeStr.text, fixed2 a.value, fixed2 a.threshold, a.message.text,
    a.timestamp.text]

def metricTexts (m : Metric) : List Bytes :=
  [m.sensorId.text, m.typeStr.text, fixed2 m.value, m.timestamp.text]

/-- The same entry under an empty id. -/
def Sensor.unnamed (s : Sensor) : Sensor := { s with id := Buffer.zero }
def Alert.unnamed (a : Alert) : Alert := { a with sensorId := Buffer.zero }
def Metric.unnamed (m : Metric) : Metric := { m with sensorId := Buffer.zero }

def statusCell (status : SensorStatus) : Cell where
  source := statusBadge status
  items := (lex .data (statusBadge status ++ [60])).2
  lexed := by cases status <;> decide
  inline := by cases status <;> decide

def alertCell (level : AlertLevel) : Cell where
  source := alertBadge level
  items := (lex .data (alertBadge level ++ [60])).2
  lexed := by cases level <;> decide
  inline := by cases level <;> decide

theorem statusCell_text (status : SensorStatus) :
    (statusCell status).text = plainText (sensorStatusToStr status) := by
  cases status <;> decide

theorem alertCell_text (level : AlertLevel) :
    (alertCell level).text = plainText (alertLevelToStr level) := by
  cases level <;> decide

/-- What a row shows: its texts as cells, and the tags inside them. -/
structure RowShows (row : Bytes) (texts : List Bytes) (tags : List (List Bytes)) : Prop where
  reads : Reads .outside row .outside [texts.map plainText]
  markup : markup row =
    ascii "tr" :: (tags.flatMap fun inside => ascii "td" :: (inside ++ [ascii "/td"])) ++
      [ascii "/tr"]

theorem rowShows {row : Bytes} {texts : List Bytes} {cs : List Cell} (hcs : cs ≠ [])
    (hrow : row = tableRow (cs.map Cell.source)) (htexts : cs.map Cell.text = texts.map plainText) :
    RowShows row texts (cs.map Cell.tags) := by
  subst hrow
  refine ⟨?_, markup_tableRow cs⟩
  rw [← htexts]
  exact reads_tableRow hcs

theorem plainCells {texts : List Bytes} (h : ∀ t ∈ texts, Plain t) : ∃ cs : List Cell,
    cs.map Cell.source = texts ∧ cs.map Cell.text = texts.map plainText ∧
      cs.map Cell.tags = List.replicate texts.length [] := by
  induction texts with
  | nil => exact ⟨[], rfl, rfl, rfl⟩
  | cons t texts ih =>
    obtain ⟨cs, hsource, htext, htags⟩ := ih fun u hu => h u (List.mem_cons_of_mem t hu)
    refine ⟨.plain t (h t List.mem_cons_self) :: cs, ?_, ?_, ?_⟩
    · rw [List.map_cons, hsource]
      rfl
    · rw [List.map_cons, List.map_cons, htext, Cell.text_of_plain]
    · rw [List.map_cons, htags, Cell.tags_of_plain, List.length_cons, List.replicate_succ]

/-- A row without tags inside its cells. -/
theorem plainRow_shows {texts : List Bytes} (hne : texts ≠ []) (h : ∀ t ∈ texts, Plain t) :
    RowShows (tableRow texts) texts (List.replicate texts.length []) := by
  obtain ⟨cs, hsource, htext, htags⟩ := plainCells h
  rw [← htags]
  apply rowShows _ (congrArg tableRow hsource).symm htext
  rintro rfl
  exact hne hsource.symm

theorem nextCell_eq : ascii "</td><td>" = ascii "</td>" ++ ascii "<td>" := by decide

theorem openRow_eq : ascii "<tr><td>" = ascii "<tr>" ++ ascii "<td>" := by decide

theorem closeRow_eq : ascii "</td></tr>" = ascii "</td>" ++ ascii "</tr>" := by decide

def sensorCells (s : Sensor) (hid : Plain s.id.text) (htime : Plain s.lastTimestamp.text) :
    List Cell :=
  [.plain s.id.text hid, .plain (sensorTypeToStr s.type) (plain_sensorTypeToStr s.type),
    statusCell s.status, .plain (fixed2 s.lastValue) (plain_fixed2 s.lastValue),
    .plain s.lastTimestamp.text htime, alertCell s.alertLevel]

theorem sensorRow_shows {s : Sensor} (hid : Plain s.id.text) (htime : Plain s.lastTimestamp.text) :
    RowShows (sensorRow s) (sensorTexts s)
      [[], [], (statusCell s.status).tags, [], [], (alertCell s.alertLevel).tags] := by
  have hrow : sensorRow s = tableRow ((sensorCells s hid htime).map Cell.source) := by
    simp only [sensorRow, sensorCells, tableRow, cellTags, List.map_cons, List.map_nil,
      List.flatMap_cons, List.flatMap_nil, Cell.plain, statusCell, alertCell, nextCell_eq,
      openRow_eq, closeRow_eq, List.append_assoc, List.append_nil]
  have htexts : (sensorCells s hid htime).map Cell.text = (sensorTexts s).map plainText := by
    simp only [sensorCells, sensorTexts, List.map_cons, List.map_nil, Cell.text_of_plain,
      statusCell_text, alertCell_text]
  have hshows := rowShows (List.cons_ne_nil _ _) hrow htexts
  simp only [List.map_cons, List.map_nil, Cell.tags_of_plain] at hshows
  exact hshows

theorem alertRow_shows {a : Alert} (hid : Plain a.sensorId.text) (h : a.Unmarked) :
    RowShows (alertRow a) (alertTexts a) (List.replicate 6 []) := by
  have hrow : alertRow a = tableRow (alertTexts a) := by
    simp only [alertRow, alertTexts, tableRow, cellTags, List.flatMap_cons, List.flatMap_nil,
      nextCell_eq, openRow_eq, closeRow_eq, List.append_assoc, List.append_nil]
  rw [hrow]
  apply plainRow_shows (List.cons_ne_nil _ _)
  simp only [List.forall_mem_cons]
  exact ⟨hid, h.2.1, plain_fixed2 _, plain_fixed2 _, h.2.2, h.1, fun _ ht => absurd ht List.not_mem_nil⟩

theorem metricRow_shows {m : Metric} (hid : Plain m.sensorId.text) (h : m.Unmarked) :
    RowShows (metricRow m) (metricTexts m) (List.replicate 4 []) := by
  have hrow : metricRow m = tableRow (metricTexts m) := by
    simp only [metricRow, metricTexts, tableRow, cellTags, List.flatMap_cons, List.flatMap_nil,
      nextCell_eq, openRow_eq, closeRow_eq, List.append_assoc, List.append_nil]
  rw [hrow]
  apply plainRow_shows (List.cons_ne_nil _ _)
  simp only [List.forall_mem_cons]
  exact ⟨hid, h.2, plain_fixed2 _, h.1, fun _ ht => absurd ht List.not_mem_nil⟩

/-! ## Heads -/

theorem cssStyle_reads : Reads .outside cssStyle .outside [] := by
  have hpage : Reads .outside (literal cssStylePage) .outside [] := by
    refine reads_literal_cons .outside ?_ (by decide)
    repeat refine reads_literal_text ?_ (by decide)
    exact reads_literal_nil _
  have hpanels : Reads .outside (literal cssStylePanels) .outside [] := by
    repeat refine reads_literal_text ?_ (by decide)
    exact reads_literal_nil _
  have htables : Reads .outside (literal cssStyleTables) .outside [] := by
    repeat refine reads_literal_text ?_ (by decide)
    refine reads_literal_cons .outside ?_ (by decide)
    exact reads_literal_nil _
  exact (hpage.skip hpanels).skip htables

theorem buildNav_reads : Reads .outside buildNav .outside [] := by
  rw [buildNav, snprintf_of_fits (by rw [navText_length]; decide)]
  repeat refine reads_literal_cons .outside ?_ (by decide)
  exact reads_literal_nil _

theorem openBody_reads : Reads .outside (ascii "</head><body>") .outside [] := by decide

theorem decimal_reads (n : Nat) : Reads .outside (decimal n) .outside [] := reads_text (decimal_ne n)

/-- The heading of a table is a row without data cells. -/
theorem sensorsHeadTable_reads : Reads .outside (literal sensorsHeadTable) .outside [] := by
  repeat refine reads_literal_cons .outside ?_ (by decide)
  refine reads_literal_cons (.row []) ?_ (by decide)
  repeat refine reads_literal_cons .outside ?_ (by decide)
  exact reads_literal_nil _

theorem alertsHeadTable_reads : Reads .outside (literal alertsHeadTable) .outside [] := by
  repeat refine reads_literal_cons .outside ?_ (by decide)
  refine reads_literal_cons (.row []) ?_ (by decide)
  repeat refine reads_literal_cons .outside ?_ (by decide)
  exact reads_literal_nil _

theorem metricsHeadTable_reads : Reads .outside (literal metricsHeadTable) .outside [] := by
  repeat refine reads_literal_cons .outside ?_ (by decide)
  refine reads_literal_cons (.row []) ?_ (by decide)
  repeat refine reads_literal_cons .outside ?_ (by decide)
  exact reads_literal_nil _

theorem sensorsHead_reads (total active alert : Nat) :
    Reads .outside (sensorsHead total active alert) .outside [] := by
  have hopen : Reads .outside (literal ["<!DOCTYPE html><html><head>",
      "<meta charset='UTF-8'><title>Sensores</title>"]) .outside [] := by
    repeat refine reads_literal_cons .outside ?_ (by decide)
    exact reads_literal_nil _
  have hintro : Reads .outside (literal sensorsHeadCards) .outside [] := by
    repeat refine reads_literal_cons .outside ?_ (by decide)
    exact reads_literal_nil _
  have hnumber : Reads .outside (ascii "<div class='stat-card'><div class='number'>") .outside [] := by
    decide
  have htotal : Reads .outside (ascii "</div><div class='label'>Registrados</div></div>") .outside
      [] := by decide
  have hactive : Reads .outside (ascii "</div><div class='label'>Activos</div></div>") .outside [] := by
    decide
  have halert : Reads .outside (ascii "</div><div class='label'>En alerta</div></div>") .outside
      [] := by decide
  have hcards : Reads .outside (sensorsCards total active alert) .outside [] := by
    have hfirst := (hnumber.skip (decimal_reads total)).skip htotal
    have hsecond := ((hfirst.skip hnumber).skip (decimal_reads active)).skip hactive
    exact ((hsecond.skip hnumber).skip (decimal_reads alert)).skip halert
  have hstart := (((hopen.skip cssStyle_reads).skip openBody_reads).skip buildNav_reads).skip hintro
  exact (hstart.skip hcards).skip sensorsHeadTable_reads

theorem alertsHead_reads (countSnapshot : Nat) :
    Reads .outside (alertsHead countSnapshot) .outside [] := by
  have hopen : Reads .outside (literal ["<!DOCTYPE html><html><head>",
      "<meta charset='UTF-8'><title>Alertas</title>"]) .outside [] := by
    repeat refine reads_literal_cons .outside ?_ (by decide)
    exact reads_literal_nil _
  have hcards : Reads .outside (literal alertsHeadCards) .outside [] := by
    repeat refine reads_literal_cons .outside ?_ (by decide)
    exact reads_literal_nil _
  have hstart := (((hopen.skip cssStyle_reads).skip openBody_reads).skip buildNav_reads).skip hcards
  exact (hstart.skip (decimal_reads countSnapshot)).skip alertsHeadTable_reads

theorem metricsHead_reads (countSnapshot : Nat) :
    Reads .outside (metricsHead countSnapshot) .outside [] := by
  have hopen : Reads .outside (literal ["<!DOCTYPE html><html><head>",
      "<meta charset='UTF-8'><title>M&eacute;tricas</title>"]) .outside [] := by
    repeat refine reads_literal_cons .outside ?_ (by decide)
    exact reads_literal_nil _
  have hcards : Reads .outside (literal metricsHeadCards) .outside [] := by
    repeat refine reads_literal_cons .outside ?_ (by decide)
    exact reads_literal_nil _
  have hstart := (((hopen.skip cssStyle_reads).skip openBody_reads).skip buildNav_reads).skip hcards
  exact (hstart.skip (decimal_reads countSnapshot)).skip metricsHeadTable_reads

theorem tail_reads :
    Reads .outside (ascii "</table></div></div></div></body></html>") .outside [] := by
  decide

/-! ## Pages -/

def sensorsPage (total active alert : Nat) (shown : List Sensor) : Bytes :=
  sensorsHead total active alert ++ shown.flatMap sensorRow ++ sensorsTail

def alertsPage (countSnapshot : Nat) (shown : List Alert) : Bytes :=
  alertsHead countSnapshot ++ shown.flatMap alertRow ++ alertsTail

def metricsPage (countSnapshot : Nat) (shown : List Metric) : Bytes :=
  metricsHead countSnapshot ++ shown.flatMap metricRow ++ metricsTail

/-- The tables of the page hold exactly these texts, and its markup is that of the other page. -/
structure ReadsBack (page : Bytes) (rows : List (List Bytes)) (other : Bytes) : Prop where
  rows : readTable page = rows.map fun texts => texts.map plainText
  markup : markup page = markup other

/-- Rows that show their texts, and the same tags without the ids, make a page that reads back. -/
theorem readsBack {α : Type} {head tail : Bytes} {row : α → Bytes} {texts : α → List Bytes}
    {tags : α → List (List Bytes)} {unnamed : α → α} {shown : List α}
    (hhead : Reads .outside head .outside []) (htail : Reads .outside tail .outside [])
    (hrow : ∀ entry ∈ shown, RowShows (row entry) (texts entry) (tags entry))
    (hunnamed : ∀ entry ∈ shown,
      RowShows (row (unnamed entry)) (texts (unnamed entry)) (tags entry)) :
    ReadsBack (head ++ shown.flatMap row ++ tail) (shown.map texts)
      (head ++ (shown.map unnamed).flatMap row ++ tail) := by
  have hrows : Reads .outside (shown.flatMap row) .outside
      (shown.map fun entry => (texts entry).map plainText) :=
    reads_flatMap fun entry hentry => (hrow entry hentry).reads
  have hothers : Whole ((shown.map unnamed).flatMap row) := by
    rw [List.flatMap_map]
    exact (reads_flatMap fun entry hentry => (hunnamed entry hentry).reads).whole
  constructor
  · rw [readTable_page hhead hrows htail, List.map_map]
    rfl
  · rw [markup_page hhead.whole hrows.whole, markup_page hhead.whole hothers, List.flatMap_map,
      markup_flatMap fun entry hentry => (hrow entry hentry).reads.whole,
      markup_flatMap fun entry hentry => (hunnamed entry hentry).reads.whole]
    congr 2
    apply List.flatMap_congr
    intro entry hentry
    rw [(hrow entry hentry).markup, (hunnamed entry hentry).markup]

theorem plain_empty {n : Nat} [NeZero n] : Plain (Buffer.zero : Buffer n).text := List.isChain_nil

theorem sensorsPage_readsBack {shown : List Sensor} (total active alert : Nat)
    (hids : ∀ s ∈ shown, Plain s.id.text) (htimes : ∀ s ∈ shown, Plain s.lastTimestamp.text) :
    ReadsBack (sensorsPage total active alert shown) (shown.map sensorTexts)
      (sensorsPage total active alert (shown.map Sensor.unnamed)) :=
  readsBack (sensorsHead_reads total active alert) tail_reads
    (fun s hs => sensorRow_shows (hids s hs) (htimes s hs))
    fun s hs => sensorRow_shows (s := s.unnamed) plain_empty (htimes s hs)

theorem alertsPage_readsBack {shown : List Alert} (countSnapshot : Nat)
    (hids : ∀ a ∈ shown, Plain a.sensorId.text) (htexts : ∀ a ∈ shown, a.Unmarked) :
    ReadsBack (alertsPage countSnapshot shown) (shown.map alertTexts)
      (alertsPage countSnapshot (shown.map Alert.unnamed)) :=
  readsBack (alertsHead_reads countSnapshot) tail_reads
    (fun a ha => alertRow_shows (hids a ha) (htexts a ha))
    fun a ha => alertRow_shows (a := a.unnamed) plain_empty (htexts a ha)

theorem metricsPage_readsBack {shown : List Metric} (countSnapshot : Nat)
    (hids : ∀ m ∈ shown, Plain m.sensorId.text) (htexts : ∀ m ∈ shown, m.Unmarked) :
    ReadsBack (metricsPage countSnapshot shown) (shown.map metricTexts)
      (metricsPage countSnapshot (shown.map Metric.unnamed)) :=
  readsBack (metricsHead_reads countSnapshot) tail_reads
    (fun m hm => metricRow_shows (hids m hm) (htexts m hm))
    fun m hm => metricRow_shows (m := m.unnamed) plain_empty (htexts m hm)

/-! ## Login pages -/

/-- The beginning of a page of `route_login`, up to its card. -/
def loginHead (title : String) : Bytes :=
  ascii "<!DOCTYPE html><html><head>" ++ ascii "<meta charset='UTF-8'><title>" ++ ascii title ++
    ascii "</title>" ++ cssStyle ++ ascii "</head><body>" ++ buildNav ++
    ascii "<div class='container'>" ++ ascii "<div class='card'>"

def loginTail : Bytes := ascii "</div></div></body></html>"

theorem loginPage_eq (title : String) (parts : List Bytes) : loginPage title parts =
    snprintf httpResponseMax (loginHead title ++ parts.flatten ++ loginTail) := by
  simp only [loginPage, loginHead, loginTail, List.append_assoc]

theorem loginHead_whole {title : String} (htitle : Whole (ascii title)) :
    Whole (loginHead title) := by
  have hopen : Whole (ascii "<!DOCTYPE html><html><head>") := by decide
  have hmeta : Whole (ascii "<meta charset='UTF-8'><title>") := by decide
  have hclose : Whole (ascii "</title>") := by decide
  have hcontainer : Whole (ascii "<div class='container'>") := by decide
  have hcard : Whole (ascii "<div class='card'>") := by decide
  have hstart := ((hopen.append hmeta).append htitle).append hclose
  have hstyle := (hstart.append cssStyle_reads.whole).append openBody_reads.whole
  exact ((hstyle.append buildNav_reads.whole).append hcontainer).append hcard

theorem loginHead_length (title : String) :
    (loginHead title).length = 6573 + (ascii title).length := by
  have hopen : (ascii "<!DOCTYPE html><html><head>").length = 27 := by decide
  have hmeta : (ascii "<meta charset='UTF-8'><title>").length = 29 := by decide
  have hclose : (ascii "</title>").length = 8 := by decide
  have hcontainer : (ascii "<div class='container'>").length = 23 := by decide
  have hcard : (ascii "<div class='card'>").length = 18 := by decide
  simp only [loginHead, List.length_append, hopen, hmeta, hclose, hcontainer, hcard,
    cssStyle_length, openBody_length, buildNav_length]
  omega

/-- Parts of a page around a user name: whole text and tags before it, a tag behind it. -/
structure AroundName (title : String) (before after : List Bytes) : Prop where
  title_whole : Whole (ascii title)
  before_whole : Whole before.flatten
  after_tag : after.flatten.head? = some 60
  length_le : (ascii title).length + before.flatten.length + after.flatten.length ≤ 1024

/-- What stands around a plain name on a page does not depend on it. -/
theorem AroundName.items_eq {title : String} {before after : List Bytes}
    (h : AroundName title before after) {user : Bytes} (hlength : user.length < maxIdLen)
    (huser : Plain user) : items (loginPage title (before ++ user :: after)) =
      items (loginHead title ++ before.flatten) ++ (plainText user).map .glyph ++
        items (after.flatten ++ loginTail) := by
  obtain ⟨rest, hrest⟩ := List.head?_eq_some_iff.mp h.after_tag
  have hbefore := (loginHead_whole h.title_whole).append h.before_whole
  have hsplit : loginHead title ++ (before ++ user :: after).flatten ++ loginTail =
      (loginHead title ++ before.flatten) ++ (user ++ 60 :: (rest ++ loginTail)) := by
    simp only [List.flatten_append, List.flatten_cons, hrest, List.append_assoc, List.cons_append]
  have hfits : (loginHead title ++ (before ++ user :: after).flatten ++ loginTail).length <
      httpResponseMax := by
    have htail : loginTail.length = 26 := by decide
    have hparts := h.length_le
    simp only [maxIdLen] at hlength
    simp only [List.flatten_append, List.flatten_cons, List.length_append, loginHead_length, htail,
      httpResponseMax]
    omega
  rw [loginPage_eq, snprintf_of_fits hfits, hsplit, hbefore.items_append, items_plain huser, hrest,
    List.cons_append, List.append_assoc]

def deniedBefore : List Bytes :=
  [ascii "<h1>&#x1F6AB; Acceso Denegado</h1>", ascii "<p class='msg-error'>El usuario <strong>"]

def deniedAfter : List Bytes :=
  [ascii "</strong> ", ascii "no est&aacute; registrado en el sistema.</p>",
    ascii "<a href='/'>&#x2190; Volver al inicio</a>"]

def welcomeBefore : List Bytes := [ascii "<h1>&#x2705; Bienvenido, "]

def welcomeAfter (role : Bytes) : List Bytes :=
  [ascii "</h1>", ascii "<p>Rol: <strong>", role, ascii "</strong></p>",
    ascii "<p>Accede al panel de monitoreo desde la barra de navegaci&oacute;n.</p>"]

theorem denied_around : AroundName "Acceso Denegado" deniedBefore deniedAfter where
  title_whole := by decide
  before_whole := by decide
  after_tag := by decide
  length_le := by decide

theorem welcome_around {role : Bytes} (hrole : role.length < 32) :
    AroundName "Bienvenido" welcomeBefore (welcomeAfter role) where
  title_whole := by decide
  before_whole := by decide
  after_tag := rfl
  length_le := by
    have htitle : (ascii "Bienvenido").length = 10 := by decide
    have hbefore : welcomeBefore.flatten.length = 25 := by decide
    have hparts : (ascii "</h1>").length = 5 ∧ (ascii "<p>Rol: <strong>").length = 16 ∧
        (ascii "</strong></p>").length = 13 ∧
        (ascii "<p>Accede al panel de monitoreo desde la barra de navegaci&oacute;n.</p>").length =
          72 := by decide
    simp only [welcomeAfter, List.flatten_cons, List.flatten_nil, List.length_append,
      List.length_nil, htitle, hbefore, hparts]
    omega

/-- The replies of `route_login` with this status show the user name as plain text: what stands
before and behind it is the same for every admissible name. -/
def LoginShows (admissible : Bytes → Prop) (status : Nat) (role : Buffer 32) : Prop :=
  ∃ before after : List Item, ∀ authHost authPort attempt query, admissible (loginUser query) →
    (authCheckUser authHost authPort (loginUser query) attempt).role = role →
    (routeLogin authHost authPort attempt query).reply.status = status →
      items (routeLogin authHost authPort attempt query).reply.body =
        before ++ (plainText (loginUser query)).map .glyph ++ after

theorem routeLogin_denied {authHost authPort : Bytes} {attempt : Attempt} {query : Option Bytes}
    (h : (routeLogin authHost authPort attempt query).reply.status = 401) :
    (routeLogin authHost authPort attempt query).reply.body = loginDenied (loginUser query) := by
  unfold routeLogin at h ⊢
  simp only at h ⊢
  split at h
  · cases h
  · rename_i hne
    rw [if_neg hne]
    unfold loginReply at h ⊢
    simp only at h ⊢
    split at h
    · cases h
    · rename_i herror
      rw [if_neg herror]
      split at h
      · rename_i hmissing
        rw [if_pos hmissing]
      · cases h

theorem routeLogin_welcome {authHost authPort : Bytes} {attempt : Attempt} {query : Option Bytes}
    (h : (routeLogin authHost authPort attempt query).reply.status = 200) :
    (routeLogin authHost authPort attempt query).reply.body = loginWelcome (loginUser query)
      (authCheckUser authHost authPort (loginUser query) attempt).role.text := by
  unfold routeLogin at h ⊢
  simp only at h ⊢
  split at h
  · cases h
  · rename_i hne
    rw [if_neg hne]
    unfold loginReply at h ⊢
    simp only at h ⊢
    split at h
    · cases h
    · rename_i herror
      rw [if_neg herror]
      split at h
      · cases h
      · rename_i hknown
        rw [if_neg hknown]

theorem loginShows {status : Nat} (hstatus : status ∈ [401, 200]) (role : Buffer 32) :
    LoginShows Plain status role := by
  simp only [List.mem_cons, List.not_mem_nil, or_false] at hstatus
  rcases hstatus with rfl | rfl
  · refine ⟨items (loginHead "Acceso Denegado" ++ deniedBefore.flatten),
      items (deniedAfter.flatten ++ loginTail), ?_⟩
    intro authHost authPort attempt query huser _ hreply
    rw [routeLogin_denied hreply]
    exact denied_around.items_eq (loginUser_length query) huser
  · refine ⟨items (loginHead "Bienvenido" ++ welcomeBefore.flatten),
      items ((welcomeAfter role.text).flatten ++ loginTail), ?_⟩
    intro authHost authPort attempt query huser hrole hreply
    rw [routeLogin_welcome hreply, hrole]
    exact (welcome_around role.length_lt).items_eq (loginUser_length query) huser

theorem append_extra_ne {α : Type} (a b : List α) (x : α) : a ++ [x] ++ b ≠ a ++ b := by
  intro h
  have hlength := congrArg List.length h
  simp only [List.length_append, List.length_singleton] at hlength
  omega

/-- A tag in the name is one more tag of the page. -/
theorem not_loginShows : ¬ LoginShows (fun _ => True) 401 Buffer.zero := by
  rintro ⟨before, after, hall⟩
  have haround : AroundName "Acceso Denegado" (deniedBefore ++ [ascii "<b>"]) deniedAfter := {
    title_whole := denied_around.title_whole
    before_whole := by decide
    after_tag := denied_around.after_tag
    length_le := by decide }
  have hnames : loginUser (some (ascii "user=<b>ana")) = ascii "<b>ana" ∧
      loginUser (some (ascii "user=ana")) = ascii "ana" := by decide
  have hmarked := hall [] [] (.received [crlf ++ crlf]) (some (ascii "user=<b>ana")) trivial
    (by decide) (by decide)
  have hplain := hall [] [] (.received [crlf ++ crlf]) (some (ascii "user=ana")) trivial
    (by decide) (by decide)
  rw [routeLogin_denied (by decide), hnames.1] at hmarked
  rw [routeLogin_denied (by decide), hnames.2] at hplain
  have hpage : loginDenied (ascii "<b>ana") =
      loginPage "Acceso Denegado" ((deniedBefore ++ [ascii "<b>"]) ++ ascii "ana" :: deniedAfter) := by
    have hsplit : ascii "<b>ana" = ascii "<b>" ++ ascii "ana" := by decide
    have hdenied : loginDenied (ascii "<b>ana") =
        loginPage "Acceso Denegado" (deniedBefore ++ ascii "<b>ana" :: deniedAfter) := rfl
    rw [hdenied, loginPage_eq, loginPage_eq, hsplit]
    simp only [List.flatten_append, List.flatten_cons, List.flatten_nil, List.append_nil,
      List.append_assoc]
  have hana : Plain (ascii "ana") := by decide
  have hmarkedPage := markup_around (haround.items_eq (by decide) hana)
  have hplainPage := markup_around (denied_around.items_eq (by decide) hana)
  have hplainEq : loginDenied (ascii "ana") =
      loginPage "Acceso Denegado" (deniedBefore ++ ascii "ana" :: deniedAfter) := rfl
  rw [← hpage, markup_around hmarked] at hmarkedPage
  rw [← hplainEq, markup_around hplain, hmarkedPage] at hplainPage
  have hbefore : loginHead "Acceso Denegado" ++ (deniedBefore ++ [ascii "<b>"]).flatten =
      (loginHead "Acceso Denegado" ++ deniedBefore.flatten) ++ ascii "<b>" := by
    simp only [List.flatten_append, List.flatten_cons, List.flatten_nil, List.append_nil,
      List.append_assoc]
  have hwhole := (loginHead_whole denied_around.title_whole).append denied_around.before_whole
  have htag : (items (ascii "<b>")).filterMap Item.tag? = [ascii "b"] := by decide
  rw [hbefore, hwhole.items_append, List.filterMap_append, htag] at hplainPage
  exact append_extra_ne _ _ _ hplainPage

/-- The alerts page, where all of it fits into the buffer. -/
theorem page_alertsCalls (countSnapshot : Nat) (alerts : List Alert) : ∃ k,
    ShownRows alertsBudget (alertsHead countSnapshot).length (alerts.map alertRow) k ∧
      ((alertsPage countSnapshot (alerts.take k)).length < httpResponseMax →
        page httpResponseMax (alertsCalls countSnapshot alerts) =
          some (alertsPage countSnapshot (alerts.take k))) := by
  obtain ⟨k, hk, htake⟩ := takeRows_shown alertsBudget (alertsHead countSnapshot).length
    (alerts.map alertRow)
  refine ⟨k, hk, fun hfits => ?_⟩
  have hpage : (alertsHead countSnapshot :: ((alerts.map alertRow).take k ++ [alertsTail])).flatten =
      alertsPage countSnapshot (alerts.take k) := by
    simp only [alertsPage, ← List.map_take, List.flatten_cons, List.flatten_append,
      List.flatten_nil, List.append_nil, List.append_assoc, ← List.flatMap_def]
  rw [← hpage, totalLength_flatten] at hfits
  rw [alertsCalls, htake, page_of_fits hfits, hpage]

/-! ## Every page -/

namespace System
variable {n : Nat}

/-- The counts are read in a reachable state and the rows in any later one. Where the ids shown are
plain, each table reads back as one row an entry with its texts, and the markup of the page is that
of the same page without ids; of the alerts page this is said where it fits into the buffer. The
replies of a login show a plain user name between the same text and tags whatever the name. -/
theorem pages_faithful {s s' : System n} {actions more : List (Action n)}
    (hrun : Runs.run step (init n) actions = some s) (hmore : Runs.run step s more = some s') :
    (∃ total active alert,
      sensorsBody (scanSensors s'.g) = some (sensorsPage total active alert (occupied s'.g)) ∧
      ((∀ x ∈ occupied s'.g, Plain x.id.text) →
        ReadsBack (sensorsPage total active alert (occupied s'.g))
          ((occupied s'.g).map sensorTexts)
          (sensorsPage total active alert ((occupied s'.g).map Sensor.unnamed)))) ∧
    (∃ k, ShownRows alertsBudget (alertsHead (stateGetAlertCount s.g)).length
        ((alertsShown s'.g).map alertRow) k ∧
      ((alertsPage (stateGetAlertCount s.g) ((alertsShown s'.g).take k)).length < httpResponseMax →
        page httpResponseMax (alertsCalls (stateGetAlertCount s.g) (alertsShown s'.g)) =
          some (alertsPage (stateGetAlertCount s.g) ((alertsShown s'.g).take k))) ∧
      ((∀ a ∈ (alertsShown s'.g).take k, Plain a.sensorId.text) →
        ReadsBack (alertsPage (stateGetAlertCount s.g) ((alertsShown s'.g).take k))
          (((alertsShown s'.g).take k).map alertTexts)
          (alertsPage (stateGetAlertCount s.g)
            (((alertsShown s'.g).take k).map Alert.unnamed)))) ∧
    (∃ k, ShownRows metricsBudget (metricsHead (stateGetMetricCount s.g)).length
        ((metricsShown s'.g).map metricRow) k ∧
      page httpResponseMax (metricsCalls (stateGetMetricCount s.g) (metricsShown s'.g)) =
        some (metricsPage (stateGetMetricCount s.g) ((metricsShown s'.g).take k)) ∧
      ((∀ m ∈ (metricsShown s'.g).take k, Plain m.sensorId.text) →
        ReadsBack (metricsPage (stateGetMetricCount s.g) ((metricsShown s'.g).take k))
          (((metricsShown s'.g).take k).map metricTexts)
          (metricsPage (stateGetMetricCount s.g)
            (((metricsShown s'.g).take k).map Metric.unnamed)))) ∧
    ∀ status ∈ [401, 200], ∀ role, LoginShows Plain status role := by
  have hlater := textsPlain_run (Runs.run_trans hrun hmore)
  refine ⟨?_, ?_, ?_, fun status hstatus role => loginShows hstatus role⟩
  · refine ⟨_, _, _, scan_body s'.g, fun hids => sensorsPage_readsBack _ _ _ hids ?_⟩
    intro x hx
    obtain ⟨i, rfl⟩ := List.mem_ofFn.mp (List.mem_of_mem_filter hx)
    exact hlater.sensors i
  · obtain ⟨k, hk, hpage⟩ := page_alertsCalls (stateGetAlertCount s.g) (alertsShown s'.g)
    refine ⟨k, hk, hpage, fun hids => alertsPage_readsBack _ hids ?_⟩
    intro a ha
    have hshown := List.mem_of_mem_take ha
    rw [alertsShown_eq hlater.ok.tables.alerts] at hshown
    exact hlater.alerts a (List.mem_of_mem_take hshown)
  · have hcount := (systemOk_run hrun).tables.metrics.count_le
    obtain ⟨k, hk, hpage⟩ := page_metricsCalls hcount (metricsShown s'.g)
    refine ⟨k, hk, hpage, fun hids => metricsPage_readsBack _ hids ?_⟩
    intro m hm
    have hshown := List.mem_of_mem_take hm
    rw [metricsShown_eq hlater.ok.tables.metrics] at hshown
    exact hlater.metrics m (List.mem_of_mem_take hshown)

/-- A sensor with an alert. -/
theorem pages_faithful_alert :
    ∃ s : System 1, Runs.run step (init 1)
        [.connect 0, .receive 0 (ascii "REGISTER s1 TEMP"), .proceed 0,
          .receive 0 (ascii "METRIC s1 80 2026-03-30T14:05:00Z"), .proceed 0, .proceed 0,
          .proceed 0, .proceed 0] = some s ∧
      ∃ body, sensorsBody (scanSensors s.g) = some body ∧
        readTable body = [[ascii "s1", ascii "TEMP", ascii "ACTIVE", ascii "80.00",
          ascii "2026-03-30T14:05:00Z", ascii "ALERT"].map plainText] := by
  have h : (Runs.run step (init 1)
      [.connect 0, .receive 0 (ascii "REGISTER s1 TEMP"), .proceed 0,
        .receive 0 (ascii "METRIC s1 80 2026-03-30T14:05:00Z"), .proceed 0, .proceed 0,
        .proceed 0, .proceed 0]).map (fun s => ((occupied s.g).map (·.id.text),
          (occupied s.g).map sensorTexts)) =
      some ([ascii "s1"], [[ascii "s1", ascii "TEMP", ascii "ACTIVE", ascii "80.00",
        ascii "2026-03-30T14:05:00Z", ascii "ALERT"]]) := by decide +kernel
  obtain ⟨s, hs, hshown⟩ := Option.map_eq_some_iff.mp h
  obtain ⟨hids, htexts⟩ := Prod.mk.inj hshown
  have hmore : Runs.run step s [] = some s := rfl
  obtain ⟨total, active, alert, hbody, hreads⟩ := (pages_faithful hs hmore).1
  refine ⟨s, hs, _, hbody, ?_⟩
  have hplain : ∀ x ∈ occupied s.g, Plain x.id.text := by
    intro x hx
    have hid : x.id.text ∈ [ascii "s1"] := by
      rw [← hids]
      exact List.mem_map_of_mem hx
    rw [List.mem_singleton.mp hid]
    decide
  rw [(hreads hplain).rows, htexts]
  rfl

/-- The cells behind the id of a sensor that has just registered. -/
def freshTexts : List (List Glyph) :=
  [ascii "TEMP", ascii "ACTIVE", ascii "0.00", ascii "N/A", ascii "NORMAL"].map plainText

/-- The tags and references in ids and user names are read as such. -/
theorem pages_unfaithful :
    (∃ s : System 1, Runs.run step (init 1)
        [.connect 0, .receive 0 (ascii "REGISTER <b>x TEMP"), .proceed 0,
          .receive 0 (ascii "REGISTER &lt; TEMP"), .proceed 0] = some s ∧
      ∃ total active alert,
        sensorsBody (scanSensors s.g) = some (sensorsPage total active alert (occupied s.g)) ∧
        readTable (sensorsPage total active alert (occupied s.g)) ≠
          (occupied s.g).map (fun x => (sensorTexts x).map plainText) ∧
        markup (sensorsPage total active alert (occupied s.g)) ≠
          markup (sensorsPage total active alert ((occupied s.g).map Sensor.unnamed))) ∧
    ¬ LoginShows (fun _ => True) 401 Buffer.zero := by
  constructor
  · have h : (Runs.run step (init 1)
        [.connect 0, .receive 0 (ascii "REGISTER <b>x TEMP"), .proceed 0,
          .receive 0 (ascii "REGISTER &lt; TEMP"), .proceed 0]).map (fun s => occupied s.g) =
        some [newSensor (ascii "<b>x") .temp, newSensor (ascii "&lt;") .temp] := by decide +kernel
    obtain ⟨s, hs, hshown⟩ := Option.map_eq_some_iff.mp h
    refine ⟨s, hs, _, _, _, scan_body s.g, ?_⟩
    rw [hshown]
    have hread : Reads .outside
        ([newSensor (ascii "<b>x") .temp, newSensor (ascii "&lt;") .temp].flatMap sensorRow) .outside
        [plainText (ascii "x") :: freshTexts, [.reference (ascii "lt")] :: freshTexts] := by
      decide +kernel
    have hother : Whole (([newSensor (ascii "<b>x") .temp, newSensor (ascii "&lt;") .temp].map
        Sensor.unnamed).flatMap sensorRow) := by decide
    have htail : Reads .outside sensorsTail .outside [] := tail_reads
    constructor
    · rw [sensorsPage, readTable_page (sensorsHead_reads _ _ _) hread htail]
      decide
    · rw [sensorsPage, sensorsPage, markup_page (sensorsHead_reads _ _ _).whole hread.whole,
        markup_page (sensorsHead_reads _ _ _).whole hother]
      intro heq
      have hrows := List.append_cancel_left (List.append_cancel_right heq)
      revert hrows
      decide
  · exact not_loginShows

end System

end IotMonitoring
