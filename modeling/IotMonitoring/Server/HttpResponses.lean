import IotMonitoring.Shared.HttpMessages
import IotMonitoring.Server.Dashboard
import IotMonitoring.Server.HttpRequests
import IotMonitoring.Server.MetricsPage

/-!
# Responses of the operator console

`send_http_response` announces the length of the page in the header and sends
the page in as many pieces as the socket takes. `requests_answered` says what a
reader makes of the bytes: it takes a response for complete exactly when all of
the page arrived, also where the connection ends early.
-/

namespace IotMonitoring

open ByteStrings Binary64 HttpMessages
set_option autoImplicit false

/-! ## The pages without data -/

def homeHero : List String := [
  "<div class='container'>",
  "<div class='hero'>",
  "<section class='hero-panel'>",
  "<div class='eyebrow'>Centro de operaciones</div>",
  "<h1>Monitoreo industrial para operadores en tiempo real</h1>",
  "<p class='hero-copy'>Supervisa el pulso de la red IoT, detecta anomal&iacute;as y accede al estado operativo de sensores desde una consola clara y enfocada en respuesta r&aacute;pida.</p>",
  "<div class='hero-grid'>",
  "<div class='mini-panel'><strong>Sensores</strong><span>Vista operativa de TEMP, VIB y POWER.</span></div>",
  "<div class='mini-panel'><strong>Alertas</strong><span>Umbrales visibles y trazabilidad de incidentes.</span></div>",
  "<div class='mini-panel'><strong>M&eacute;tricas</strong><span>Registro continuo con &uacute;ltimo valor y timestamp.</span></div>",
  "<div class='mini-panel'><strong>HTTP + TCP</strong><span>Operaci&oacute;n integrada con panel y protocolo SMP.</span></div>",
  "</div>",
  "</section>"]

def homeLogin : List String := [
  "<aside class='hero-panel login-box'>",
  "<div class='eyebrow'>Acceso seguro</div>",
  "<h2>Ingresar como operador</h2>",
  "<p>Escribe tu usuario para validar acceso y abrir el panel de supervisi&oacute;n.</p>",
  "<form action='/login' method='get'>",
  "<input type='text' name='user' placeholder='Usuario operador' required>",
  "<button type='submit'>Entrar al panel</button>",
  "</form>",
  "<p class='footer-note'>Si el auth service no est&aacute; disponible, ver&aacute;s una respuesta expl&iacute;cita del sistema.</p>",
  "</aside>",
  "</div>",
  "</div>",
  "</body></html>"]

/-- The page of `route_home`. -/
def homeBody : Bytes :=
  snprintf httpResponseMax
    (literal ["<!DOCTYPE html><html><head>", "<meta charset='UTF-8'>",
        "<title>IoT Services Monitoring</title>"] ++
      cssStyle ++ ascii "</head><body>" ++ buildNav ++ literal homeHero ++ literal homeLogin)

def notFoundText : List String := [
  "<div class='container'>",
  "<div class='hero-panel'>",
  "<div class='eyebrow'>Ruta no disponible</div>",
  "<h1>404 &mdash; P&aacute;gina no encontrada</h1>",
  "<p>La ruta solicitada no existe dentro de la consola de operadores.</p>",
  "<p class='footer-note'><a class='cta-link' href='/'>Volver al inicio</a></p>",
  "</div></div></body></html>"]

/-- The page of `route_not_found`. -/
def notFoundBody : Bytes :=
  snprintf httpResponseMax
    (literal ["<!DOCTYPE html><html><head>", "<meta charset='UTF-8'><title>404</title>"] ++
      cssStyle ++ ascii "</head><body>" ++ buildNav ++ literal notFoundText)

/-! ## The reply of a route -/

def okReply (body : Bytes) : HttpReply := ⟨200, ascii "OK", body⟩

/-- What the route hands to `http_log_and_send`; `none` where its page leaves its buffer. -/
def routeReply (authHost authPort : Bytes) (attempt : Attempt) :
    HttpRoute → Program GlobalState (Option HttpReply)
  | .badRequest body => pure (some ⟨400, ascii "Bad Request", body⟩)
  | .home => pure (some (okReply homeBody))
  | .login query => pure (some (routeLogin authHost authPort attempt query).reply)
  | .dashboard => do
    let body ← routeDashboard
    pure (some (okReply body))
  | .sensors => do
    let body ← routeSensors
    pure (body.map okReply)
  | .alerts => do
    let calls ← routeAlerts
    pure ((page httpResponseMax calls).map okReply)
  | .metrics => do
    let calls ← routeMetrics
    pure ((page httpResponseMax calls).map okReply)
  | .notFound => pure (some ⟨404, ascii "Not Found", notFoundBody⟩)

/-! ## Sending -/

/-- The text formatted into the `char[512]`. -/
def httpHeader (statusCode : Nat) (statusText : Bytes) (bodyLen : Nat) : Bytes :=
  ascii "HTTP/1.1 " ++ decimal statusCode ++ ascii " " ++ statusText ++ crlf ++
    ascii "Content-Type: text/html; charset=UTF-8" ++ crlf ++
    ascii "Content-Length: " ++ decimal bodyLen ++ crlf ++
    ascii "Connection: close" ++ crlf ++
    crlf

/-- The bytes the loop puts on the socket, given what its calls of `send` return. -/
def sendBody : List Int → Bytes → Bytes
  | [], _ => []
  | n :: returns, body =>
    if body = [] ∨ n ≤ 0 then []
    else body.take n.toNat ++ sendBody returns (body.drop n.toNat)

/-- The bytes of a response; the header is sent by one call whose result is not looked at. -/
def sendHttpResponse (statusCode : Nat) (statusText body : Bytes) : List Int → Bytes
  | [] => []
  | n :: returns =>
    (httpHeader statusCode statusText body.length).take n.toNat ++ sendBody returns body

/-- The length announced is that of the string in the buffer. -/
def httpLogAndSend (reply : HttpReply) (returns : List Int) : Bytes :=
  sendHttpResponse reply.status reply.reason (cString reply.body) returns

/-- How many bytes the calls take before one fails. -/
def bytesTaken (returns : List Int) : Nat :=
  ((returns.takeWhile fun n => decide (0 < n)).map Int.toNat).sum

theorem sendBody_eq (returns : List Int) (body : Bytes) :
    sendBody returns body = body.take (bytesTaken returns) := by
  induction returns generalizing body with
  | nil => exact List.take_zero.symm
  | cons n returns ih =>
    rw [sendBody]
    by_cases hn : 0 < n
    · have htaken : bytesTaken (n :: returns) = n.toNat + bytesTaken returns := by
        simp only [bytesTaken, List.takeWhile_cons, hn, decide_true, if_true, List.map_cons,
          List.sum_cons]
      rw [htaken]
      split
      · next h =>
        rcases h with rfl | h
        · exact List.take_nil.symm
        · omega
      · rw [ih, List.take_add]
    · have htaken : bytesTaken (n :: returns) = 0 := by
        simp only [bytesTaken, List.takeWhile_cons, hn, decide_false, Bool.false_eq_true, if_false,
          List.map_nil, List.sum_nil]
      rw [htaken, if_pos (Or.inr (by omega)), List.take_zero]

theorem sendBody_prefix (returns : List Int) (body : Bytes) : sendBody returns body <+: body := by
  rw [sendBody_eq]
  exact List.take_prefix _ _

theorem sendBody_length_iff (returns : List Int) (body : Bytes) :
    (sendBody returns body).length = body.length ↔ body.length ≤ bytesTaken returns := by
  rw [sendBody_eq, List.length_take]
  omega

/-! ## The header -/

def statusLine (reply : HttpReply) : Bytes :=
  ascii "HTTP/1.1 " ++ decimal reply.status ++ ascii " " ++ reply.reason

def httpHeaders (bodyLen : Nat) : List Bytes :=
  [ascii "Content-Type: text/html; charset=UTF-8", ascii "Content-Length: " ++ decimal bodyLen,
    ascii "Connection: close"]

theorem httpHeader_lines (reply : HttpReply) (bodyLen : Nat) :
    httpHeader reply.status reply.reason bodyLen =
      endedLines (statusLine reply :: httpHeaders bodyLen) ++ crlf := by
  simp only [httpHeader, statusLine, httpHeaders, endedLines, List.append_assoc, List.append_nil]

theorem decimal_value (n : Nat) : decimal n ≠ [] ∧ (∀ c ∈ (decimal n).head?, ¬ IsBlank c) ∧
    ∀ c ∈ (decimal n).getLast?, ¬ IsBlank c := by
  have hdigit : ∀ c ∈ decimal n, ¬ IsBlank c := by
    intro c hc hblank
    have hbounds := decimal_bounds hc
    rcases List.mem_cons.mp hblank with rfl | hblank
    · exact absurd hbounds.1 (by decide)
    · rw [List.mem_singleton.mp hblank] at hbounds
      exact absurd hbounds.1 (by decide)
  exact ⟨(numeral_decimal n).ne_nil, fun c hc => hdigit c (List.mem_of_mem_head? hc),
    fun c hc => hdigit c (List.mem_of_mem_getLast? hc)⟩

/-- The header announces the length of the body and no coding. -/
theorem httpHeaders_sized (n : Nat) : Sized (httpHeaders n) n := by
  have htype : ascii "Content-Type: text/html; charset=UTF-8" =
      fieldLine (ascii "Content-Type") (ascii "text/html; charset=UTF-8") := by decide
  have hlength : ascii "Content-Length: " ++ decimal n =
      fieldLine (ascii "Content-Length") (decimal n) := by
    have hname : ascii "Content-Length: " = ascii "Content-Length" ++ ascii ": " := by decide
    rw [hname, fieldLine]
  have hclose : ascii "Connection: close" = fieldLine (ascii "Connection") (ascii "close") := by
    decide
  obtain ⟨hne, hhead, hlast⟩ := decimal_value n
  -- the field and the value that each of the three lines has
  have hfields : ∀ line ∈ httpHeaders n, ∀ name value, (58 : UInt8) ∉ name → Field name value line →
      name ∈ [ascii "content-type", ascii "connection"] ∨
        name = ascii "content-length" ∧ value = decimal n := by
    intro line hline name value hname hfield
    simp only [httpHeaders, List.mem_cons, List.not_mem_nil, or_false] at hline
    rcases hline with rfl | rfl | rfl
    · rw [htype] at hfield
      have hsame := (fieldLine_unique (by decide) hname (by decide) (by decide +kernel)
        (by decide +kernel) hfield).1
      rw [← hsame]
      exact Or.inl (by decide)
    · rw [hlength] at hfield
      obtain ⟨hsame, hvalue⟩ := fieldLine_unique (by decide) hname hne hhead hlast hfield
      rw [← hsame]
      exact Or.inr ⟨by decide, hvalue⟩
    · rw [hclose] at hfield
      have hsame := (fieldLine_unique (by decide) hname (by decide) (by decide +kernel)
        (by decide +kernel) hfield).1
      rw [← hsame]
      exact Or.inl (by decide)
  refine ⟨?_, ⟨ascii "Content-Length: " ++ decimal n, ?_, decimal n, ?_⟩, ?_⟩
  · rintro ⟨line, hline, value, hfield⟩
    rcases hfields line hline _ value (by decide) hfield with h | ⟨h, -⟩
    · exact absurd h (by decide)
    · exact absurd h (by decide)
  · exact List.mem_cons_of_mem _ List.mem_cons_self
  · rw [hlength]
    have hname : ascii "content-length" = (ascii "Content-Length").map lower := by decide
    rw [hname]
    exact field_fieldLine hhead hlast
  · intro line hline value hfield
    rcases hfields line hline _ value (by decide) hfield with h | ⟨-, hvalue⟩
    · exact absurd h (by decide)
    · exact hvalue

/-! ## The replies -/

/-- The status codes of the console with their texts. -/
def statusTexts : List (Nat × Bytes) :=
  [(200, ascii "OK"), (400, ascii "Bad Request"), (401, ascii "Unauthorized"),
    (404, ascii "Not Found"), (500, ascii "Internal Server Error")]

/-- The codes a route can answer with. -/
def HttpRoute.statuses : HttpRoute → List Nat
  | .badRequest _ => [400]
  | .login _ => [200, 400, 401, 500]
  | .notFound => [404]
  | .home | .dashboard | .sensors | .alerts | .metrics => [200]

/-- A reply of the route, with a page that fits its buffer. -/
structure ReplyOf (route : HttpRoute) (reply : HttpReply) : Prop where
  code : (reply.status, reply.reason) ∈ statusTexts
  status : reply.status ∈ route.statuses
  short : reply.body.length < httpResponseMax

theorem snprintf_length_lt {size : Nat} (hsize : 0 < size) (text : Bytes) :
    (snprintf size text).length < size := by
  rw [snprintf, List.length_take]
  omega

theorem replyOf_mk {route : HttpRoute} {codes : List Nat} (hroute : route.statuses = codes)
    {status : Nat} {reason body : Bytes} (hcode : (status, reason) ∈ statusTexts)
    (hstatus : status ∈ codes) (h : body.length < httpResponseMax) :
    ReplyOf route ⟨status, reason, body⟩ where
  code := hcode
  status := hroute ▸ hstatus
  short := h

theorem replyOf_ok {route : HttpRoute} (hroute : route.statuses = [200]) {body : Bytes}
    (h : body.length < httpResponseMax) : ReplyOf route (okReply body) :=
  replyOf_mk hroute (by decide) (by decide) h

/-- The route answers in this way, and only the alerts page may have no answer. -/
def RouteAnswered (route : HttpRoute) (result : Option HttpReply) : Prop :=
  (∀ reply, result = some reply → ReplyOf route reply) ∧ (result = none → route = .alerts)

theorem answered_some {route : HttpRoute} {reply : HttpReply} (h : ReplyOf route reply) :
    RouteAnswered route (some reply) :=
  ⟨fun _ hreply => Option.some.inj hreply ▸ h, fun hnone => (by cases hnone)⟩

theorem login_replyOf (authHost authPort : Bytes) (attempt : Attempt) (query : Option Bytes) :
    ReplyOf (.login query) (routeLogin authHost authPort attempt query).reply := by
  have hsize : 0 < httpResponseMax := by decide
  have hroute : (HttpRoute.login query).statuses = [200, 400, 401, 500] := rfl
  rw [routeLogin]
  split
  · exact replyOf_mk hroute (by decide) (by decide) (snprintf_length_lt hsize _)
  · simp only [loginReply]
    split
    · exact replyOf_mk hroute (by decide) (by decide) (snprintf_length_lt hsize _)
    split
    · exact replyOf_mk hroute (by decide) (by decide) (snprintf_length_lt hsize _)
    · exact replyOf_mk hroute (by decide) (by decide) (snprintf_length_lt hsize _)

/-- The page of the sensors is built from every state. -/
theorem sensors_answered (g : GlobalState) :
    RouteAnswered .sensors ((sensorsBody (scanSensors g)).map okReply) := by
  have hcount := occupied_length_le g
  have htotal := two_digits hcount
  have hactive := two_digits (Nat.le_trans (List.countP_le_length
    (p := fun s : Sensor => decide (s.status = .active))) hcount)
  have halert := two_digits (Nat.le_trans (List.countP_le_length
    (p := fun s : Sensor => decide (s.alertLevel = .alert))) hcount)
  have hrows := rows_length_le g
  rw [scan_body, Option.map_some]
  apply answered_some
  apply replyOf_ok rfl
  rw [List.length_append, List.length_append, sensorsHead_length, List.flatMap_def,
    totalLength_flatten, sensorsTail_length, alerting]
  simp only [httpResponseMax]
  omega

theorem page_answered {route : HttpRoute} (hroute : route.statuses = [200]) {calls : List Call}
    (h : page httpResponseMax calls = none → route = .alerts) :
    RouteAnswered route ((page httpResponseMax calls).map okReply) := by
  cases hpage : page httpResponseMax calls with
  | none => exact ⟨fun _ hreply => (by cases hreply), fun _ => h hpage⟩
  | some body => exact answered_some (replyOf_ok hroute (page_length hpage (by decide)))

/-- A request that is refused gets one of two short texts. -/
theorem badRequest_short {s rest : Stream} {body : Bytes}
    (h : handleHttpRequest s = some (.badRequest body, rest)) : body.length < httpResponseMax := by
  rw [handleHttpRequest] at h
  split at h
  · cases h
  · have hroute := (Prod.mk.inj (Option.some.inj h)).1
    rw [routeRequest] at hroute
    split at hroute
    · cases hroute
      decide
    split at hroute
    · cases hroute
      decide
    split at hroute
    · cases hroute
      decide
    · rw [routePath] at hroute
      repeat' split at hroute
      all_goals cases hroute

section Replies
variable {I : GlobalState → Prop}

/-- What the route answers in any state that the other threads leave. -/
theorem ensures_routeReply (hI : ∀ g, I g → stateGetMetricCount g ≤ maxMetrics) {route : HttpRoute}
    (hroute : ∀ body, route = .badRequest body → body.length < httpResponseMax)
    (authHost authPort : Bytes) (attempt : Attempt) :
    Program.Ensures I (RouteAnswered route) (routeReply authHost authPort attempt route) := by
  have hsize : 0 < httpResponseMax := by decide
  cases route with
  | badRequest body =>
    have hcodes : (HttpRoute.badRequest body).statuses = [400] := rfl
    exact Program.ensures_pure
      (answered_some (replyOf_mk hcodes (by decide) (by decide) (hroute body rfl)))
  | home =>
    exact Program.ensures_pure (answered_some (replyOf_ok rfl (snprintf_length_lt hsize _)))
  | login query =>
    exact Program.ensures_pure (answered_some (login_replyOf authHost authPort attempt query))
  | dashboard =>
    have hbody : Program.Ensures I (fun body => body.length < httpResponseMax) routeDashboard := by
      refine Program.ensures_bind (Q := fun _ => True)
        (Program.ensures_call fun g hg => ⟨hg, trivial⟩) fun total _ => ?_
      refine Program.ensures_bind (Q := fun _ => True)
        (Program.ensures_call fun g hg => ⟨hg, trivial⟩) fun active _ => ?_
      refine Program.ensures_bind (Q := fun _ => True)
        (Program.ensures_call fun g hg => ⟨hg, trivial⟩) fun alerts _ => ?_
      refine Program.ensures_bind (Q := fun _ => True)
        (Program.ensures_call fun g hg => ⟨hg, trivial⟩) fun metrics _ => ?_
      exact Program.ensures_pure (snprintf_length_lt hsize _)
    exact Program.ensures_bind hbody fun body h =>
      Program.ensures_pure (answered_some (replyOf_ok rfl h))
  | sensors =>
    have hscan : Program.Ensures I (fun st => RouteAnswered .sensors ((sensorsBody st).map okReply))
        (Program.call fun g => (scanSensors g, g)) := by
      apply Program.ensures_call
      intro g hg
      dsimp only
      exact ⟨hg, sensors_answered g⟩
    have hbody : Program.Ensures I (fun body => RouteAnswered .sensors (body.map okReply))
        routeSensors :=
      Program.ensures_bind hscan fun st h => Program.ensures_pure h
    exact Program.ensures_bind hbody fun body h => Program.ensures_pure h
  | alerts =>
    have hcalls : Program.Ensures I (fun _ => True) routeAlerts := by
      refine Program.ensures_bind (Q := fun _ => True)
        (Program.ensures_call fun g hg => ⟨hg, trivial⟩) fun count _ => ?_
      refine Program.ensures_bind (Q := fun _ => True)
        (Program.ensures_call fun g hg => ⟨hg, trivial⟩) fun alerts _ => ?_
      exact Program.ensures_pure trivial
    exact Program.ensures_bind hcalls fun calls _ =>
      Program.ensures_pure (page_answered rfl fun _ => rfl)
  | metrics =>
    have hcalls : Program.Ensures I (fun calls => page httpResponseMax calls ≠ none)
        routeMetrics := by
      refine Program.ensures_bind (Q := fun count => count ≤ maxMetrics)
        (Program.ensures_call fun g hg => ⟨hg, hI g hg⟩) fun count hcount => ?_
      refine Program.ensures_bind (Q := fun _ => True)
        (Program.ensures_call fun g hg => ⟨hg, trivial⟩) fun metrics _ => ?_
      obtain ⟨k, -, hpage⟩ := page_metricsCalls hcount metrics
      apply Program.ensures_pure
      rw [hpage]
      exact Option.some_ne_none _
    exact Program.ensures_bind hcalls fun calls h =>
      Program.ensures_pure (page_answered rfl fun hnone => absurd hnone h)
  | notFound =>
    exact Program.ensures_pure
      (answered_some (replyOf_mk rfl (by decide) (by decide) (snprintf_length_lt hsize _)))

/-- No request changes the shared state. -/
theorem readOnly_routeReply (authHost authPort : Bytes) (attempt : Attempt) (route : HttpRoute) :
    Program.ReadOnly (routeReply authHost authPort attempt route) := by
  have hdashboard : Program.ReadOnly routeDashboard :=
    Program.readOnly_bind (Program.readOnly_call fun _ => rfl) fun total =>
      Program.readOnly_bind (Program.readOnly_call fun _ => rfl) fun active =>
        Program.readOnly_bind (Program.readOnly_call fun _ => rfl) fun alerts =>
          Program.readOnly_bind (Program.readOnly_call fun _ => rfl) fun metrics =>
            Program.readOnly_pure _
  have hsensors : Program.ReadOnly routeSensors :=
    Program.readOnly_bind (Program.readOnly_call fun _ => rfl) fun st => Program.readOnly_pure _
  have halerts : Program.ReadOnly routeAlerts :=
    Program.readOnly_bind (Program.readOnly_call fun _ => rfl) fun count =>
      Program.readOnly_bind (Program.readOnly_call fun _ => rfl) fun alerts =>
        Program.readOnly_pure _
  have hmetrics : Program.ReadOnly routeMetrics :=
    Program.readOnly_bind (Program.readOnly_call fun _ => rfl) fun count =>
      Program.readOnly_bind (Program.readOnly_call fun _ => rfl) fun metrics =>
        Program.readOnly_pure _
  cases route with
  | badRequest body => exact Program.readOnly_pure _
  | home => exact Program.readOnly_pure _
  | login query => exact Program.readOnly_pure _
  | dashboard => exact Program.readOnly_bind hdashboard fun body => Program.readOnly_pure _
  | sensors => exact Program.readOnly_bind hsensors fun body => Program.readOnly_pure _
  | alerts => exact Program.readOnly_bind halerts fun calls => Program.readOnly_pure _
  | metrics => exact Program.readOnly_bind hmetrics fun calls => Program.readOnly_pure _
  | notFound => exact Program.readOnly_pure _

end Replies

/-! ## What a reader makes of the response -/

/-- The response is one HTTP message. Its head is sent whole by the first call, it ends at the first
blank line, and behind it a reader takes the content for complete exactly when all of the page
arrived, whatever the other calls take and whether or not the connection was closed. -/
structure FramedReply (reply : HttpReply) : Prop where
  fits : (httpHeader reply.status reply.reason (cString reply.body).length).length < 512
  lines : ∀ line ∈ statusLine reply :: httpHeaders (cString reply.body).length, HeadLine line
  status : HasStatus (decimal reply.status) (statusLine reply)
  message : ∀ (first : Int) (returns : List Int),
    (httpHeader reply.status reply.reason (cString reply.body).length).length ≤ first.toNat →
    ∃ received, received <+: cString reply.body ∧
      httpLogAndSend reply (first :: returns) =
        endedLines (statusLine reply :: httpHeaders (cString reply.body).length) ++
          (crlf ++ received) ∧
      strstr (httpLogAndSend reply (first :: returns)) (crlf ++ crlf) =
        some (crlf ++ crlf ++ received) ∧
      ∀ closed content,
        Carries closed (httpHeaders (cString reply.body).length) received content ↔
          (cString reply.body).length ≤ bytesTaken returns ∧ content = cString reply.body

theorem headLine_decimal {start : Bytes} (hne : start ≠ [])
    (hclean : ∀ c ∈ start, c ∉ [(0 : UInt8), 10, 13]) (n : Nat) : HeadLine (start ++ decimal n) where
  nonempty := List.append_ne_nil_of_left_ne_nil hne _
  clean := by
    intro c hc
    rcases List.mem_append.mp hc with hc | hc
    · exact hclean c hc
    · have hbounds := (decimal_bounds hc).1
      intro hbad
      simp only [List.mem_cons, List.not_mem_nil, or_false] at hbad
      rcases hbad with rfl | rfl | rfl <;> exact absurd hbounds (by decide)

theorem httpHeaders_clean (n : Nat) : ∀ line ∈ httpHeaders n, HeadLine line := by
  intro line hline
  simp only [httpHeaders, List.mem_cons, List.not_mem_nil, or_false] at hline
  rcases hline with rfl | rfl | rfl
  · exact ⟨by decide, by decide⟩
  · exact headLine_decimal (by decide) (by decide) n
  · exact ⟨by decide, by decide⟩

/-- The status lines, one by one. -/
theorem statusLine_spec {reply : HttpReply} (h : (reply.status, reply.reason) ∈ statusTexts) :
    HeadLine (statusLine reply) ∧ HasStatus (decimal reply.status) (statusLine reply) ∧
      (statusLine reply).length ≤ 34 := by
  have hall : ∀ p ∈ statusTexts,
      (∀ c ∈ ascii "HTTP/1.1 " ++ decimal p.1 ++ ascii " " ++ p.2, c ∉ [(0 : UInt8), 10, 13]) ∧
        (ascii "HTTP/1.1 " ++ decimal p.1 ++ ascii " " ++ p.2).length ≤ 34 := by decide +kernel
  obtain ⟨hclean, hlength⟩ := hall _ h
  refine ⟨⟨?_, hclean⟩, ⟨49, ascii " " ++ reply.reason, by decide, Or.inr rfl, ?_⟩, hlength⟩
  · have hstart : ascii "HTTP/1.1 " ≠ [] := by decide
    simp only [statusLine, List.append_assoc]
    exact List.append_ne_nil_of_left_ne_nil hstart _
  · have hversion : ascii "HTTP/1.1 " = ascii "HTTP/1." ++ [49] ++ ascii " " := by decide
    rw [statusLine, hversion]
    simp only [List.append_assoc]

theorem framedReply_of_replyOf {route : HttpRoute} {reply : HttpReply} (h : ReplyOf route reply) :
    FramedReply reply := by
  obtain ⟨hfirst, hstatus, hlength⟩ := statusLine_spec h.code
  have hbody : (cString reply.body).length < httpResponseMax :=
    Nat.lt_of_le_of_lt (List.takeWhile_sublist _).length_le h.short
  have hdigits : (decimal (cString reply.body).length).length ≤ 5 :=
    decimal_length_le (by omega) (Nat.lt_trans hbody (by decide))
  have hlines : ∀ line ∈ statusLine reply :: httpHeaders (cString reply.body).length,
      HeadLine line := by
    intro line hline
    rcases List.mem_cons.mp hline with rfl | hline
    · exact hfirst
    · exact httpHeaders_clean _ line hline
  refine ⟨?_, hlines, hstatus, fun first returns htook => ?_⟩
  · have htype : (ascii "Content-Type: text/html; charset=UTF-8").length = 38 := by decide
    have hname : (ascii "Content-Length: ").length = 16 := by decide
    have hclose : (ascii "Connection: close").length = 17 := by decide
    have hcrlf : crlf.length = 2 := rfl
    rw [httpHeader_lines]
    simp only [httpHeaders, endedLines, List.length_append, List.length_nil, htype, hname, hclose,
      hcrlf]
    omega
  · have hsent : httpLogAndSend reply (first :: returns) =
        endedLines (statusLine reply :: httpHeaders (cString reply.body).length) ++
          (crlf ++ sendBody returns (cString reply.body)) := by
      rw [httpLogAndSend, sendHttpResponse, List.take_of_length_le htook, httpHeader_lines,
        List.append_assoc]
    refine ⟨_, sendBody_prefix returns _, hsent, ?_, fun closed content => ?_⟩
    · rw [hsent]
      exact strstr_blankLine hlines _
    · rw [(httpHeaders_sized _).carries_iff, sendBody_length_iff]
      constructor
      · rintro ⟨hall, rfl⟩
        refine ⟨hall, ?_⟩
        rw [sendBody_eq, List.take_of_length_le hall]
      · rintro ⟨hall, rfl⟩
        refine ⟨hall, ?_⟩
        rw [sendBody_eq, List.take_of_length_le hall]

namespace System
variable {n : Nat}

/-- The shared state of some run. -/
def Reached (n : Nat) (g : GlobalState) : Prop :=
  ∃ actions, ∃ s : System n, Runs.run step (init n) actions = some s ∧ s.g = g

/-- Every request whose line arrives is answered by a framed response of its route, from any states
the sensors bring about meanwhile, except that the alerts page may leave its buffer; and no
request changes the shared state. -/
theorem requests_answered (authHost authPort : Bytes) (attempt : Attempt) {s rest : Stream}
    {route : HttpRoute} (hrequest : handleHttpRequest s = some (route, rest))
    {env : Nat → GlobalState → GlobalState} (henv : ∀ k g, Reached n g → Reached n (env k g))
    {st : Nat × GlobalState} (hst : Reached n st.2) :
    (∀ reply, (((routeReply authHost authPort attempt route).disturbed env).run st).1 =
      some reply → reply.status ∈ route.statuses ∧ FramedReply reply) ∧
    ((((routeReply authHost authPort attempt route).disturbed env).run st).1 = none →
      route = .alerts) ∧
    ∀ q ∈ (routeReply authHost authPort attempt route).sections env st, q.2 = q.1 := by
  have hcount : ∀ g, Reached n g → stateGetMetricCount g ≤ maxMetrics := by
    rintro g ⟨actions, t, hrun, rfl⟩
    exact (systemOk_run hrun).tables.metrics.count_le
  have hshort : ∀ body, route = .badRequest body → body.length < httpResponseMax := by
    rintro body rfl
    exact badRequest_short hrequest
  have hanswered := ((ensures_routeReply hcount hshort authHost authPort attempt).run henv hst).1
  refine ⟨fun reply hreply => ?_, hanswered.2,
    (readOnly_routeReply authHost authPort attempt route).sections st⟩
  have hof := hanswered.1 reply hreply
  exact ⟨hof.status, framedReply_of_replyOf hof⟩

/-- A reading is stored between the two sections of a request for `/metrics`: the page shows it below
a header card that says 0. -/
theorem requests_answered_late : ∃ reply : HttpReply,
    reply.body = metricsHead 0 ++ metricRow hotMetric ++ metricsTail ∧ FramedReply reply := by
  have hrequest : handleHttpRequest
      ⟨ascii "GET /metrics HTTP/1.1" ++ crlf ++ crlf, .closed⟩ = some (.metrics, ⟨[], .closed⟩) := by
    decide +kernel
  obtain ⟨before, s, hs, -, hnone⟩ := hotMetrics_run 0
  obtain ⟨after, s', hs', -, hone⟩ := hotMetrics_run 1
  obtain ⟨env, henv⟩ : ∃ env : Nat → GlobalState → GlobalState,
      env = fun k _ => if k = 0 then s.g else s'.g := ⟨_, rfl⟩
  have hreached : ∀ k g, Reached 1 g → Reached 1 (env k g) := by
    intro k g _
    rw [henv]
    by_cases hk : k = 0
    · exact ⟨before, s, hs, (if_pos hk).symm⟩
    · exact ⟨after, s', hs', (if_neg hk).symm⟩
  have hpage : page httpResponseMax (metricsCalls 0 [hotMetric]) =
      some (metricsHead 0 ++ metricRow hotMetric ++ metricsTail) := by
    obtain ⟨k, hk, hpage⟩ := page_metricsCalls (by decide : 0 ≤ maxMetrics) [hotMetric]
    have hshown : 0 < k := (hk.shown_iff 0 (by decide)).mpr (by
      rw [metricsHead_length]
      decide)
    rw [List.take_of_length_le hshown, List.flatMap_singleton] at hpage
    exact hpage
  have hreply : (((routeReply [] [] .noSocket .metrics).disturbed env).run (0, stateInit)).1 =
      some (okReply (metricsHead 0 ++ metricRow hotMetric ++ metricsTail)) := by
    simp only [routeReply, routeMetrics, Program.disturbed_bind, Program.run_bind,
      Program.run_disturbed_call, Program.disturbed_pure, Program.run_pure, henv, if_true,
      Nat.zero_add, Nat.one_ne_zero, if_false, (hnone.shown (by decide)).1,
      (hone.shown (by decide)).2, List.replicate_one, hpage, Option.map_some]
  have hst : Reached 1 ((0, stateInit) : Nat × GlobalState).2 := ⟨[], _, rfl, rfl⟩
  exact ⟨_, rfl, ((requests_answered [] [] .noSocket hrequest hreached hst).1 _ hreply).2⟩

end System

end IotMonitoring
