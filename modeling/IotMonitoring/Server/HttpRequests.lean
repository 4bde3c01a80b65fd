import IotMonitoring.Auth.AuthClient
import IotMonitoring.Server.HttpServer
import IotMonitoring.Server.Utils

/-!
# Requests of the operator console

`handle_http_request` takes the request line apart with the functions of
`string.h` and chooses a route; `route_login` finds the user name in the query
and asks the authentication service about it.
-/

namespace IotMonitoring

open ByteStrings
set_option autoImplicit false

/-! ## The request line -/

/-- The routes; only `route_login` receives the query string. -/
inductive HttpRoute where
  | badRequest (body : Bytes)
  | home
  | login (query : Option Bytes)
  | dashboard
  | sensors
  | alerts
  | metrics
  | notFound
deriving DecidableEq

def isSpaceByte (c : UInt8) : Bool := c == 32
def questionMark : UInt8 := 63
def ampersand : UInt8 := 38

def routePath (path : Bytes) (query : Option Bytes) : HttpRoute :=
  if path = ascii "/" then .home
  else if path = ascii "/login" then .login query
  else if path = ascii "/dashboard" then .dashboard
  else if path = ascii "/sensors" then .sensors
  else if path = ascii "/alerts" then .alerts
  else if path = ascii "/metrics" then .metrics
  else .notFound

/-- The part of `handle_http_request` after the request has been read. The dash of the second body
is a multi-byte character. -/
def routeRequest (buf : Bytes) : HttpRoute :=
  match strtok isSpaceByte (cString buf) with
  | none => .badRequest (ascii "<h1>400 Bad Request</h1>")
  | some (method, rest) =>
    match strtok isSpaceByte rest with
    | none => .badRequest (ascii "<h1>400 Bad Request</h1>")
    | some (path, _) =>
      if method ≠ ascii "GET" then
        .badRequest (ascii "<h1>400 Bad Request " ++ [0xE2, 0x80, 0x94] ++
          ascii " Only GET supported</h1>")
      else routePath (cutAt path questionMark) ((strchr path questionMark).map (·.drop 1))

/-- The loop over the header lines: it ends at an empty one and when `recv_line` fails. -/
def skipHeaders : Nat → Stream → Stream
  | 0, s => s
  | fuel + 1, s =>
    let r := recvLine bufferSize s
    if r.ret ≤ 0 ∨ cString r.buf = [] then ⟨r.rest, s.ending⟩
    else skipHeaders fuel ⟨r.rest, s.ending⟩

/-- The route taken, with what is left unread; `none` when no request line arrives. -/
def handleHttpRequest (s : Stream) : Option (HttpRoute × Stream) :=
  let r := recvLine bufferSize s
  if r.ret ≤ 0 then none
  else
    let rest : Stream := ⟨r.rest, s.ending⟩
    some (routeRequest r.buf, skipHeaders (rest.bytes.length + 1) rest)

theorem recvLine_rest_lt {s : Stream} (h : cString (recvLine bufferSize s).buf ≠ []) :
    (recvLine bufferSize s).rest.length < s.bytes.length := by
  have hlen := recvLine_length s
  have hpos : 0 < (recvLine bufferSize s).buf.length := by
    apply List.length_pos_iff.mpr
    intro hnil
    apply h
    rw [hnil]
    rfl
  omega

/-- Every header line takes bytes off the stream, so the loop ends before its fuel. -/
theorem skipHeaders_fuel {fuel fuel' : Nat} {s : Stream} (h : s.bytes.length < fuel)
    (h' : s.bytes.length < fuel') : skipHeaders fuel s = skipHeaders fuel' s := by
  induction fuel generalizing fuel' s with
  | zero => exact absurd h (Nat.not_lt_zero _)
  | succ fuel ih =>
    obtain ⟨fuel', rfl⟩ := Nat.exists_eq_succ_of_ne_zero (Nat.ne_zero_of_lt h')
    simp only [skipHeaders]
    by_cases hend : (recvLine bufferSize s).ret ≤ 0 ∨ cString (recvLine bufferSize s).buf = []
    · rw [if_pos hend, if_pos hend]
    · rw [if_neg hend, if_neg hend]
      have hrest := recvLine_rest_lt (not_or.mp hend).2
      apply ih
      · exact Nat.lt_of_lt_of_le hrest (Nat.le_of_lt_succ h)
      · exact Nat.lt_of_lt_of_le hrest (Nat.le_of_lt_succ h')

/-! ## GET /login -/

structure HttpReply where
  status : Nat
  reason : Bytes
  body : Bytes

/-- `username`: the text after the first `user=` of the query, cut to its field and at an `&`. -/
def loginUser (query : Option Bytes) : Bytes :=
  match query with
  | none => []
  | some query =>
    match strstr query (ascii "user=") with
    | none => []
    | some userParam => cutAt (safeStrncpy (userParam.drop 5) : Buffer maxIdLen).text ampersand

/-- A page of `route_login`: the title and the parts of its card, with what `%s` puts in between. -/
def loginPage (title : String) (parts : List Bytes) : Bytes :=
  snprintf httpResponseMax
    (ascii "<!DOCTYPE html><html><head>" ++ ascii "<meta charset='UTF-8'><title>" ++ ascii title ++
      ascii "</title>" ++ cssStyle ++ ascii "</head><body>" ++ buildNav ++
      ascii "<div class='container'>" ++ ascii "<div class='card'>" ++ parts.flatten ++
      ascii "</div></div></body></html>")

def loginMissing : Bytes :=
  loginPage "Error"
    [ascii "<p class='msg-error'>&#x26A0; Debes proporcionar un usuario: ",
      ascii "/login?user=nombre</p>",
      ascii "<a href='/'>&#x2190; Volver al inicio</a>"]

def loginFailed (errorMsg : Bytes) : Bytes :=
  loginPage "Error de Autenticaci&oacute;n"
    [ascii "<h1>&#x26A0; Error del servicio de autenticaci&oacute;n</h1>",
      ascii "<p class='msg-error'>", errorMsg, ascii "</p>",
      ascii "<p>El servidor de autenticaci&oacute;n no est&aacute; disponible. ",
      ascii "Intenta m&aacute;s tarde.</p>",
      ascii "<a href='/'>&#x2190; Volver al inicio</a>"]

def loginDenied (username : Bytes) : Bytes :=
  loginPage "Acceso Denegado"
    [ascii "<h1>&#x1F6AB; Acceso Denegado</h1>",
      ascii "<p class='msg-error'>El usuario <strong>", username, ascii "</strong> ",
      ascii "no est&aacute; registrado en el sistema.</p>",
      ascii "<a href='/'>&#x2190; Volver al inicio</a>"]

def loginWelcome (username role : Bytes) : Bytes :=
  loginPage "Bienvenido"
    [ascii "<h1>&#x2705; Bienvenido, ", username, ascii "</h1>",
      ascii "<p>Rol: <strong>", role, ascii "</strong></p>",
      ascii "<p>Accede al panel de monitoreo desde la barra de navegaci&oacute;n.</p>"]

/-- The user name `auth_check_user` is called with, if it is called, and the reply. -/
structure LoginOutcome where
  asked : Option Bytes
  reply : HttpReply

/-- The reply for the result of `auth_check_user`. -/
def loginReply (username : Bytes) (auth : AuthResult) : HttpReply :=
  if auth.error then ⟨500, ascii "Internal Server Error", loginFailed auth.errorMsg.text⟩
  else if ! auth.exists_ then ⟨401, ascii "Unauthorized", loginDenied username⟩
  else ⟨200, ascii "OK", loginWelcome username auth.role.text⟩

def routeLogin (authHost authPort : Bytes) (attempt : Attempt) (query : Option Bytes) :
    LoginOutcome :=
  let username := loginUser query
  if username = [] then ⟨none, ⟨400, ascii "Bad Request", loginMissing⟩⟩
  else ⟨some username, loginReply username (authCheckUser authHost authPort username attempt)⟩

/-- The bytes an HTTP client makes the server send to the authentication service. -/
def authTraffic (authHost : Bytes) (attempt : Attempt) (s : Stream) : Option Bytes :=
  match handleHttpRequest s with
  | some (.login query, _) => sentRequest authHost (loginUser query) attempt
  | _ => none

end IotMonitoring
