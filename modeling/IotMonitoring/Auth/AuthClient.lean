import IotMonitoring.Shared.Substrings
import IotMonitoring.Server.State

/-!
# The client of the authentication service

`auth_check_user` of `auth_client.c`. What the network does to a call is an
`Attempt`: it fails at one of the steps before the response, or the response
arrives in the pieces that the calls of `recv` return before the connection
ends.
-/

namespace IotMonitoring

open ByteStrings
set_option autoImplicit false

instance neZeroMessage : NeZero 128 := ⟨by decide⟩

structure AuthResult where
  exists_ : Bool
  role : Buffer 32
  error : Bool
  errorMsg : Buffer 128
deriving DecidableEq

namespace AuthResult

def zero : AuthResult := ⟨false, Buffer.zero, false, Buffer.zero⟩

def failed (message : Bytes) : AuthResult := { zero with error := true, errorMsg := .copy message }

end AuthResult

inductive Attempt where
  /-- `getaddrinfo` fails for this reason. -/
  | unresolved (reason : Bytes)
  | noSocket
  | refused
  | unsent
  | received (pieces : List Bytes)

/-- The request, formatted into a `char[BUFFER_SIZE]`. -/
def authRequest (authHost username : Bytes) : Bytes :=
  snprintf bufferSize
    (ascii "GET /auth?user=" ++ username ++ ascii " HTTP/1.1" ++ crlf ++
      ascii "Host: " ++ authHost ++ crlf ++
      ascii "Connection: close" ++ crlf ++
      crlf)

/-- The bytes passed to `send`, by an attempt that gets so far. -/
def sentRequest (authHost username : Bytes) (attempt : Attempt) : Option Bytes :=
  if username = [] then none
  else
    match attempt with
    | .unresolved _ | .noSocket | .refused => none
    | .unsent | .received _ => some (authRequest authHost username)

/-- The `recv` loop, with room for so many bytes; no piece, or an empty one, ends it. -/
def readResponse : Nat → List Bytes → Bytes
  | _, [] => []
  | room, piece :: pieces =>
    if room = 0 ∨ piece = [] then []
    else piece.take room ++ readResponse (room - piece.length) pieces

def quoteMark : UInt8 := 34
def colon : UInt8 := 58

/-- The text between the first two quotes after the colon of `"role":`. -/
def extractRole (body : Bytes) : Option Bytes :=
  match strstr body (ascii "\"role\":") with
  | none => none
  | some roleStart =>
    match strchr roleStart colon with
    | none => none
    | some atColon =>
      match strchr (atColon.drop 1) quoteMark with
      | none => none
      | some quote1 =>
        match strchr (quote1.drop 1) quoteMark with
        | none => none
        | some quote2 => some ((quote1.drop 1).take ((quote1.drop 1).length - quote2.length))

def parseBody (body : Bytes) : AuthResult :=
  if (strstr body (ascii "\"exists\": true")).isSome ∨ (strstr body (ascii "\"exists\":true")).isSome then
    match extractRole body with
    | some role => { AuthResult.zero with exists_ := true, role := .copy role }
    | none => { AuthResult.zero with exists_ := true }
  else AuthResult.zero

/-- The result made of the bytes read, which a zero byte ends as it ends every C string. -/
def parseResponse (bytes : Bytes) : AuthResult :=
  if bytes = [] then .failed (ascii "Empty response from auth service")
  else
    match strstr (cString bytes) (crlf ++ crlf) with
    | none => .failed (ascii "Invalid HTTP response from auth service")
    | some body => parseBody (body.drop 4)

def authCheckUser (authHost authPort username : Bytes) (attempt : Attempt) : AuthResult :=
  if username = [] then .failed (ascii "Empty username")
  else
    match attempt with
    | .unresolved reason =>
      .failed (ascii "DNS resolution failed for " ++ authHost ++ ascii ": " ++ reason)
    | .noSocket => .failed (ascii "Cannot create socket for auth")
    | .refused =>
      .failed (ascii "Cannot connect to auth service at " ++ authHost ++ ascii ":" ++ authPort)
    | .unsent => .failed (ascii "Failed to send auth request")
    | .received pieces => parseResponse (readResponse (bufferSize - 1) pieces)

end IotMonitoring
