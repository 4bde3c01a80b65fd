import IotMonitoring.Shared.Substrings
import IotMonitoring.Shared.UnicodeTexts

/-!
# The authentication service

`auth` of `auth_server.py` and the bytes Flask sends for it: a head of nonblank
lines, a blank line, and the answer as JSON in ASCII, with its keys in order and
with one of the two styles of separators.
-/

namespace IotMonitoring

open ByteStrings UnicodeTexts
set_option autoImplicit false

namespace AuthServer

/-- The dictionary `USERS`: each name with its role. -/
abbrev Users := List (Text × Text)

/-- `str.isspace`. -/
def isSpace : CodePoint → Bool
  | .scalar c =>
    (9 ≤ c.toNat && c.toNat ≤ 13) || (28 ≤ c.toNat && c.toNat ≤ 32) ||
      [0x85, 0xa0, 0x1680, 0x2028, 0x2029, 0x202f, 0x205f, 0x3000].contains c.toNat ||
      (0x2000 ≤ c.toNat && c.toNat ≤ 0x200a)
  | .surrogate _ => false

/-- `str.strip`. -/
def strip (t : Text) : Text := ((t.dropWhile isSpace).reverse.dropWhile isSpace).reverse

inductive Json where
  | bool (b : Bool)
  | null
  | str (t : Text)

/-- The fields of the answer and its status; `arg` is the query parameter `user`, empty if missing. -/
def auth (users : Users) (arg : Text) : Nat × List (Bytes × Json) :=
  let user := strip arg
  if user = [] then
    (400, [(ascii "error", .str (ofAscii (ascii "Missing 'user' parameter")))])
  else
    match users.lookup user with
    | some role => (200, [(ascii "exists", .bool true), (ascii "role", .str role)])
    | none => (200, [(ascii "exists", .bool false), (ascii "role", .null)])

/-! ## JSON -/

def hexByte (d : Nat) : UInt8 := if d < 10 then (48 + d).toUInt8 else (87 + d).toUInt8

def escapeUnit (u : Nat) : Bytes :=
  ascii "\\u" ++ [hexByte (u / 4096 % 16), hexByte (u / 256 % 16), hexByte (u / 16 % 16), hexByte (u % 16)]

def jsonChar : CodePoint → Bytes
  | .surrogate offset => escapeUnit (0xd800 + offset)
  | .scalar c =>
    if c = '"' then ascii "\\\""
    else if c = '\\' then ascii "\\\\"
    else if 32 ≤ c.toNat ∧ c.toNat ≤ 126 then [UInt8.ofNat c.toNat]
    else if c.toNat = 8 then ascii "\\b"
    else if c.toNat = 9 then ascii "\\t"
    else if c.toNat = 10 then ascii "\\n"
    else if c.toNat = 12 then ascii "\\f"
    else if c.toNat = 13 then ascii "\\r"
    else if c.toNat < 0x10000 then escapeUnit c.toNat
    else escapeUnit (0xd800 + (c.toNat - 0x10000) / 1024) ++
      escapeUnit (0xdc00 + (c.toNat - 0x10000) % 1024)

def quote : UInt8 := 34

def jsonString (t : Text) : Bytes := [quote] ++ t.flatMap jsonChar ++ [quote]

def Json.encode : Json → Bytes
  | bool true => ascii "true"
  | bool false => ascii "false"
  | null => ascii "null"
  | str t => jsonString t

/-- The separators `","` and `":"`, or `", "` and `": "`. -/
inductive Separators where
  | compact | spaced

def Separators.item : Separators → Bytes
  | compact => ascii ","
  | spaced => ascii ", "

def Separators.key : Separators → Bytes
  | compact => ascii ":"
  | spaced => ascii ": "

def jsonField (sep : Separators) (field : Bytes × Json) : Bytes :=
  jsonString (ofAscii field.1) ++ sep.key ++ field.2.encode

/-- `jsonify`, which ends its text with a line feed. -/
def jsonify (sep : Separators) (fields : List (Bytes × Json)) : Bytes :=
  [123] ++ sep.item.intercalate (fields.map (jsonField sep)) ++ [125, 10]

/-! ## Responses -/

structure Head where
  statusLine : Bytes
  headers : List Bytes
  lines : ∀ l ∈ statusLine :: headers, HeadLine l

def response (head : Head) (body : Bytes) : Bytes :=
  endedLines (head.statusLine :: head.headers) ++ (crlf ++ body)

end AuthServer

end IotMonitoring
