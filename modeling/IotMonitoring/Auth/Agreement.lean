import IotMonitoring.Auth.AuthClient
import IotMonitoring.Auth.AuthServer

/-!
# What the client reads is what the service says

The client takes an answer apart by substrings. For roles of plain characters
the JSON of an answer holds the role as it is, its quotes are the last two of
the text, and the client finds what the service wrote however the response was
cut on the way.
-/

namespace IotMonitoring

open ByteStrings UnicodeTexts AuthServer
set_option autoImplicit false

def PlainChar : CodePoint → Prop
  | .scalar c => 32 ≤ c.toNat ∧ c.toNat ≤ 126 ∧ c ≠ '"' ∧ c ≠ '\\'
  | .surrogate _ => False

instance (p : CodePoint) : Decidable (PlainChar p) :=
  match p with
  | .scalar c => inferInstanceAs (Decidable (32 ≤ c.toNat ∧ c.toNat ≤ 126 ∧ c ≠ '"' ∧ c ≠ '\\'))
  | .surrogate _ => instDecidableFalse

structure PlainRole (role : Text) : Prop where
  nonempty : role ≠ []
  short : role.length ≤ 31
  plain : ∀ p ∈ role, PlainChar p

/-- The response to a request for `arg` arrives whole, in these pieces, and fits the client's array. -/
structure Delivered (users : Users) (arg : Text) (sep : Separators) (head : Head)
    (pieces : List Bytes) : Prop where
  nonempty : ∀ piece ∈ pieces, piece ≠ []
  whole : pieces.flatten = response head (jsonify sep (auth users arg).2)
  short : pieces.flatten.length < bufferSize

/-- The result says of the name what the table says. -/
structure Agrees (users : Users) (name : Text) (result : AuthResult) : Prop where
  noError : result.error = false
  exists_iff : result.exists_ = true ↔ ∃ role, users.lookup name = some role
  role_eq : ∀ role, users.lookup name = some role →
    UnicodeTexts.encode role = some result.role.text

/-! ## Reading a response -/

/-- However the response is cut, what is read of it are the bytes that there is room for. -/
theorem readResponse_take {pieces : List Bytes} {room : Nat} (hne : ∀ piece ∈ pieces, piece ≠ []) :
    readResponse room pieces = pieces.flatten.take room := by
  induction pieces generalizing room with
  | nil => rw [readResponse, List.flatten_nil, List.take_nil]
  | cons piece pieces ih =>
    rw [readResponse]
    by_cases hroom : room = 0
    · rw [if_pos (Or.inl hroom), hroom, List.take_zero]
    · have hpiece := hne piece List.mem_cons_self
      have hrest := @ih (room - piece.length) fun p hp => hne p (List.mem_cons_of_mem piece hp)
      rw [if_neg (not_or.mpr ⟨hroom, hpiece⟩), hrest, List.flatten_cons, List.take_append]

/-- A body without zero bytes is found behind every head. -/
theorem parseResponse_body (head : Head) {body : Bytes} (hbody : (0 : UInt8) ∉ body) :
    parseResponse (response head body) = parseBody body := by
  have hclean : (0 : UInt8) ∉ response head body := by
    intro hz
    rcases List.mem_append.mp hz with hz | hz
    · exact zero_notMem_endedLines head.lines hz
    rcases List.mem_append.mp hz with hz | hz
    · exact absurd hz (by decide)
    · exact hbody hz
  have hne : response head body ≠ [] := by
    intro h
    have hcrlf := (List.append_eq_nil_iff.mp (List.append_eq_nil_iff.mp h).2).1
    cases hcrlf
  rw [parseResponse, if_neg hne, cString_eq_self hclean, response, strstr_blankLine head.lines body]
  rfl

/-! ## The two answers -/

/-- An answer up to the quote that opens the role. -/
def beforeRole : Separators → Bytes
  | .compact => [123] ++ ascii "\"exists\":true,\"role\":"
  | .spaced => [123] ++ ascii "\"exists\": true, \"role\": "

theorem jsonify_known (sep : Separators) (role : Text) :
    jsonify sep [(ascii "exists", .bool true), (ascii "role", .str role)] =
      beforeRole sep ++ (quoteMark :: (role.flatMap jsonChar ++ quoteMark :: [125, 10])) := by
  have hrole : jsonString role ++ [125, 10] =
      quoteMark :: (role.flatMap jsonChar ++ quoteMark :: [125, 10]) := by
    rw [jsonString, List.append_assoc, List.append_assoc]
    rfl
  have hfields : jsonify sep [(ascii "exists", .bool true), (ascii "role", .str role)] =
      beforeRole sep ++ (jsonString role ++ []) ++ [125, 10] := by
    cases sep with
    | compact => rfl
    | spaced => rfl
  rw [hfields, List.append_nil, List.append_assoc, hrole]

theorem parseBody_unknown (sep : Separators) :
    parseBody (jsonify sep [(ascii "exists", .bool false), (ascii "role", .null)]) = .zero := by
  cases sep with
  | compact => decide
  | spaced => decide

/-- After the key of the role stand a colon and, for spaced answers, a space. -/
theorem strstr_role (sep : Separators) (text : Bytes) :
    strstr (beforeRole sep ++ text) (ascii "\"role\":") =
      some (ascii "\"role\"" ++ colon :: (sep.key.drop 1 ++ text)) := by
  cases sep with
  | compact => rfl
  | spaced => rfl

theorem strchr_opening (sep : Separators) (text : Bytes) :
    strchr (sep.key.drop 1 ++ quoteMark :: text) quoteMark = some (quoteMark :: text) := by
  cases sep with
  | compact => rfl
  | spaced => rfl

theorem extractRole_known (sep : Separators) {bytes : Bytes} (hbytes : ∀ b ∈ bytes, b ≠ quoteMark)
    (rest : Bytes) :
    extractRole (beforeRole sep ++ (quoteMark :: (bytes ++ quoteMark :: rest))) = some bytes := by
  have hcolon : ∀ text, strchr (ascii "\"role\"" ++ colon :: text) colon = some (colon :: text) :=
    fun text => rfl
  have hlen : (bytes ++ quoteMark :: rest).length - (quoteMark :: rest).length = bytes.length := by
    rw [List.length_append]
    omega
  rw [extractRole, strstr_role]
  simp only [hcolon, List.drop_succ_cons, List.drop_zero]
  rw [strchr_opening]
  simp only [List.drop_succ_cons, List.drop_zero, strchr_append hbytes]
  rw [hlen, List.take_left]

/-- The client recognizes the name and keeps the bytes between the quotes. -/
theorem parseBody_known (sep : Separators) {bytes : Bytes} (hbytes : ∀ b ∈ bytes, b ≠ quoteMark)
    (rest : Bytes) :
    parseBody (beforeRole sep ++ (quoteMark :: (bytes ++ quoteMark :: rest))) =
      { AuthResult.zero with exists_ := true, role := .copy bytes } := by
  rw [parseBody, extractRole_known sep hbytes rest, if_pos]
  cases sep with
  | compact => exact Or.inr rfl
  | spaced => exact Or.inl rfl

/-! ## Roles -/

theorem PlainChar.bytes {p : CodePoint} (hp : PlainChar p) :
    ∃ b, p.utf8 = some [b] ∧ jsonChar p = [b] ∧ b ≠ 0 ∧ b ≠ quoteMark := by
  cases p with
  | surrogate offset => exact hp.elim
  | scalar c =>
    obtain ⟨hlow, hhigh, hquote, hslash⟩ := hp
    have hval : (UInt8.ofNat c.toNat).toNat = c.toNat := by
      apply UInt8.toNat_ofNat_of_lt'
      rw [UInt8.size]
      omega
    refine ⟨UInt8.ofNat c.toNat, ?_, ?_, ?_, ?_⟩
    · rw [CodePoint.utf8, utf8EncodeChar_lt (by omega)]
    · rw [jsonChar, if_neg hquote, if_neg hslash, if_pos ⟨hlow, hhigh⟩]
    · intro h
      rw [h] at hval
      have hzero : (0 : UInt8).toNat = 0 := rfl
      omega
    · intro h
      rw [h] at hval
      exact hquote (Char.toNat_inj.mp hval.symm)

/-- JSON writes a plain role as its bytes. -/
theorem plain_bytes {role : Text} (hplain : ∀ p ∈ role, PlainChar p) :
    ∃ bytes, UnicodeTexts.encode role = some bytes ∧ role.flatMap jsonChar = bytes ∧
      bytes.length = role.length ∧ ∀ b ∈ bytes, b ≠ 0 ∧ b ≠ quoteMark := by
  induction role with
  | nil => exact ⟨[], rfl, rfl, rfl, fun b hb => absurd hb List.not_mem_nil⟩
  | cons p ps ih =>
    obtain ⟨b, hutf8, hjson, hb⟩ := (hplain p List.mem_cons_self).bytes
    obtain ⟨bs, hencode, hflat, hlen, hbs⟩ := ih fun q hq => hplain q (List.mem_cons_of_mem p hq)
    refine ⟨b :: bs, ?_, ?_, ?_, ?_⟩
    · rw [UnicodeTexts.encode, hutf8, hencode]
      rfl
    · rw [List.flatMap_cons, hjson, hflat]
      rfl
    · rw [List.length_cons, List.length_cons, hlen]
    · intro d hd
      rcases List.mem_cons.mp hd with rfl | hd
      · exact hb
      · exact hbs d hd

theorem zero_notMem_known (sep : Separators) {bytes : Bytes} (hbytes : (0 : UInt8) ∉ bytes) :
    (0 : UInt8) ∉ beforeRole sep ++ (quoteMark :: (bytes ++ quoteMark :: [125, 10])) := by
  intro hz
  rcases List.mem_append.mp hz with hz | hz
  · cases sep with
    | compact => exact absurd hz (by decide)
    | spaced => exact absurd hz (by decide)
  rcases List.mem_cons.mp hz with hz | hz
  · cases hz
  rcases List.mem_append.mp hz with hz | hz
  · exact hbytes hz
  · exact absurd hz (by decide)

theorem zero_notMem_unknown (sep : Separators) :
    (0 : UInt8) ∉ jsonify sep [(ascii "exists", .bool false), (ascii "role", .null)] := by
  cases sep with
  | compact => decide
  | spaced => decide

/-! ## Agreement -/

theorem agrees_unknown {users : Users} {name : Text} (hlookup : users.lookup name = none) :
    Agrees users name .zero where
  noError := rfl
  exists_iff := by
    rw [hlookup]
    constructor
    · intro h
      cases h
    · rintro ⟨role, h⟩
      cases h
  role_eq := by
    intro role h
    rw [hlookup] at h
    cases h

theorem agrees_known {users : Users} {name role : Text} {bytes : Bytes}
    (hlookup : users.lookup name = some role) (hencode : UnicodeTexts.encode role = some bytes)
    (hfits : bytes.length < 32) (hzero : (0 : UInt8) ∉ bytes) :
    Agrees users name { AuthResult.zero with exists_ := true, role := .copy bytes } where
  noError := rfl
  exists_iff := ⟨fun _ => ⟨role, hlookup⟩, fun _ => rfl⟩
  role_eq := by
    intro other h
    cases hlookup.symm.trans h
    rw [Buffer.copy_text_of_fits hfits hzero, hencode]

/-- The result made of an answer agrees with the table on the name without the blanks around it. -/
theorem parseResponse_agrees {users : Users} {arg : Text}
    (hroles : ∀ entry ∈ users, PlainRole entry.2)
    (harg : strip arg ≠ []) (sep : Separators) (head : Head) :
    Agrees users (strip arg) (parseResponse (response head (jsonify sep (auth users arg).2))) := by
  rw [auth, if_neg harg]
  cases hlookup : users.lookup (strip arg) with
  | none =>
    change Agrees _ _ (parseResponse (response head (jsonify sep [_, _])))
    rw [parseResponse_body head (zero_notMem_unknown sep), parseBody_unknown]
    exact agrees_unknown hlookup
  | some role =>
    obtain ⟨l₁, l₂, hsplit, -⟩ := List.lookup_eq_some_iff.mp hlookup
    have hentry : (strip arg, role) ∈ users := by
      rw [hsplit]
      exact List.mem_append_right l₁ List.mem_cons_self
    have hrole := hroles _ hentry
    obtain ⟨bytes, hencode, hjson, hlen, hbytes⟩ := plain_bytes hrole.plain
    have hzero : (0 : UInt8) ∉ bytes := fun hz => (hbytes 0 hz).1 rfl
    have hshort := hrole.short
    change Agrees _ _ (parseResponse (response head (jsonify sep [_, _])))
    rw [jsonify_known, hjson, parseResponse_body head (zero_notMem_known sep hzero)]
    rw [parseBody_known sep fun b hb => (hbytes b hb).2]
    exact agrees_known hlookup hencode (by omega) hzero

/-- For every table of plain roles, every name that is not blank and every way the network cuts the
response, the client's result agrees with the table on the name without the blanks around it. The name
`arg` is the query parameter as Flask decodes it from the client's request. -/
theorem auth_agrees {users : Users} {arg : Text} {sep : Separators} {head : Head}
    {pieces : List Bytes} {username : Bytes} (authHost authPort : Bytes)
    (hroles : ∀ entry ∈ users, PlainRole entry.2) (hname : username ≠ []) (harg : strip arg ≠ [])
    (hdelivered : Delivered users arg sep head pieces) :
    Agrees users (strip arg) (authCheckUser authHost authPort username (.received pieces)) := by
  have hroom : pieces.flatten.length ≤ bufferSize - 1 := by
    have hshort := hdelivered.short
    omega
  rw [authCheckUser, if_neg hname]
  change Agrees _ _ (parseResponse _)
  rw [readResponse_take hdelivered.nonempty, List.take_of_length_le hroom, hdelivered.whole]
  exact parseResponse_agrees hroles harg sep head

namespace AuthServer

def operators : Users := [(ofAscii (ascii "admin"), ofAscii (ascii "operator"))]

theorem operators_plain : ∀ entry ∈ operators, PlainRole entry.2 := by
  intro entry hentry
  rw [List.mem_singleton.mp hentry]
  exact ⟨by decide, by decide, by decide⟩

def okHead : Head where
  statusLine := ascii "HTTP/1.1 200 OK"
  headers := [ascii "Content-Type: application/json"]
  lines := by
    intro l hl
    rcases List.mem_cons.mp hl with rfl | hl
    · exact ⟨by decide, by decide⟩
    · rw [List.mem_singleton.mp hl]
      exact ⟨by decide, by decide⟩

/-- The answer about an operator with a space before its name, as it arrives in two pieces. -/
def spacedPieces : List Bytes :=
  [(response okHead (jsonify .spaced (auth operators (ofAscii (ascii " admin"))).2)).take 20,
    (response okHead (jsonify .spaced (auth operators (ofAscii (ascii " admin"))).2)).drop 20]

theorem spacedPieces_delivered :
    Delivered operators (ofAscii (ascii " admin")) .spaced okHead spacedPieces where
  nonempty := by decide
  whole := by
    rw [spacedPieces, List.flatten_cons, List.flatten_singleton, List.take_append_drop]
  short := by
    rw [spacedPieces, List.flatten_cons, List.flatten_singleton, List.take_append_drop]
    decide

end AuthServer

theorem auth_agrees_operator : Agrees operators (strip (ofAscii (ascii " admin")))
    (authCheckUser (ascii "auth") (ascii "5000") (ascii "%20admin") (.received spacedPieces)) :=
  auth_agrees (ascii "auth") (ascii "5000") operators_plain (by decide) (by decide)
    spacedPieces_delivered

/-- A name with a space before it is not in the table, and yet recognized. -/
theorem auth_agrees_not_verbatim : ¬ ∀ (users : Users) (arg : Text) (sep : Separators) (head : Head)
    (pieces : List Bytes) (username authHost authPort : Bytes),
    (∀ entry ∈ users, PlainRole entry.2) → username ≠ [] → strip arg ≠ [] →
    Delivered users arg sep head pieces →
    Agrees users arg (authCheckUser authHost authPort username (.received pieces)) := by
  intro h
  have hagrees := h operators (ofAscii (ascii " admin")) .spaced okHead spacedPieces
    (ascii "%20admin") (ascii "auth") (ascii "5000") operators_plain (by decide) (by decide)
    spacedPieces_delivered
  obtain ⟨role, hrole⟩ := hagrees.exists_iff.mp (by decide)
  have hnone : operators.lookup (ofAscii (ascii " admin")) = none := by decide
  cases hnone.symm.trans hrole

end IotMonitoring
