import IotMonitoring.Auth.Agreement
import IotMonitoring.Server.HttpRequests
import IotMonitoring.Shared.HttpMessages
import IotMonitoring.Shared.JsonTexts

/-!
# Failures of the authentication service

What a response says is defined by HTTP and JSON; what the client makes of it
depends on a blank line and two spellings. The client reports every other
response as a failure only where the two agree.
-/

namespace IotMonitoring

open ByteStrings AuthServer HttpMessages JsonTexts
set_option autoImplicit false

/-- What an attempt brings into the client's array. -/
def Attempt.response : Attempt → Bytes
  | .received pieces => readResponse (bufferSize - 1) pieces
  | _ => []

/-! ## What a response says -/

def existsName : List Nat := (ascii "exists").map UInt8.toNat

/-- The object has one member `exists`, with this boolean. -/
def HasExists (ms : List (List Nat × Value)) (b : Bool) : Prop :=
  (ms.filter fun m => m.1 == existsName).map Prod.snd = [.bool b]

/-- The bytes are a complete response with status 200 and this body, whose content is a JSON object
that says `b`. The connection ended by `ending`, or the array was full. -/
inductive Says (ending : Ending) : Bytes → Bytes → Bool → Prop where
  | mk {head : Head} {body content : Bytes} {members : List (List Nat × Value)} {b : Bool}
      (hstatus : HasStatus (ascii "200") head.statusLine)
      (hcarries : Carries (ending = .closed ∧ (response head body).length < bufferSize - 1)
        head.headers body content)
      (hobject : IsObject members content) (hexists : HasExists members b) :
      Says ending (response head body) body b

/-- A result without an error tells what a complete response says, and whatever else came back is an
error, for which `route_login` answers 500. -/
structure FailuresReported (ending : Ending) (attempt : Attempt) : Prop where
  result : ∀ authHost authPort username,
    (authCheckUser authHost authPort username attempt).error = false →
      ∃ body, Says ending attempt.response body
        (authCheckUser authHost authPort username attempt).exists_
  failure : (∀ body b, ¬ Says ending attempt.response body b) →
    ∀ authHost authPort query, loginUser query ≠ [] →
      (authCheckUser authHost authPort (loginUser query) attempt).error = true ∧
      (routeLogin authHost authPort attempt query).reply.status = 500

def existsSpaced : Bytes := ascii "\"exists\": true"
def existsCompact : Bytes := ascii "\"exists\":true"

/-- Nothing with a blank line came back, or a complete response came back whose body holds one of
the two spellings exactly if it says so. -/
def Readable (ending : Ending) (bytes : Bytes) : Prop :=
  ¬ crlf ++ crlf <:+: cString bytes ∨
    ∃ body b, Says ending bytes body b ∧
      ((existsSpaced <:+: body ∨ existsCompact <:+: body) ↔ b = true)

/-! ## What the client reads -/

theorem strstr_isSome_iff {s needle : Bytes} : (strstr s needle).isSome ↔ needle <:+: s := by
  induction s with
  | nil =>
    rw [strstr, List.infix_nil]
    split
    · rename_i h
      simp only [h, Option.isSome_some]
    · rename_i h
      simp only [h, Option.isSome_none, Bool.false_eq_true]
  | cons c s ih =>
    rw [strstr, List.infix_cons_iff, ← ih]
    split
    · rename_i h
      simp only [Option.isSome_some, List.isPrefixOf_iff_prefix.mp h, true_or]
    · rename_i h
      have hnot : ¬ needle <+: c :: s := fun hp => h (List.isPrefixOf_iff_prefix.mpr hp)
      simp only [hnot, false_or]

theorem parseBody_exists (body : Bytes) :
    (parseBody body).exists_ = true ↔ existsSpaced <:+: body ∨ existsCompact <:+: body := by
  rw [← strstr_isSome_iff, ← strstr_isSome_iff]
  unfold parseBody
  split
  · rename_i h
    split
    · exact ⟨fun _ => h, fun _ => rfl⟩
    · exact ⟨fun _ => h, fun _ => rfl⟩
  · rename_i h
    exact ⟨fun hfalse => (Bool.false_ne_true hfalse).elim, fun hsome => (h hsome).elim⟩

theorem parseBody_error (body : Bytes) : (parseBody body).error = false := by
  unfold parseBody
  split
  · split
    · rfl
    · rfl
  · rfl

/-- The only failure seen in a response is a missing blank line. -/
theorem parseResponse_error {bytes : Bytes} :
    (parseResponse bytes).error = false ↔ crlf ++ crlf <:+: cString bytes := by
  rw [← strstr_isSome_iff]
  unfold parseResponse
  split
  · rename_i hnil
    rw [hnil]
    exact ⟨fun h => (Bool.false_ne_true h.symm).elim, fun h => (Bool.false_ne_true h).elim⟩
  split
  · rename_i hnone
    rw [hnone]
    exact ⟨fun h => (Bool.false_ne_true h.symm).elim, fun h => (Bool.false_ne_true h).elim⟩
  · rename_i body hsome
    rw [hsome]
    exact ⟨fun _ => rfl, fun _ => parseBody_error _⟩

theorem authCheckUser_response {authHost authPort username : Bytes} {attempt : Attempt}
    (h : (authCheckUser authHost authPort username attempt).error = false) :
    authCheckUser authHost authPort username attempt = parseResponse attempt.response := by
  unfold authCheckUser at h ⊢
  split
  · rename_i hname
    rw [if_pos hname] at h
    cases h
  · rename_i hname
    rw [if_neg hname] at h
    cases attempt with
    | received pieces => rfl
    | _ => cases h

/-- The body of a response that says something holds no zero byte, so it is read whole. -/
theorem Says.parseResponse {ending : Ending} {bytes body : Bytes} {b : Bool}
    (h : Says ending bytes body b) : parseResponse bytes = parseBody body := by
  obtain ⟨-, hcarries, hobject, -⟩ := h
  exact parseResponse_body _ (hcarries.zero_notMem hobject.zero_notMem)

/-! ## Failures -/

theorem routeLogin_error {authHost authPort : Bytes} {attempt : Attempt} {query : Option Bytes}
    (hname : loginUser query ≠ [])
    (h : (authCheckUser authHost authPort (loginUser query) attempt).error = true) :
    (routeLogin authHost authPort attempt query).reply.status = 500 := by
  simp only [routeLogin, if_neg hname, loginReply, h, if_true]

theorem failuresReported_of_readable {ending : Ending} {attempt : Attempt}
    (h : Readable ending attempt.response) : FailuresReported ending attempt where
  result := by
    intro authHost authPort username herror
    have hparse := authCheckUser_response herror
    rw [hparse] at herror ⊢
    rcases h with hblank | ⟨body, b, hresponse, hspelled⟩
    · exact absurd (parseResponse_error.mp herror) hblank
    · have hexists : (parseBody body).exists_ = b :=
        Bool.eq_iff_iff.mpr ((parseBody_exists body).trans hspelled)
      refine ⟨body, ?_⟩
      rw [hresponse.parseResponse, hexists]
      exact hresponse
  failure := by
    intro hnone authHost authPort query hname
    have herror : (authCheckUser authHost authPort (loginUser query) attempt).error = true := by
      rcases h with hblank | ⟨body, b, hresponse, -⟩
      · apply Bool.eq_true_of_not_eq_false
        intro hfalse
        rw [authCheckUser_response hfalse] at hfalse
        exact hblank (parseResponse_error.mp hfalse)
      · exact absurd hresponse (hnone body b)
    exact ⟨herror, routeLogin_error hname herror⟩

theorem authCheckUser_received {authHost authPort username : Bytes} {attempt : Attempt}
    (hname : username ≠ []) (h : attempt.response ≠ []) :
    authCheckUser authHost authPort username attempt = parseResponse attempt.response := by
  cases attempt with
  | received pieces => exact if_neg hname
  | _ => exact absurd rfl h

/-- For every sequence of pieces, and however the reading ends: failures are reported as failures
exactly when what came back is readable. -/
theorem auth_failuresReported_iff (ending : Ending) (attempt : Attempt) :
    FailuresReported ending attempt ↔ Readable ending attempt.response := by
  constructor
  · intro h
    by_cases hblank : crlf ++ crlf <:+: cString attempt.response
    · have hne : attempt.response ≠ [] := by
        intro hnil
        rw [hnil] at hblank
        exact absurd hblank (by decide)
      have hread : ∀ username ≠ [], authCheckUser [] [] username attempt =
          parseResponse attempt.response := fun username hname => authCheckUser_received hname hne
      obtain ⟨body, hresponse⟩ := h.result [] [] (ascii "admin")
        (by rw [hread _ (by decide)]; exact parseResponse_error.mpr hblank)
      refine Or.inr ⟨body, _, hresponse, ?_⟩
      rw [hread _ (by decide), hresponse.parseResponse]
      exact (parseBody_exists body).symm
    · exact Or.inl hblank
  · exact failuresReported_of_readable

theorem Says.code {ending : Ending} {bytes body : Bytes} {b : Bool}
    (h : Says ending bytes body b) : (bytes.drop 9).take 3 = ascii "200" := by
  obtain ⟨⟨minor, reason, -, -, hline⟩, -, -, -⟩ := h
  rw [response, endedLines, hline]
  rfl

/-- A failure of the service itself, with a page in place of an answer. -/
def serverFailure : Attempt :=
  .received [ascii "HTTP/1.1 500 INTERNAL SERVER ERROR\r\nContent-Length: 5\r\n\r\n<h1/>"]

/-- A failed service passes for one that does not know the name. -/
theorem auth_failureUnreported : ¬ FailuresReported .closed serverFailure := by
  intro h
  obtain ⟨body, hresponse⟩ := h.result [] [] (ascii "admin") (by decide)
  exact absurd hresponse.code (by decide)

/-! ## The answers of the service -/

theorem plain_chars {role : UnicodeTexts.Text} (hplain : ∀ p ∈ role, PlainChar p) :
    ∃ units, Chars units (role.flatMap jsonChar) := by
  induction role with
  | nil => exact ⟨[], .nil⟩
  | cons p ps ih =>
    obtain ⟨units, hunits⟩ := ih fun q hq => hplain q (List.mem_cons_of_mem p hq)
    have hp := hplain p List.mem_cons_self
    cases p with
    | surrogate offset => exact hp.elim
    | scalar c =>
      obtain ⟨hlow, hhigh, hquote, hslash⟩ := hp
      have hchar : jsonChar (.scalar c) = String.utf8EncodeChar c := by
        rw [UnicodeTexts.utf8EncodeChar_lt (by omega), jsonChar, if_neg hquote, if_neg hslash,
          if_pos ⟨hlow, hhigh⟩]
      rw [List.flatMap_cons, hchar]
      exact ⟨_, .char hlow hquote hslash hunits⟩

theorem separators_blanks (sep : Separators) : Blanks (sep.key.drop 1) := by
  cases sep with
  | compact => decide
  | spaced => decide

/-- An answer is an object with the members `exists` and `role`. -/
theorem answer_isObject (sep : Separators) {exists_ role : Bytes} {b : Bool} {v : Value}
    (hexists : Spells (.value (.bool b)) exists_) (hrole : Spells (.value v) role) :
    IsObject [(existsName, .bool b), ((ascii "role").map UInt8.toNat, v)]
      (ascii "\x7b\"exists\"" ++ sep.key ++ exists_ ++ sep.item ++ ascii "\"role\"" ++ sep.key ++
        role ++ ascii "\x7d\n") := by
  have hnone : Blanks [] := by decide
  have hend : Blanks (ascii "\n") := by decide
  have hsep := separators_blanks sep
  have hname : ∀ text, (∀ c ∈ text, 32 ≤ c ∧ c < 128 ∧ c ≠ quotation ∧ c ≠ backslash) →
      Quoted (text.map UInt8.toNat) (quotation :: text ++ [quotation]) :=
    fun text h => .mk (chars_plain h)
  have hfirst := Spells.member hnone (hname (ascii "exists") (by decide)) hnone
    (.item hsep hexists hnone)
  have hsecond := Spells.member hsep (hname (ascii "role") (by decide)) hnone
    (.item hsep hrole hnone)
  refine ⟨[], _, ascii "\n", hnone, .object (.members hfirst hsecond), hend, ?_⟩
  cases sep with
  | compact =>
    simp only [List.append_assoc]
    rfl
  | spaced =>
    simp only [List.append_assoc]
    rfl

/-- Whatever carries an answer of the service, for a table of plain roles, is readable. -/
theorem answer_readable {users : Users} {arg : UnicodeTexts.Text} {ending : Ending} {head : Head}
    {body : Bytes} (hroles : ∀ entry ∈ users, PlainRole entry.2) (harg : strip arg ≠ [])
    (sep : Separators) (hbody : body = jsonify sep (auth users arg).2)
    (hstatus : HasStatus (ascii "200") head.statusLine)
    (hcarries : Carries (ending = .closed ∧ (response head body).length < bufferSize - 1)
      head.headers body body) : Readable ending (response head body) := by
  have hreadable : ∀ b v, IsObject [(existsName, .bool b), ((ascii "role").map UInt8.toNat, v)] body →
      ((parseBody body).exists_ = true ↔ b = true) → Readable ending (response head body) :=
    fun b v hobject hparse => Or.inr ⟨body, b, .mk hstatus hcarries hobject rfl,
      (parseBody_exists body).symm.trans hparse⟩
  rw [auth, if_neg harg] at hbody
  cases hlookup : users.lookup (strip arg) with
  | none =>
    rw [hlookup] at hbody
    apply hreadable false .null
    · have hobject := answer_isObject sep .false .null
      rw [hbody]
      cases sep <;> exact hobject
    · rw [hbody, parseBody_unknown]
      exact Iff.rfl
  | some role =>
    rw [hlookup] at hbody
    obtain ⟨l₁, l₂, hsplit, -⟩ := List.lookup_eq_some_iff.mp hlookup
    have hrole : PlainRole role := by
      apply hroles (strip arg, role)
      rw [hsplit]
      exact List.mem_append_right l₁ List.mem_cons_self
    obtain ⟨units, hunits⟩ := plain_chars hrole.plain
    obtain ⟨bytes, -, hflat, -, hbytes⟩ := plain_bytes hrole.plain
    have hknown := hbody.trans (jsonify_known sep role)
    apply hreadable true (.string units)
    · have hobject := answer_isObject sep .true (.string (.mk hunits))
      rw [hknown]
      cases sep with
      | compact =>
        simp only [List.append_assoc, List.cons_append] at hobject
        exact hobject
      | spaced =>
        simp only [List.append_assoc, List.cons_append] at hobject
        exact hobject
    · rw [hknown, hflat, parseBody_known sep (fun b hb => (hbytes b hb).2)]

end IotMonitoring
