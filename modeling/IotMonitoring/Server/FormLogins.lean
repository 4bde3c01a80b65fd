import IotMonitoring.Auth.AuthFailures
import IotMonitoring.Server.AuthTraffic
import IotMonitoring.Server.Framing
import IotMonitoring.Server.LoginNames
import IotMonitoring.Shared.FormEncoding

/-!
# Logging in through the form

The form of the start page sends the name typed to `/login`, form-encoded. The
server keeps 63 bytes of the encoded name, passes them on as they are, and makes
its page of the answer. So the page tells what the table of users says of the
name typed exactly when those 63 bytes still spell it.
-/

namespace IotMonitoring

open ByteStrings UnicodeTexts AuthServer
set_option autoImplicit false

/-! ## The request of the form -/

/-- The request for a name of these UTF-8 bytes, with the header lines of the browser. -/
def formRequest (typed headers : Bytes) : Bytes :=
  loginLine (userMark ++ FormEncoding.encode typed) (ascii "HTTP/1.1") ++ crlf ++ headers

theorem split_crlf {line : Bytes} (hline : ∀ c ∈ line, c ≠ newline ∧ c ≠ carriageReturn)
    (rest : Bytes) : split (line ++ (crlf ++ rest)) = (line :: (split rest).1, (split rest).2) := by
  induction line with
  | nil => rfl
  | cons c cs ih =>
    have hc := hline c List.mem_cons_self
    rw [List.cons_append, split, if_neg hc.1, if_neg hc.2,
      ih fun d hd => hline d (List.mem_cons_of_mem _ hd)]
    rfl

/-- What `recv_line` delivers of a first line: as much of it as there is room for. -/
theorem recvLine_first {line : Bytes} (hne : line ≠ [])
    (hline : ∀ c ∈ line, c ≠ newline ∧ c ≠ carriageReturn) (rest : Bytes) (ending : Ending) :
    ¬ (recvLine bufferSize ⟨line ++ (crlf ++ rest), ending⟩).ret ≤ 0 ∧
      (recvLine bufferSize ⟨line ++ (crlf ++ rest), ending⟩).buf = line.take lineRoom := by
  have hsplit := split_crlf hline rest
  have hpos := List.length_pos_iff.mpr hne
  by_cases hlong : lineRoom ≤ line.length
  · have hhead : lineRoom ≤ (headText (split (line ++ (crlf ++ rest)))).length := by
      rw [hsplit]
      exact hlong
    obtain ⟨left, hread, -⟩ := recvLine_cut ending hhead
    rw [hread, hsplit]
    exact ⟨lineRoom_pos, rfl⟩
  · obtain ⟨left, hread, -⟩ := recvLine_line ending hsplit (by omega)
    rw [hread, List.take_of_length_le (by omega)]
    refine ⟨?_, rfl⟩
    simp only
    omega

section
variable (typed headers : Bytes) (ending : Ending)

/-- The bytes of the name that the server keeps. -/
def keptName : Bytes := (FormEncoding.encode typed).take (maxIdLen - 1)

theorem loginUser_form {v : Bytes} (hclean : ∀ c ∈ v, c ≠ 0 ∧ c ≠ ampersand) :
    loginUser (some (userMark ++ v)) = v.take (maxIdLen - 1) := by
  have hzero : (0 : UInt8) ∉ userMark ++ v := by
    rw [List.mem_append, not_or]
    exact ⟨by decide, fun h => (hclean 0 h).1 rfl⟩
  have hcut : cutAt v ampersand = v := cutAt_of_notMem fun h => (hclean ampersand h).2 rfl
  rw [loginUser_eq hzero, strstr_self_append, Option.map_some, Option.getD_some]
  exact congrArg (List.take (maxIdLen - 1)) hcut

/-- An encoded name in a query ends neither the line nor the word nor the string. -/
theorem formQuery_clean {c : UInt8} (hc : c ∈ userMark ++ FormEncoding.encode typed) :
    c ∉ [(0 : UInt8), 10, 13, 32] := by
  intro hbad
  rcases List.mem_append.mp hc with hc | hc
  · exact (by decide : ∀ b ∈ userMark, b ∉ [(0 : UInt8), 10, 13, 32]) c hc hbad
  · exact FormEncoding.encode_avoids (by decide) hc hbad

theorem formLine_clean : ∀ c ∈ loginLine (userMark ++ FormEncoding.encode typed) (ascii "HTTP/1.1"),
    c ≠ newline ∧ c ≠ carriageReturn := by
  have hhead : ∀ c ∈ ascii "GET /login?", c ≠ newline ∧ c ≠ carriageReturn := by decide
  have htail : ∀ c ∈ ascii " " ++ ascii "HTTP/1.1", c ≠ newline ∧ c ≠ carriageReturn := by decide
  intro c hc
  rw [loginLine, List.append_assoc, List.mem_append, List.mem_append] at hc
  rcases hc with (hc | hc) | hc
  · exact hhead c hc
  · have hclean := formQuery_clean typed hc
    constructor
    · rintro rfl
      exact hclean (by decide)
    · rintro rfl
      exact hclean (by decide)
  · exact htail c hc

/-- What there is room for of the line: of the name all but what stands behind 4079 bytes. -/
theorem loginLine_take (v : Bytes) : (loginLine (userMark ++ v) (ascii "HTTP/1.1")).take lineRoom =
    ascii "GET /login?" ++ (userMark ++ v.take 4079) ++
      (ascii " HTTP/1.1").take (4084 - (userMark ++ v).length) := by
  have hline : loginLine (userMark ++ v) (ascii "HTTP/1.1") =
      ascii "GET /login?" ++ ((userMark ++ v) ++ ascii " HTTP/1.1") := by
    rw [loginLine, List.append_assoc, List.append_assoc]
    rfl
  have hhead : (ascii "GET /login?").length = 11 := by decide
  have hmark : userMark.length = 5 := by decide
  rw [hline, List.take_append, List.take_append, List.take_append, hhead, hmark,
    List.take_of_length_le (by rw [hhead, lineRoom]; omega),
    List.take_of_length_le (by rw [hmark, lineRoom]; omega)]
  simp only [List.append_assoc]
  rfl

/-- However long the name is, the route is the login and the name asked about is what is kept. -/
theorem handleHttpRequest_form : ∃ q rest,
    handleHttpRequest ⟨formRequest typed headers, ending⟩ = some (.login (some q), rest) ∧
      loginUser (some q) = keptName typed := by
  have hne : loginLine (userMark ++ FormEncoding.encode typed) (ascii "HTTP/1.1") ≠ [] :=
    List.cons_ne_nil _ _
  obtain ⟨hret, hbuf⟩ := recvLine_first hne (formLine_clean typed) headers ending
  have hquery := @formQuery_clean typed
  have hvalue : ∀ c ∈ FormEncoding.encode typed, c ≠ 0 ∧ c ≠ ampersand := by
    intro c hc
    constructor
    · rintro rfl
      exact FormEncoding.encode_clean hc (by decide)
    · rintro rfl
      exact FormEncoding.encode_clean hc (by decide)
  have hbytes : formRequest typed headers =
      loginLine (userMark ++ FormEncoding.encode typed) (ascii "HTTP/1.1") ++ (crlf ++ headers) := by
    rw [formRequest, List.append_assoc]
  rw [← hbytes] at hret hbuf
  rw [keptName]
  generalize FormEncoding.encode typed = v at hquery hvalue hbuf ⊢
  have hsub : userMark ++ v.take 4079 ⊆ userMark ++ v :=
    List.append_subset.mpr ⟨List.subset_append_left _ _,
      fun c hc => List.mem_append_right _ (List.mem_of_mem_take hc)⟩
  have hroute := routeRequest_target (q := userMark ++ v.take 4079)
    (t := (ascii " HTTP/1.1").take (4084 - (userMark ++ v).length))
    (fun h => hquery (hsub h) (by decide)) (fun h => hquery (hsub h) (by decide)) ?_
  · have hhandled : handleHttpRequest ⟨formRequest typed headers, ending⟩ =
        some (.login (some (userMark ++ v.take 4079)), skipHeaders
          ((recvLine bufferSize ⟨formRequest typed headers, ending⟩).rest.length + 1)
          ⟨(recvLine bufferSize ⟨formRequest typed headers, ending⟩).rest, ending⟩) := by
      rw [handleHttpRequest]
      simp only [if_neg hret, hbuf, loginLine_take, hroute]
    refine ⟨_, _, hhandled, ?_⟩
    rw [loginUser_form fun c hc => hvalue c (List.mem_of_mem_take hc), List.take_take]
    rfl
  · cases (4084 - (userMark ++ v).length) with
    | zero => exact fun c hc => by cases hc
    | succ k => exact fun c hc => by cases hc; rfl

end

/-! ## The page -/

/-- The page says of the name what the table says of it. -/
def PageAnswers (users : Users) (name : Text) (shown : Bytes) (reply : HttpReply) : Prop :=
  match users.lookup name with
  | some role => ∃ text, UnicodeTexts.encode role = some text ∧
      reply = ⟨200, ascii "OK", loginWelcome shown text⟩
  | none => reply = ⟨401, ascii "Unauthorized", loginDenied shown⟩

theorem answers_of_agrees {users : Users} {name : Text} {result : AuthResult}
    (h : Agrees users name result) (shown : Bytes) : PageAnswers users name shown (loginReply shown result) := by
  unfold PageAnswers loginReply
  rw [h.noError]
  cases hlookup : users.lookup name with
  | some role =>
    have hexists := h.exists_iff.mpr ⟨role, hlookup⟩
    refine ⟨_, h.role_eq role hlookup, ?_⟩
    rw [hexists]
    rfl
  | none =>
    have hmissing : result.exists_ = false := by
      rw [Bool.eq_false_iff]
      intro htrue
      obtain ⟨role, hrole⟩ := h.exists_iff.mp htrue
      rw [hlookup] at hrole
      cases hrole
    rw [hmissing]
    rfl

theorem exists_of_answers {users : Users} {name role : Text} {shown : Bytes} {result : AuthResult}
    (hlookup : users.lookup name = some role) (h : PageAnswers users name shown (loginReply shown result)) :
    result.exists_ = true := by
  simp only [PageAnswers, hlookup] at h
  obtain ⟨text, -, hreply⟩ := h
  have hstatus := congrArg HttpReply.status hreply
  unfold loginReply at hstatus
  cases hexists : result.exists_ with
  | true => rfl
  | false =>
    rw [hexists] at hstatus
    split at hstatus <;> cases hstatus

/-- What Flask makes of a request for a user, `request.args.get("user", "")`: a name that is form
encoded is read as the name. -/
structure Flask where
  userArg : Bytes → Text
  reads : ∀ (authHost : Bytes) (name : Text) (typed : Bytes),
    (∀ c ∈ authHost, c ∉ [(0 : UInt8), 10, 13]) → UnicodeTexts.encode name = some typed →
      userArg (endedLines (authLines authHost (FormEncoding.encode typed)) ++ crlf) = name

section
variable (f : Flask) (authHost : Buffer maxIdLen) (authPort typed headers : Bytes) (ending : Ending)

/-- What the service is asked about. -/
def askedArg : Text := f.userArg (authRequest authHost.text (keptName typed))

/-- Whatever the table of users and however the answer is cut, the page of the login tells what the
table says of this name. -/
def Tells (name : Text) : Prop :=
  ∀ users sep head pieces, (∀ entry ∈ users, PlainRole entry.2) →
    Delivered users (askedArg f authHost typed) sep head pieces →
      ∃ q rest outcome,
        handleHttpRequest ⟨formRequest typed headers, ending⟩ = some (.login (some q), rest) ∧
        routeLogin authHost.text authPort (.received pieces) (some q) = outcome ∧
        outcome.asked = some (keptName typed) ∧
        PageAnswers users (strip name) (keptName typed) outcome.reply

variable {f authHost authPort typed headers ending}

/-- A blank argument is answered with an error, which the client takes for an unknown name. -/
theorem exists_blank {users : Users} {arg : Text} (harg : strip arg = []) (sep : Separators)
    (head : Head) : (parseResponse (response head (jsonify sep (auth users arg).2))).exists_ = false := by
  have hbody : parseResponse (response head (jsonify sep
      [(ascii "error", .str (ofAscii (ascii "Missing 'user' parameter")))])) =
        parseBody (jsonify sep [(ascii "error", .str (ofAscii (ascii "Missing 'user' parameter")))]) := by
    apply parseResponse_body
    cases sep <;> decide
  rw [auth, if_pos harg, hbody]
  cases sep <;> decide

/-- An answer about an operator or an unknown name arrives in one piece. -/
theorem delivered_operator (name arg : Text) :
    Delivered [(name, ofAscii (ascii "operator"))] arg .compact okHead
      [response okHead (jsonify .compact (auth [(name, ofAscii (ascii "operator"))] arg).2)] := by
  have hshort : (response okHead
      (jsonify .compact (auth [(name, ofAscii (ascii "operator"))] arg).2)).length < bufferSize := by
    rw [auth]
    split
    · decide
    split
    · rename_i role hlookup
      rw [List.lookup_cons] at hlookup
      split at hlookup
      · cases hlookup
        decide
      · cases hlookup
    · decide
  refine ⟨?_, ?_, ?_⟩
  · intro piece hpiece
    rw [List.mem_singleton.mp hpiece]
    exact List.cons_ne_nil _ _
  · rw [List.flatten_singleton]
  · rw [List.flatten_singleton]
    exact hshort

theorem keptName_nonempty {name : Text} (hname : UnicodeTexts.encode name = some typed)
    (hblank : strip name ≠ []) : keptName typed ≠ [] := by
  intro hnil
  have hvalue : FormEncoding.encode typed = [] := by
    rcases List.take_eq_nil_iff.mp hnil with h | h
    · cases h
    · exact h
  rw [FormEncoding.encode_eq_nil_iff] at hvalue
  rw [hvalue] at hname
  obtain ⟨cs, rfl, hcs⟩ := chars_of_encode hname
  cases cs with
  | nil => exact hblank rfl
  | cons c cs =>
    have hlen := congrArg List.length hcs
    rw [List.flatMap_cons, List.length_append, String.length_utf8EncodeChar] at hlen
    have hpos := c.utf8Size_pos
    rw [List.length_nil] at hlen
    omega

/-- A whole response is read as it was written. -/
theorem authCheckUser_delivered {users : Users} {arg : Text} {sep : Separators} {head : Head}
    {pieces : List Bytes} {username : Bytes} (host port : Bytes) (hname : username ≠ [])
    (hdelivered : Delivered users arg sep head pieces) :
    authCheckUser host port username (.received pieces) =
      parseResponse (response head (jsonify sep (auth users arg).2)) := by
  have hroom : pieces.flatten.length ≤ bufferSize - 1 := by
    have hshort := hdelivered.short
    omega
  rw [authCheckUser, if_neg hname]
  change parseResponse _ = _
  rw [readResponse_take hdelivered.nonempty, List.take_of_length_le hroom, hdelivered.whole]

/-- The page tells of a name exactly when the service was asked about it. -/
theorem tells_iff {name : Text} (hkept : keptName typed ≠ []) (hblank : strip name ≠ []) :
    Tells f authHost authPort typed headers ending name ↔
      strip (askedArg f authHost typed) = strip name := by
  obtain ⟨q, rest, hhandled, huser⟩ := handleHttpRequest_form typed headers ending
  have hne : loginUser (some q) ≠ [] := by
    rw [huser]
    exact hkept
  have hreply : ∀ pieces, (routeLogin authHost.text authPort (.received pieces) (some q)).reply =
      loginReply (keptName typed)
        (authCheckUser authHost.text authPort (keptName typed) (.received pieces)) := by
    intro pieces
    simp only [routeLogin, huser, if_neg hkept]
  constructor
  · intro h
    have hdelivered := delivered_operator (strip name) (askedArg f authHost typed)
    have hplain : ∀ entry ∈ [(strip name, ofAscii (ascii "operator"))], PlainRole entry.2 := by
      intro entry hentry
      rw [List.mem_singleton.mp hentry]
      exact operators_plain (ofAscii (ascii "admin"), ofAscii (ascii "operator"))
        List.mem_cons_self
    obtain ⟨q', rest', outcome, hhandled', rfl, -, hpage⟩ := h _ _ _ _ hplain hdelivered
    rw [hhandled] at hhandled'
    cases hhandled'
    rw [hreply] at hpage
    have hexists := exists_of_answers List.lookup_cons_self hpage
    by_cases harg : strip (askedArg f authHost typed) = []
    · rw [authCheckUser_delivered _ _ hkept hdelivered, exists_blank harg] at hexists
      cases hexists
    · have hagrees := auth_agrees authHost.text authPort hplain hkept harg hdelivered
      obtain ⟨role, hrole⟩ := hagrees.exists_iff.mp hexists
      rw [List.lookup_cons] at hrole
      split at hrole
      · exact beq_iff_eq.mp ‹_›
      · cases hrole
  · intro h users sep head pieces hplain hdelivered
    have harg : strip (askedArg f authHost typed) ≠ [] := by
      rw [h]
      exact hblank
    have hagrees := auth_agrees authHost.text authPort hplain hkept harg hdelivered
    rw [h] at hagrees
    refine ⟨q, rest, _, hhandled, rfl, ?_, ?_⟩
    · rw [(routeLogin_asked authHost.text authPort (.received pieces) (some q)).1 hne, huser]
    · rw [hreply]
      exact answers_of_agrees hagrees (keptName typed)

/-- What is kept of a name reaches the service as it is. -/
theorem askedArg_kept (hhost : ∀ c ∈ authHost.text, c ≠ carriageReturn ∧ c ≠ newline) {front : Text}
    {a : Bytes} (hfront : UnicodeTexts.encode front = some a) (ha : a ≠ [])
    (hkept : keptName typed = FormEncoding.encode a) : askedArg f authHost typed = front := by
  have hlength : (FormEncoding.encode a).length ≤ 63 := by
    rw [← hkept, keptName, List.length_take]
    exact Nat.min_le_left _ _
  have hplain : PlainName (FormEncoding.encode a) := by
    refine ⟨List.length_pos_iff.mpr fun h => ha (FormEncoding.encode_eq_nil_iff.mp h), hlength, ?_⟩
    exact fun c hc => FormEncoding.encode_avoids (by decide) hc
  rw [askedArg, hkept, authRequest_lines authHost.length_lt hplain]
  exact f.reads authHost.text front a (host_clean hhost) hfront

end

/-- Whoever the service knows, and whatever the browser adds to the form: the page tells what the table
says of the name typed exactly when the service was asked about that name. It was if the encoded name
has at most 63 bytes. If a longer one is cut between two characters, then the page tells of the
characters in front of the cut. -/
theorem login_tells (f : Flask) (authHost : Buffer maxIdLen)
    (hhost : ∀ c ∈ authHost.text, c ≠ carriageReturn ∧ c ≠ newline) (authPort headers : Bytes)
    (ending : Ending) {name : Text} {typed : Bytes} (hname : UnicodeTexts.encode name = some typed)
    (hblank : strip name ≠ []) :
    (Tells f authHost authPort typed headers ending name ↔
      strip (askedArg f authHost typed) = strip name) ∧
    ((FormEncoding.encode typed).length ≤ 63 →
      Tells f authHost authPort typed headers ending name) ∧
    (∀ front back a, name = front ++ back → UnicodeTexts.encode front = some a →
      (FormEncoding.encode a).length = 63 → strip front ≠ [] →
        Tells f authHost authPort typed headers ending front ∧
        (strip front ≠ strip name → ¬ Tells f authHost authPort typed headers ending name)) := by
  have hkept := keptName_nonempty hname hblank
  have htells : Tells f authHost authPort typed headers ending name ↔
      strip (askedArg f authHost typed) = strip name := tells_iff hkept hblank
  refine ⟨htells, ?_, ?_⟩
  · intro hshort
    have hwhole : keptName typed = FormEncoding.encode typed := List.take_of_length_le hshort
    have htyped : typed ≠ [] := by
      rintro rfl
      exact hkept rfl
    rw [htells, askedArg_kept hhost hname htyped hwhole]
  · intro front back a hsplit hfront hlength hfrontBlank
    have ha : a ≠ [] := by
      rintro rfl
      cases hlength
    -- the bytes kept are those of the front, since what follows starts a new character
    have hcut : keptName typed = FormEncoding.encode a := by
      rw [hsplit, encode_append, hfront, Option.bind_some, Option.map_eq_some_iff] at hname
      obtain ⟨b, -, rfl⟩ := hname
      rw [keptName, FormEncoding.encode_append]
      exact List.take_left' hlength
    have harg := askedArg_kept (f := f) hhost hfront ha hcut
    constructor
    · rw [tells_iff hkept hfrontBlank, harg]
    · intro hdiff
      rw [htells, harg]
      exact hdiff

/-- The value in a request of the client, read strictly. -/
def strictArg (request : Bytes) : Text :=
  match decode (FormEncoding.decode
    ((request.drop (ascii "GET /auth?user=").length).takeWhile (· != FormEncoding.blank))) with
  | some cs => ofChars cs
  | none => []

def strictFlask : Flask where
  userArg := strictArg
  reads := by
    intro authHost name typed _ hname
    obtain ⟨cs, rfl, rfl⟩ := chars_of_encode hname
    generalize hvalue : cs.flatMap String.utf8EncodeChar = value
    have hrequest : endedLines (authLines authHost (FormEncoding.encode value)) ++ crlf =
        ascii "GET /auth?user=" ++ (FormEncoding.encode value ++ FormEncoding.blank ::
          (ascii "HTTP/1.1" ++ (crlf ++ endedLines (authLines authHost []).tail) ++ crlf)) := by
      simp only [authLines, endedLines, List.tail_cons, List.append_assoc]
      rfl
    have hword : (FormEncoding.encode value ++ FormEncoding.blank ::
        (ascii "HTTP/1.1" ++ (crlf ++ endedLines (authLines authHost []).tail) ++ crlf)).takeWhile
          (· != FormEncoding.blank) = FormEncoding.encode value := by
      rw [List.takeWhile_append_of_pos, List.takeWhile_cons_of_neg, List.append_nil]
      · decide
      · intro c hc
        rw [bne_iff_ne]
        rintro rfl
        exact FormEncoding.encode_clean hc (by decide)
    rw [strictArg, hrequest, List.drop_left, hword, FormEncoding.decode_encode, ← hvalue,
      decode_encoded]

/-- A name of this many euro signs, each of which the form sends as nine bytes. -/
def euros (n : Nat) : Text := ofChars (List.replicate n (Char.ofNat 8364))

/-- Of eight euro signs the page tells what the table says of seven. -/
theorem login_tells_euros : ∃ typed, UnicodeTexts.encode (euros 8) = some typed ∧
    Tells strictFlask localhost (ascii "5000") typed crlf .closed (euros 7) ∧
    ¬ Tells strictFlask localhost (ascii "5000") typed crlf .closed (euros 8) := by
  have hcut := (login_tells strictFlask localhost (by decide) (ascii "5000") crlf .closed
    (encode_ofChars (List.replicate 8 (Char.ofNat 8364))) (by decide)).2.2
      (euros 7) (euros 1) _ (by decide) (encode_ofChars _) (by decide) (by decide)
  exact ⟨_, encode_ofChars _, hcut.1, hcut.2 (by decide)⟩

end IotMonitoring
