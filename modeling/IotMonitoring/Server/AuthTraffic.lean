import IotMonitoring.Server.HttpRequests

/-!
# What a browser can make the server send

The user name in a request to the authentication service was cut out of a
request line by the functions that read lines, words and parameters; each of
them keeps one kind of byte out of it.
-/

namespace IotMonitoring

open ByteStrings
set_option autoImplicit false

/-- A text that stands in a request line as one parameter value. -/
structure PlainName (u : Bytes) : Prop where
  nonempty : 1 ≤ u.length
  short : u.length ≤ 63
  clean : ∀ c ∈ u, c ∉ [(32 : UInt8), 13, 10, 0, 38]

/-- The lines of a request for the user `u`. -/
def authLines (authHost u : Bytes) : List Bytes :=
  [ascii "GET /auth?user=" ++ u ++ ascii " HTTP/1.1", ascii "Host: " ++ authHost,
    ascii "Connection: close"]

/-! ## The bytes of a query -/

/-- A query string as `handle_http_request` cuts it out of a request line. -/
structure IsQuery (q : Bytes) : Prop where
  oneWord : (32 : UInt8) ∉ q
  oneLine : ∀ c ∈ q, c ≠ newline ∧ c ≠ carriageReturn
  zero_notMem : (0 : UInt8) ∉ q

theorem routePath_login {path : Bytes} {query query' : Option Bytes}
    (h : routePath path query = .login query') : query = query' := by
  simp only [routePath] at h
  split at h
  · cases h
  split at h
  · exact HttpRoute.login.inj h
  repeat (split at h; cases h)
  cases h

theorem routeRequest_query {line q : Bytes} (hline : IsLine line)
    (h : routeRequest line = .login (some q)) : IsQuery q := by
  rw [routeRequest] at h
  split at h
  · cases h
  rename_i method rest hmethod
  split at h
  · cases h
  rename_i path rest' hpath
  split at h
  · cases h
  obtain ⟨-, -, hrest⟩ := strtok_spec hmethod
  obtain ⟨hword, hsub, -⟩ := strtok_spec hpath
  obtain ⟨t, ht, rfl⟩ := Option.map_eq_some_iff.mp (routePath_login h)
  have hq : t.drop 1 ⊆ path := fun c hc => (strchr_suffix ht).subset (List.mem_of_mem_drop hc)
  have hstring : t.drop 1 ⊆ cString line := fun c hc => hrest (hsub (hq hc))
  refine ⟨?_, ?_, ?_⟩
  · intro hc
    have hspace := hword.clean 32 (hq hc)
    cases hspace
  · intro c hc
    exact hline.clean c ((List.takeWhile_sublist _).subset (hstring hc))
  · intro hc
    exact zero_notMem_cString line (hstring hc)

theorem loginUser_subset (q : Bytes) : loginUser (some q) ⊆ q := by
  intro c hc
  rw [loginUser] at hc
  split at hc
  · cases hc
  rename_i t ht
  have htext := cutAt_sublist _ _ hc
  rw [safeStrncpy, Buffer.copy_text] at htext
  have hdrop := (List.takeWhile_sublist _).subset (List.mem_of_mem_take htext)
  exact (strstr_suffix ht).subset (List.mem_of_mem_drop hdrop)

theorem loginUser_length (query : Option Bytes) : (loginUser query).length < maxIdLen := by
  unfold loginUser
  split
  · decide
  split
  · decide
  · exact Nat.lt_of_le_of_lt (List.takeWhile_sublist _).length_le (Buffer.length_lt _)

theorem ampersand_notMem_loginUser (query : Option Bytes) : ampersand ∉ loginUser query := by
  unfold loginUser
  split
  · exact List.not_mem_nil
  split
  · exact List.not_mem_nil
  · exact notMem_cutAt _ _

theorem plainName_loginUser {q : Bytes} (hq : IsQuery q) (hne : loginUser (some q) ≠ []) :
    PlainName (loginUser (some q)) where
  nonempty := List.length_pos_iff.mpr hne
  short := by
    have hlen : (loginUser (some q)).length < 64 := loginUser_length (some q)
    omega
  clean := by
    intro c hc hbad
    have hmem := loginUser_subset q hc
    have hline := hq.oneLine c hmem
    simp only [List.mem_cons, List.not_mem_nil, or_false] at hbad
    rcases hbad with rfl | rfl | rfl | rfl | rfl
    · exact hq.oneWord hmem
    · exact hline.2 rfl
    · exact hline.1 rfl
    · exact hq.zero_notMem hmem
    · exact ampersand_notMem_loginUser (some q) hc

/-! ## The request -/

theorem sentRequest_eq_some {authHost username bytes : Bytes} {attempt : Attempt}
    (h : sentRequest authHost username attempt = some bytes) :
    username ≠ [] ∧ bytes = authRequest authHost username := by
  unfold sentRequest at h
  split at h
  · cases h
  rename_i hne
  split at h
  · cases h
  · cases h
  · cases h
  · exact ⟨hne, (Option.some.inj h).symm⟩
  · exact ⟨hne, (Option.some.inj h).symm⟩

theorem authRequest_lines {authHost u : Bytes} (hhost : authHost.length < maxIdLen)
    (hu : PlainName u) :
    authRequest authHost u = endedLines (authLines authHost u) ++ crlf := by
  have hhost : authHost.length < 64 := hhost
  have hshort := hu.short
  have hrequest : (ascii "GET /auth?user=").length = 15 := rfl
  have hversion : (ascii " HTTP/1.1").length = 9 := rfl
  have hname : (ascii "Host: ").length = 6 := rfl
  have hclose : (ascii "Connection: close").length = 17 := rfl
  have hcrlf : crlf.length = 2 := rfl
  rw [authRequest, snprintf_of_fits]
  · simp only [authLines, endedLines, List.append_assoc, List.append_nil]
  · simp only [List.length_append, hrequest, hversion, hname, hclose, hcrlf, bufferSize]
    omega

/-- A host name in one line ends neither the line nor the string. -/
theorem host_clean {authHost : Buffer maxIdLen}
    (hhost : ∀ c ∈ authHost.text, c ≠ carriageReturn ∧ c ≠ newline) :
    ∀ c ∈ authHost.text, c ∉ [(0 : UInt8), 10, 13] := by
  intro c hc hbad
  simp only [List.mem_cons, List.not_mem_nil, or_false] at hbad
  rcases hbad with rfl | rfl | rfl
  · exact authHost.zero_notMem hc
  · exact (hhost _ hc).2 rfl
  · exact (hhost _ hc).1 rfl

theorem authLines_clean {authHost u : Bytes} (hhost : ∀ c ∈ authHost, c ∉ [(0 : UInt8), 10, 13])
    (hu : PlainName u) : ∀ line ∈ authLines authHost u, HeadLine line := by
  have hname : ∀ c ∈ u, c ∉ [(0 : UInt8), 10, 13] := by
    intro c hc hbad
    have hclean := hu.clean c hc
    simp only [List.mem_cons, List.not_mem_nil, or_false] at hbad hclean
    tauto
  have hget : ∀ c ∈ ascii "GET /auth?user=", c ∉ [(0 : UInt8), 10, 13] := by decide
  have hversion : ∀ c ∈ ascii " HTTP/1.1", c ∉ [(0 : UInt8), 10, 13] := by decide
  have hfield : ∀ c ∈ ascii "Host: ", c ∉ [(0 : UInt8), 10, 13] := by decide
  intro line hline
  simp only [authLines, List.mem_cons, List.not_mem_nil, or_false] at hline
  rcases hline with rfl | rfl | rfl
  · refine ⟨List.cons_ne_nil _ _, ?_⟩
    intro c hc
    rcases List.mem_append.mp hc with hc | hc
    · exact (List.mem_append.mp hc).elim (hget c) (hname c)
    · exact hversion c hc
  · refine ⟨List.cons_ne_nil _ _, ?_⟩
    intro c hc
    exact (List.mem_append.mp hc).elim (hfield c) (hhost c)
  · exact ⟨List.cons_ne_nil _ _, by decide⟩

/-- Whatever an HTTP client sends, a request to the authentication service has its three lines and
the empty one, and its user name adds neither a line nor a word nor a parameter. -/
theorem authTraffic_wellFormed (authHost : Buffer maxIdLen)
    (hhost : ∀ c ∈ authHost.text, c ≠ carriageReturn ∧ c ≠ newline) (attempt : Attempt)
    (s : Stream) (bytes : Bytes) (h : authTraffic authHost.text attempt s = some bytes) :
    ∃ u, PlainName u ∧ bytes = endedLines (authLines authHost.text u) ++ crlf ∧
      ∀ line ∈ authLines authHost.text u, HeadLine line := by
  rw [authTraffic] at h
  split at h
  · rename_i query rest hroute
    rw [handleHttpRequest] at hroute
    split at hroute
    · cases hroute
    rename_i hret
    have hlogin := congrArg Prod.fst (Option.some.inj hroute)
    obtain ⟨hne, hbytes⟩ := sentRequest_eq_some h
    cases query with
    | none => exact absurd rfl hne
    | some q =>
      have hname := plainName_loginUser (routeRequest_query (recvLine_isLine hret) hlogin) hne
      refine ⟨loginUser (some q), hname, ?_, authLines_clean (host_clean hhost) hname⟩
      rw [← authRequest_lines authHost.length_lt hname, hbytes]
  · cases h

/-- `GET /login?user=admin` sent to a server that asks `localhost`. -/
def adminLogin : Stream := ⟨ascii "GET /login?user=admin HTTP/1.1\r\nHost: iot\r\n\r\n", .closed⟩

def localhost : Buffer maxIdLen := .copy (ascii "localhost")

theorem authTraffic_wellFormed_admin :
    ∃ bytes, authTraffic localhost.text .unsent adminLogin = some bytes ∧
      ∃ u, PlainName u ∧ bytes = endedLines (authLines localhost.text u) ++ crlf ∧
        ∀ line ∈ authLines localhost.text u, HeadLine line := by
  have hsent : authTraffic localhost.text .unsent adminLogin =
      some (authRequest localhost.text (ascii "admin")) := by decide
  exact ⟨_, hsent, authTraffic_wellFormed localhost (by decide) .unsent adminLogin _ hsent⟩

end IotMonitoring
