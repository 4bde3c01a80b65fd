import IotMonitoring.Server.HttpRequests

/-!
# The user name of a login

A query is a list of `name=value` parameters with an `&` between them.
`route_login` does not take it apart: it searches for `user=` and reads up to
the next `&`, which is the value of the parameter `user` only where the first
parameter with that text in it is the parameter `user`.
-/

namespace IotMonitoring

open ByteStrings
set_option autoImplicit false

/-! ## Parameters -/

def equalsSign : UInt8 := 61

/-- The name and the value of a parameter; one without an equals sign has an empty value. -/
def parameter (text : Bytes) : Bytes × Bytes :=
  (cutAt text equalsSign, text.drop ((cutAt text equalsSign).length + 1))

def parameters (q : Bytes) : List (Bytes × Bytes) := (q.splitOn ampersand).map parameter

/-- The value of the first parameter named `user`, cut to the 63 bytes of a name. -/
def userParameter (q : Bytes) : Bytes :=
  (((parameters q).lookup (ascii "user")).getD []).take (maxIdLen - 1)

/-- The outcome of `route_login` for a request line that names it. -/
def loginOutcome (authHost authPort : Bytes) (attempt : Attempt) (line : Bytes) :
    Option LoginOutcome :=
  match routeRequest line with
  | .login query => some (routeLogin authHost authPort attempt query)
  | _ => none

def loginLine (q version : Bytes) : Bytes := ascii "GET /login?" ++ q ++ ascii " " ++ version

/-- A login with the query `q` uses its parameter `user` and nothing else of it. -/
def UsesUserParameter (q : Bytes) : Prop :=
  ∀ (version authHost authPort : Bytes) (attempt : Attempt),
    ∃ outcome, loginOutcome authHost authPort attempt (loginLine q version) = some outcome ∧
      (userParameter q ≠ [] → outcome.asked = some (userParameter q)) ∧
      (userParameter q = [] → outcome.asked = none ∧ outcome.reply.status = 400)

def userMark : Bytes := ascii "user="

def hasNoMark (p : Bytes) : Bool := (strstr p userMark).isNone

/-- The first parameter with `user=` in it, if there is one, begins with it, and no bare `user` stands
before it. -/
def UserFound (q : Bytes) : Prop :=
  ∀ p ∈ ((q.splitOn ampersand).dropWhile hasNoMark).head?,
    userMark <+: p ∧ ascii "user" ∉ (q.splitOn ampersand).takeWhile hasNoMark

instance (q : Bytes) : Decidable (UserFound q) := by
  unfold UserFound
  infer_instance

/-- The queries differ only in the value behind the first `user=`. -/
inductive OtherValue (q q' : Bytes) : Prop where
  | mk {before after : List Bytes} {a v v' : Bytes}
      (hq : q.splitOn ampersand = before ++ (a ++ (userMark ++ v)) :: after)
      (hq' : q'.splitOn ampersand = before ++ (a ++ (userMark ++ v')) :: after)
      (hbefore : ∀ r ∈ before, strstr r userMark = none)
      (hfirst : strstr (a ++ (userMark ++ v)) userMark = some (userMark ++ v)) : OtherValue q q'

theorem lookup_parameters (ps : List Bytes) (name : Bytes) :
    (ps.map parameter).lookup name =
      (ps.find? fun p => cutAt p equalsSign == name).map fun p => (parameter p).2 := by
  induction ps with
  | nil => rfl
  | cons p ps ih =>
    rw [List.map_cons, parameter, List.lookup_cons, ih, List.find?_cons, BEq.comm]
    split <;> rfl

/-- A parameter named `user` begins with the mark, or is the bare word. -/
theorem named_user {p : Bytes} (h : cutAt p equalsSign = ascii "user") :
    p = ascii "user" ∨ ∃ v, p = userMark ++ v := by
  have hsplit : cutAt p equalsSign ++ p.dropWhile (· != equalsSign) = p :=
    List.takeWhile_append_dropWhile
  rw [h] at hsplit
  cases hrest : p.dropWhile (· != equalsSign) with
  | nil =>
    rw [hrest, List.append_nil] at hsplit
    exact Or.inl hsplit.symm
  | cons c v =>
    have hhead := List.head?_dropWhile_not (· != equalsSign) p
    rw [hrest] at hhead hsplit
    have hc : c = equalsSign := by simpa using hhead
    subst hc
    exact Or.inr ⟨v, hsplit.symm⟩

theorem parameter_mark (v : Bytes) : parameter (userMark ++ v) = (ascii "user", v) := by
  have hname : cutAt (userMark ++ v) equalsSign = ascii "user" := rfl
  rw [parameter, hname]
  rfl

/-! ## The request line -/

theorem cString_append {a : Bytes} (ha : (0 : UInt8) ∉ a) (b : Bytes) :
    cString (a ++ b) = a ++ cString b := by
  apply List.takeWhile_append_of_pos
  intro c hc
  exact bne_iff_ne.mpr fun h => ha (h ▸ hc)

theorem loginPath_isWord {q : Bytes} (hspace : (32 : UInt8) ∉ q) :
    IsWord isSpaceByte (ascii "/login" ++ questionMark :: q) := by
  refine ⟨List.cons_ne_nil _ _, ?_⟩
  intro c hc
  apply beq_eq_false_iff_ne.mpr
  rintro rfl
  rcases List.mem_append.mp hc with hc | hc
  · exact absurd hc (by decide)
  · rcases List.mem_cons.mp hc with hc | hc
    · cases hc
    · exact hspace hc

/-- The target is the second word of the line, also where the line ends with it. -/
theorem routeRequest_target {q : Bytes} (hspace : (32 : UInt8) ∉ q) (hzero : (0 : UInt8) ∉ q)
    {t : Bytes} (ht : ∀ c ∈ t.head?, c = 32) :
    routeRequest (ascii "GET /login?" ++ q ++ t) = .login (some q) := by
  have hclean : (0 : UInt8) ∉ ascii "GET /login?" ++ q := by
    rw [List.mem_append, not_or]
    exact ⟨by decide, hzero⟩
  have hline : cString (ascii "GET /login?" ++ q ++ t) =
      ascii "GET" ++ 32 :: ((ascii "/login" ++ questionMark :: q) ++ cString t) := by
    rw [cString_append hclean]
    rfl
  have hmethod : strtok isSpaceByte
      (ascii "GET" ++ 32 :: ((ascii "/login" ++ questionMark :: q) ++ cString t)) =
        some (ascii "GET", (ascii "/login" ++ questionMark :: q) ++ cString t) :=
    strtok_word (by decide) _ fun c hc => by cases hc; rfl
  have hrest : ∀ c ∈ (cString t).head?, isSpaceByte c = true := by
    intro c hc
    cases t with
    | nil => cases hc
    | cons d t =>
      obtain rfl : d = 32 := ht d rfl
      cases hc
      rfl
  have hpath := strtok_word (loginPath_isWord hspace) (cString t) hrest
  have hcut : cutAt (ascii "/login" ++ questionMark :: q) questionMark = ascii "/login" :=
    cutAt_append (by decide) q
  have hquery : strchr (ascii "/login" ++ questionMark :: q) questionMark =
      some (questionMark :: q) := strchr_append (by decide)
  rw [routeRequest, hline, hmethod]
  simp only [hpath, hcut, hquery]
  rfl

theorem routeRequest_login {q : Bytes} (hspace : (32 : UInt8) ∉ q) (hzero : (0 : UInt8) ∉ q)
    (version : Bytes) : routeRequest (loginLine q version) = .login (some q) := by
  rw [loginLine, List.append_assoc _ _ version]
  exact routeRequest_target hspace hzero fun c hc => by cases hc; rfl

/-! ## What the search finds -/

theorem loginUser_eq {q : Bytes} (hzero : (0 : UInt8) ∉ q) :
    loginUser (some q) = ((strstr q userMark).map fun t =>
      (cutAt (t.drop 5) ampersand).take (maxIdLen - 1)).getD [] := by
  have hmark : ascii "user=" = userMark := rfl
  simp only [loginUser, hmark]
  cases h : strstr q userMark with
  | none => rfl
  | some t =>
    have hclean : (0 : UInt8) ∉ t.drop 5 := fun hc =>
      hzero ((strstr_suffix h).subset (List.mem_of_mem_drop hc))
    simp only [safeStrncpy, Buffer.copy_text, cString_eq_self hclean, cutAt_take]
    rfl

theorem strstr_startsWith {s t : Bytes} (h : strstr s userMark = some t) : userMark <+: t := by
  induction s with
  | nil => cases h
  | cons c s ih =>
    rw [strstr] at h
    split at h
    · rename_i hstarts
      cases h
      exact List.isPrefixOf_iff_prefix.mp hstarts
    · exact ih h

/-- The search does not look across an `&`: it finds what it finds in the first parameter that
holds the mark. -/
theorem loginUser_pieces {q : Bytes} (hzero : (0 : UInt8) ∉ q) :
    loginUser (some q) =
      (((q.splitOn ampersand).findSome? fun p => strstr p userMark).map fun t =>
        (t.drop 5).take (maxIdLen - 1)).getD [] := by
  rw [loginUser_eq hzero]
  clear hzero
  induction q using separated_induction ampersand with
  | last a ha =>
    rw [List.splitOn_eq_singleton ha, List.findSome?_singleton]
    cases h : strstr a userMark with
    | none => rfl
    | some t =>
      have hclean : ampersand ∉ t.drop 5 := fun hc =>
        ha ((strstr_suffix h).subset (List.mem_of_mem_drop hc))
      simp only [Option.map_some, cutAt_of_notMem hclean]
  | more a s ha ih =>
    rw [List.splitOn_append_cons_self_of_not_mem ha, List.findSome?_cons,
      strstr_separator (by decide) (by decide)]
    cases h : strstr a userMark with
    | none => exact ih
    | some t =>
      have hclean : ampersand ∉ t.drop 5 := fun hc =>
        ha ((strstr_suffix h).subset (List.mem_of_mem_drop hc))
      have hlen : 5 ≤ t.length := (strstr_startsWith h).length_le
      simp only [Option.map_some, Option.some_or, List.drop_append_of_le_length hlen,
        cutAt_append hclean]

/-- Where no parameter holds the mark, the parameter `user` is a bare word or absent. -/
theorem userParameter_unmarked {q : Bytes}
    (h : ∀ p ∈ q.splitOn ampersand, strstr p userMark = none) : userParameter q = [] := by
  rw [userParameter, parameters, lookup_parameters]
  cases hfind : (q.splitOn ampersand).find? fun p => cutAt p equalsSign == ascii "user" with
  | none => rfl
  | some p =>
    have hname := List.find?_some hfind
    rcases named_user (beq_iff_eq.mp hname) with rfl | ⟨v, rfl⟩
    · rfl
    · have hnone := h _ (List.mem_of_find?_eq_some hfind)
      rw [strstr_self_append] at hnone
      cases hnone

/-- A parameter that begins with the mark, behind others without the mark and without the bare
word, is the parameter `user`. -/
theorem userParameter_marked {q v : Bytes} {before after : List Bytes}
    (hq : q.splitOn ampersand = before ++ (userMark ++ v) :: after)
    (hbefore : ∀ r ∈ before, strstr r userMark = none) (hbare : ascii "user" ∉ before) :
    userParameter q = v.take (maxIdLen - 1) := by
  have hnone : (before.find? fun p => cutAt p equalsSign == ascii "user") = none := by
    apply List.find?_eq_none.mpr
    intro r hr hname
    rcases named_user (beq_iff_eq.mp hname) with rfl | ⟨w, rfl⟩
    · exact hbare hr
    · have hmark := hbefore _ hr
      rw [strstr_self_append] at hmark
      cases hmark
  have hname : (cutAt (userMark ++ v) equalsSign == ascii "user") = true := rfl
  rw [userParameter, parameters, lookup_parameters, hq, List.find?_append, hnone, Option.none_or,
    List.find?_cons, hname]
  simp only [Option.map_some, Option.getD_some, parameter_mark]

theorem loginUser_marked {q p t : Bytes} {before after : List Bytes} (hzero : (0 : UInt8) ∉ q)
    (hq : q.splitOn ampersand = before ++ p :: after)
    (hbefore : ∀ r ∈ before, strstr r userMark = none) (ht : strstr p userMark = some t) :
    loginUser (some q) = (t.drop 5).take (maxIdLen - 1) := by
  have hfind : ((q.splitOn ampersand).findSome? fun p => strstr p userMark) = some t :=
    List.findSome?_eq_some_iff.mpr ⟨before, p, after, hq, ht, hbefore⟩
  rw [loginUser_pieces hzero, hfind]
  rfl

/-- Either no parameter holds the mark, or the condition is about the first that does. -/
theorem userFound_cases (q : Bytes) : (∀ p ∈ q.splitOn ampersand, strstr p userMark = none) ∨
    ∃ before p after t, q.splitOn ampersand = before ++ p :: after ∧
      (∀ r ∈ before, strstr r userMark = none) ∧ strstr p userMark = some t ∧
      (UserFound q ↔ userMark <+: p ∧ ascii "user" ∉ before) := by
  have hsplit : (q.splitOn ampersand).takeWhile hasNoMark ++ (q.splitOn ampersand).dropWhile hasNoMark =
      q.splitOn ampersand := List.takeWhile_append_dropWhile
  have hbefore : ∀ r ∈ (q.splitOn ampersand).takeWhile hasNoMark, strstr r userMark = none := by
    intro r hr
    have hnone : hasNoMark r = true := List.mem_takeWhile_imp hr
    exact Option.isNone_iff_eq_none.mp hnone
  cases hrest : (q.splitOn ampersand).dropWhile hasNoMark with
  | nil =>
    rw [hrest, List.append_nil] at hsplit
    rw [hsplit] at hbefore
    exact Or.inl hbefore
  | cons p after =>
    have hhead := List.head?_dropWhile_not hasNoMark (q.splitOn ampersand)
    rw [hrest] at hhead hsplit
    have hmarked : hasNoMark p = false := by simpa using hhead
    obtain ⟨t, ht⟩ : ∃ t, strstr p userMark = some t := by
      rw [hasNoMark, Option.isNone_eq_false_iff] at hmarked
      exact Option.isSome_iff_exists.mp hmarked
    refine Or.inr ⟨_, p, after, t, hsplit.symm, hbefore, ht, ?_⟩
    unfold UserFound
    rw [hrest, List.head?_cons]
    simp only [Option.mem_def, Option.some.injEq, forall_eq']

theorem loginUser_eq_userParameter {q : Bytes} (hzero : (0 : UInt8) ∉ q) (hfound : UserFound q) :
    loginUser (some q) = userParameter q := by
  rcases userFound_cases q with hnone | ⟨before, p, after, t, hq, hbefore, ht, hiff⟩
  · rw [loginUser_pieces hzero, List.findSome?_eq_none_iff.mpr hnone, userParameter_unmarked hnone]
    rfl
  · obtain ⟨⟨v, rfl⟩, hbare⟩ := hiff.mp hfound
    rw [loginUser_marked hzero hq hbefore ht]
    rw [strstr_self_append] at ht
    cases ht
    rw [userParameter_marked hq hbefore hbare]
    rfl

/-! ## Other arrangements -/

/-- What stands behind the first mark does not move it. -/
theorem strstr_value {a v : Bytes} (h : strstr (a ++ (userMark ++ v)) userMark = some (userMark ++ v))
    (v' : Bytes) : strstr (a ++ (userMark ++ v')) userMark = some (userMark ++ v') := by
  induction a with
  | nil => exact strstr_self_append userMark v'
  | cons c a ih =>
    have hlen : userMark.length ≤ (c :: a ++ userMark).length := by
      rw [List.length_append]
      exact Nat.le_add_left _ _
    rw [List.cons_append, strstr] at h ⊢
    split at h
    · have hlength := congrArg List.length (Option.some.inj h)
      rw [List.length_cons, List.length_append] at hlength
      omega
    · rename_i hstarts
      rw [if_neg]
      · exact ih h
      · intro hstarts'
        apply hstarts
        rw [List.isPrefixOf_iff_prefix] at hstarts' ⊢
        have hmark : userMark <+: c :: a ++ userMark := by
          apply List.prefix_of_prefix_length_le hstarts' _ hlen
          rw [← List.append_assoc, ← List.cons_append, ← List.cons_append]
          exact List.prefix_append _ _
        rw [← List.append_assoc, ← List.cons_append, ← List.cons_append]
        exact hmark.trans (List.prefix_append _ _)

/-- A parameter with the mark behind its first byte has another name. -/
theorem otherName {a v : Bytes} (ha : a ≠ [])
    (h : strstr (a ++ (userMark ++ v)) userMark = some (userMark ++ v)) :
    (cutAt (a ++ (userMark ++ v)) equalsSign == ascii "user") = false := by
  rw [beq_eq_false_iff_ne]
  intro hname
  rcases named_user hname with huser | ⟨w, hw⟩
  · rw [huser] at h
    cases h
  · rw [hw, strstr_self_append, ← hw] at h
    have hlength := congrArg List.length (Option.some.inj h)
    rw [List.length_append] at hlength
    exact ha (List.eq_nil_of_length_eq_zero (by omega))

/-- Where the search ends at another parameter, its value is not that of `user`. -/
theorem userParameter_otherValue {q q' a v v' : Bytes} {before after : List Bytes}
    (hq : q.splitOn ampersand = before ++ (a ++ (userMark ++ v)) :: after)
    (hq' : q'.splitOn ampersand = before ++ (a ++ (userMark ++ v')) :: after)
    (hfirst : strstr (a ++ (userMark ++ v)) userMark = some (userMark ++ v))
    (hother : a ≠ [] ∨ ascii "user" ∈ before) : userParameter q' = userParameter q := by
  have hfind : (q'.splitOn ampersand).find? (fun p => cutAt p equalsSign == ascii "user") =
      (q.splitOn ampersand).find? fun p => cutAt p equalsSign == ascii "user" := by
    rw [hq, hq', List.find?_append, List.find?_append]
    rcases hother with ha | hbare
    · rw [List.find?_cons, List.find?_cons, otherName ha hfirst, otherName ha (strstr_value hfirst v')]
    · obtain ⟨p, hp⟩ : ∃ p, before.find? (fun p => cutAt p equalsSign == ascii "user") = some p :=
        Option.isSome_iff_exists.mp (List.find?_isSome.mpr ⟨_, hbare, rfl⟩)
      rw [hp]
      rfl
  rw [userParameter, userParameter, parameters, parameters, lookup_parameters, lookup_parameters, hfind]

/-- A parameter can be replaced. -/
theorem splitOn_replace {q p : Bytes} {before after : List Bytes}
    (hq : q.splitOn ampersand = before ++ p :: after) : ampersand ∉ p ∧ ∃ front back,
      q = front ++ (p ++ back) ∧ ∀ p', ampersand ∉ p' →
        (front ++ (p' ++ back)).splitOn ampersand = before ++ p' :: after := by
  induction q using separated_induction ampersand generalizing before with
  | last a ha =>
    rw [List.splitOn_eq_singleton ha] at hq
    cases before with
    | nil =>
      cases hq
      refine ⟨ha, [], [], (List.append_nil p).symm, fun p' hp' => ?_⟩
      rw [List.append_nil, List.nil_append, List.splitOn_eq_singleton hp']
      rfl
    | cons r before =>
      have hnil := (List.cons.inj hq).2
      cases before <;> cases hnil
  | more a s ha ih =>
    rw [List.splitOn_append_cons_self_of_not_mem ha] at hq
    cases before with
    | nil =>
      cases hq
      refine ⟨ha, [], ampersand :: s, rfl, fun p' hp' => ?_⟩
      rw [List.nil_append, List.splitOn_append_cons_self_of_not_mem hp']
      rfl
    | cons r before =>
      obtain ⟨rfl, hs⟩ := List.cons.inj hq
      obtain ⟨hp, front, back, rfl, hsplit⟩ := ih hs
      refine ⟨hp, a ++ ampersand :: front, back, ?_, fun p' hp' => ?_⟩
      · rw [List.append_assoc, List.cons_append]
      · rw [List.append_assoc, List.cons_append, List.splitOn_append_cons_self_of_not_mem ha,
          hsplit p' hp']
        rfl

/-! ## The login -/

theorem routeLogin_asked (authHost authPort : Bytes) (attempt : Attempt) (query : Option Bytes) :
    (loginUser query ≠ [] →
      (routeLogin authHost authPort attempt query).asked = some (loginUser query)) ∧
    (loginUser query = [] → (routeLogin authHost authPort attempt query).asked = none ∧
      (routeLogin authHost authPort attempt query).reply.status = 400) := by
  constructor
  · intro h
    simp only [routeLogin, if_neg h]
  · intro h
    simp only [routeLogin, if_pos h, and_self]

theorem loginOutcome_login {q : Bytes} (hspace : (32 : UInt8) ∉ q) (hzero : (0 : UInt8) ∉ q)
    (version authHost authPort : Bytes) (attempt : Attempt) :
    loginOutcome authHost authPort attempt (loginLine q version) =
      some (routeLogin authHost authPort attempt (some q)) := by
  rw [loginOutcome, routeRequest_login hspace hzero]

theorem usesUserParameter_iff {q : Bytes} (hspace : (32 : UInt8) ∉ q) (hzero : (0 : UInt8) ∉ q) :
    UsesUserParameter q ↔ loginUser (some q) = userParameter q := by
  constructor
  · intro h
    obtain ⟨outcome, hsome, hasked, hmissing⟩ := h [] [] [] .unsent
    cases (loginOutcome_login hspace hzero [] [] [] .unsent).symm.trans hsome
    have hcode := routeLogin_asked [] [] .unsent (some q)
    by_cases hname : loginUser (some q) = []
    · by_cases huser : userParameter q = []
      · rw [hname, huser]
      · have hnone := (hcode.2 hname).1
        rw [hasked huser] at hnone
        cases hnone
    · have hsome := hcode.1 hname
      by_cases huser : userParameter q = []
      · rw [(hmissing huser).1] at hsome
        cases hsome
      · rw [hasked huser] at hsome
        exact (Option.some.inj hsome).symm
  · intro h version authHost authPort attempt
    refine ⟨_, loginOutcome_login hspace hzero version authHost authPort attempt, ?_⟩
    rw [← h]
    exact routeLogin_asked authHost authPort attempt (some q)

/-- In every other arrangement some value in the place where the search ends is taken for the user. -/
theorem otherValue_of_not_found {q : Bytes} (hspace : (32 : UInt8) ∉ q) (hzero : (0 : UInt8) ∉ q)
    (hfound : ¬ UserFound q) :
    ∃ q', OtherValue q q' ∧ (32 : UInt8) ∉ q' ∧ (0 : UInt8) ∉ q' ∧ ¬ UsesUserParameter q' := by
  rcases userFound_cases q with hnone | ⟨before, p, after, t, hq, hbefore, ht, hiff⟩
  · refine absurd ?_ hfound
    intro p hp
    have hmem : p ∈ q.splitOn ampersand :=
      (List.dropWhile_suffix _).subset (List.mem_of_head? hp)
    have hhead := List.head?_dropWhile_not hasNoMark (q.splitOn ampersand)
    rw [Option.mem_def.mp hp] at hhead
    have hmarked : hasNoMark p = false := by simpa using hhead
    rw [hasNoMark, hnone p hmem] at hmarked
    cases hmarked
  obtain ⟨a, rfl⟩ := strstr_suffix ht
  obtain ⟨v, rfl⟩ := strstr_startsWith ht
  have hother : a ≠ [] ∨ ascii "user" ∈ before := by
    by_cases ha : a = []
    · refine Or.inr (by_contra fun hbare => hfound (hiff.mpr ⟨?_, hbare⟩))
      rw [ha]
      exact List.prefix_append userMark v
    · exact Or.inl ha
  -- a value that the parameter `user` does not have
  obtain ⟨v', hv', hdiff⟩ : ∃ v' ∈ [[], ascii "x"], v'.take (maxIdLen - 1) ≠ userParameter q := by
    by_cases huser : userParameter q = []
    · refine ⟨ascii "x", by decide, ?_⟩
      rw [huser]
      decide
    · exact ⟨[], by decide, Ne.symm huser⟩
  have hmem : ∀ c ∈ userMark ++ v', c ∉ [(0 : UInt8), 32, ampersand] := by
    rcases List.mem_cons.mp hv' with rfl | hv'
    · decide
    · rw [List.mem_singleton.mp hv']
      decide
  obtain ⟨hpiece, front, back, rfl, hreplace⟩ := splitOn_replace hq
  have hq' := hreplace (a ++ (userMark ++ v')) (by
    rw [List.mem_append, not_or]
    exact ⟨fun hc => hpiece (List.mem_append_left _ hc), fun hc => hmem _ hc (by decide)⟩)
  have hclean : ∀ c, c ∈ [(0 : UInt8), 32] → c ∉ front ++ (a ++ (userMark ++ v) ++ back) →
      c ∉ front ++ (a ++ (userMark ++ v') ++ back) := by
    intro c hc hold hnew
    simp only [List.mem_append, not_or] at hold hnew
    obtain ⟨hfront, ⟨ha, -, -⟩, hback⟩ := hold
    rcases hnew with hnew | (hnew | hnew) | hnew
    · exact hfront hnew
    · exact ha hnew
    · refine hmem c (List.mem_append.mpr hnew) ?_
      exact List.mem_append_left [ampersand] hc
    · exact hback hnew
  have hspace' := hclean 32 (by decide) hspace
  have hzero' := hclean 0 (by decide) hzero
  refine ⟨_, .mk hq hq' hbefore ht, hspace', hzero', ?_⟩
  rw [usesUserParameter_iff hspace' hzero',
    loginUser_marked hzero' hq' hbefore (strstr_value ht v'),
    userParameter_otherValue hq hq' ht hother]
  exact hdiff

end IotMonitoring
