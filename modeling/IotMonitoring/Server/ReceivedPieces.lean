import IotMonitoring.Server.Framing
import IotMonitoring.Shared.Pieces

/-!
# A stream in the pieces `recv_line` delivers

`recv_line` called on one stream until it returns 0 cuts each line into pieces
of the buffer's size. It returns 0 for an empty rest of a line, so the calls end
behind the first line that full pieces use up. The number of bytes goes through
`int`: a piece of 2^31 bytes or more is not returned as long as it is.
-/

namespace IotMonitoring

open ByteStrings Pieces
set_option autoImplicit false

/-! ## The lines of a stream -/

/-- The texts between the newlines, without carriage returns. -/
def textLines (bytes : Bytes) : List Bytes :=
  (bytes.filter (· ≠ carriageReturn)).splitOn newline

theorem textLines_eq (bytes : Bytes) : textLines bytes = (split bytes).1 ++ [(split bytes).2] := by
  have hne : newline ≠ carriageReturn := by decide
  induction bytes with
  | nil => rfl
  | cons c cs ih =>
    unfold textLines List.splitOn at ih ⊢
    by_cases hnl : c = newline
    · rw [hnl, List.filter_cons_of_pos (by simpa using hne), List.splitOnP_cons_eq_if_modifyHead, if_pos (by simp), ih,
        split, if_pos rfl]
      rfl
    · by_cases hcr : c = carriageReturn
      · rw [List.filter_cons_of_neg (by simpa using hcr), ih, split, if_neg hnl, if_pos hcr]
      · rw [List.filter_cons_of_pos (by simpa using hcr), List.splitOnP_cons_eq_if_modifyHead,
          if_neg (by simpa using hnl), ih, split, if_neg hnl, if_neg hcr]
        rcases split cs with ⟨ls, fragment⟩
        cases ls <;> rfl

/-! ## One call -/

section Call
variable {c : Nat} {ending : Ending}

/-- What is left unread is the end of what there was. -/
theorem recvLoop_suffix (bytes buf : Bytes) : (recvLoop c ending buf bytes).rest <:+ bytes := by
  fun_induction recvLoop c ending buf bytes with
  | case5 buf cs hroom => exact List.suffix_cons newline cs
  | case6 buf b cs hroom hnl hcr ih => exact ih.trans (List.suffix_cons b cs)
  | case7 buf b cs hroom hnl hcr ih => exact ih.trans (List.suffix_cons b cs)
  | _ => exact List.suffix_refl _

/-- A call delivers the next piece, and the stream left has the pieces behind it. -/
theorem recvLoop_piece (hc : 0 < c) (bytes : Bytes) : ∃ piece rest ended,
    recvLoop c .closed [] bytes = ⟨piece.length, piece, rest, ended⟩ ∧
      cutUntilFull c (textLines bytes) =
        if piece = [] then [] else piece :: cutUntilFull c (textLines rest) := by
  rcases hs : split bytes with ⟨ls, fragment⟩
  rw [textLines_eq, hs]
  rcases Nat.lt_or_ge (headText (split bytes)).length c with hlt | hle
  · rw [hs] at hlt
    cases ls with
    | nil =>
      have hroom : ([] : Bytes).length + fragment.length < c := by simpa [headText] using hlt
      refine ⟨fragment, [], true, recvLoop_fragment [] hs hroom, ?_⟩
      split
      · rename_i hnil
        rw [hnil]
        exact cutUntilFull_nil hc
      · rename_i hne
        rw [List.nil_append, cutUntilFull_of_lt hc hne hlt]
        exact congrArg _ (cutUntilFull_nil hc).symm
    | cons l ls =>
      have hroom : ([] : Bytes).length + l.length < c := by simpa [headText] using hlt
      obtain ⟨rest, hread, hrest⟩ := recvLoop_line [] hs hroom
      refine ⟨l, rest, false, hread, ?_⟩
      rw [textLines_eq, hrest]
      split
      · rename_i hnil
        rw [hnil]
        exact cutUntilFull_nil hc
      · rename_i hne
        exact cutUntilFull_of_lt hc hne hlt
  · obtain ⟨rest, hread, hrest⟩ := recvLoop_cut [] (Nat.zero_le c) (by simpa using hle)
    rw [List.length_nil, Nat.sub_zero, List.nil_append] at hread
    rw [List.length_nil, Nat.sub_zero] at hrest
    have hfull : ((headText (split bytes)).take c).length = c := List.length_take_of_le hle
    have hne : (headText (split bytes)).take c ≠ [] := by
      apply List.ne_nil_of_length_pos
      rw [hfull]
      exact hc
    refine ⟨(headText (split bytes)).take c, rest, false, ?_, ?_⟩
    · rw [hread, hfull]
    · rw [if_neg hne, textLines_eq, hrest, hs]
      rw [hs] at hle
      cases ls with
      | nil => exact cutUntilFull_of_le hc hle
      | cons l ls => exact cutUntilFull_of_le hc hle

end Call

/-! ## The calls up to the first that returns 0 -/

/-- The calls on a stream that is closed behind these bytes, without the one that returns 0; `none`
if the first calls, as many as the fuel, all return something else. -/
def recvCalls (bufSize : Nat) : Nat → Bytes → Option (List Received)
  | 0, _ => none
  | fuel + 1, bytes =>
    let r := recvLine bufSize ⟨bytes, .closed⟩
    if r.ret = 0 then some [] else (recvCalls bufSize fuel r.rest).map (r :: ·)

/-- The calls end. Each returns the length of its text and stores the text, and takes at least one
byte off the front of the stream. -/
def Delivers (bufSize : Nat) (bytes : Bytes) (texts : List Bytes) : Prop :=
  ∃ calls, (∀ fuel, bytes.length < fuel → recvCalls bufSize fuel bytes = some calls) ∧
    calls.map (fun r => (r.ret, r.buf)) = texts.map (fun text => ((text.length : Int), text)) ∧
    (bytes :: calls.map (·.rest)).IsChain fun before after => after <:+ before ∧ after ≠ before

section Calls
variable {c : Nat}

/-- A call of `recv_line` with what follows from its return value. -/
theorem recvLine_piece_cases (hc : 0 < c) (bytes : Bytes) : ∃ piece rest ended,
    recvLine (c + 1) ⟨bytes, .closed⟩ = ⟨asInt piece.length, piece, rest, ended⟩ ∧
      (piece ≠ [] → rest <:+ bytes ∧ rest.length < bytes.length) ∧
      cutUntilFull c (textLines bytes) =
        if piece = [] then [] else piece :: cutUntilFull c (textLines rest) := by
  obtain ⟨piece, rest, ended, hread, hpieces⟩ := recvLoop_piece hc bytes
  refine ⟨piece, rest, ended, ?_, ?_, hpieces⟩
  · unfold recvLine
    simp only [Nat.add_sub_cancel, hread]
  · intro hne
    have hsuffix : (recvLoop c .closed [] bytes).rest <:+ bytes := recvLoop_suffix bytes []
    have hlength : (recvLoop c .closed [] bytes).rest.length +
        (recvLoop c .closed [] bytes).buf.length ≤ bytes.length := recvLoop_length bytes []
    rw [hread] at hsuffix hlength
    have hpos : 0 < piece.length := List.length_pos_of_ne_nil hne
    simp only at hlength
    exact ⟨hsuffix, by omega⟩

/-- More fuel than the calls need changes nothing. -/
theorem recvCalls_of_le {bufSize fuel more : Nat} {bytes : Bytes} {calls : List Received}
    (h : recvCalls bufSize fuel bytes = some calls) (hle : fuel ≤ more) :
    recvCalls bufSize more bytes = some calls := by
  induction fuel generalizing more bytes calls with
  | zero => cases h
  | succ fuel ih =>
    obtain ⟨more, rfl⟩ : ∃ k, more = k + 1 := ⟨more - 1, by omega⟩
    simp only [recvCalls] at h ⊢
    split at h
    · rename_i hzero
      rw [if_pos hzero]
      exact h
    · rename_i hnonzero
      obtain ⟨later, hlater, rfl⟩ := Option.map_eq_some_iff.mp h
      rw [if_neg hnonzero, ih hlater (Nat.le_of_succ_le_succ hle)]
      rfl

/-- The calls end; where every piece can be returned they deliver the pieces. -/
theorem recvCalls_some (hc : 0 < c) {fuel : Nat} {bytes : Bytes} (hfuel : bytes.length < fuel) :
    ∃ calls, recvCalls (c + 1) fuel bytes = some calls ∧
      (∀ r ∈ calls, r.ret = asInt r.buf.length) ∧
      ((bytes :: calls.map (·.rest)).IsChain fun before after => after <:+ before ∧ after ≠ before) ∧
      ((∀ text ∈ cutUntilFull c (textLines bytes), text.length < 2 ^ 31) →
        calls.map (·.buf) = cutUntilFull c (textLines bytes)) := by
  induction fuel generalizing bytes with
  | zero => exact absurd hfuel (Nat.not_lt_zero _)
  | succ fuel ih =>
    obtain ⟨piece, rest, ended, hread, htaken, hpieces⟩ := recvLine_piece_cases hc bytes
    rw [hpieces]
    simp only [recvCalls, hread]
    by_cases hzero : asInt piece.length = 0
    · refine ⟨[], if_pos hzero, fun r hr => absurd hr List.not_mem_nil, .singleton _, ?_⟩
      intro hshort
      by_cases hnil : piece = []
      · rw [if_pos hnil]
        rfl
      · -- a piece that can be returned has a length other than 0
        rw [if_neg hnil] at hshort
        rw [asInt_eq_iff.mpr (hshort piece List.mem_cons_self)] at hzero
        exact absurd (List.length_eq_zero_iff.mp (Int.ofNat_eq_zero.mp hzero)) hnil
    · have hne : piece ≠ [] := by
        rintro rfl
        exact hzero rfl
      obtain ⟨hsuffix, hlt⟩ := htaken hne
      have hrest : rest.length < fuel := by omega
      obtain ⟨later, hlater, hret, hchain, hbuf⟩ := ih hrest
      refine ⟨⟨asInt piece.length, piece, rest, ended⟩ :: later, ?_, ?_, ?_, ?_⟩
      · rw [if_neg hzero, hlater]
        rfl
      · intro r hr
        rcases List.mem_cons.mp hr with rfl | hr
        · simp only
        · exact hret r hr
      · refine .cons_cons ⟨hsuffix, ?_⟩ hchain
        rintro rfl
        exact Nat.lt_irrefl _ hlt
      · rw [if_neg hne]
        intro hshort
        rw [List.map_cons, hbuf fun text htext => hshort text (List.mem_cons_of_mem piece htext)]

/-- What is delivered is returned with its length, so it is shorter than 2^31. -/
theorem Delivers.length_lt (hc : 0 < c) {bytes : Bytes} {texts : List Bytes}
    (h : Delivers (c + 1) bytes texts) : ∀ text ∈ texts, text.length < 2 ^ 31 := by
  obtain ⟨calls, hcalls, htexts, -⟩ := h
  obtain ⟨calls', hcalls', hret, -⟩ := recvCalls_some hc (Nat.lt_succ_self bytes.length)
  rw [hcalls _ (Nat.lt_succ_self bytes.length)] at hcalls'
  cases hcalls'
  intro text htext
  have hmem := List.mem_map_of_mem (f := fun text => ((text.length : Int), text)) htext
  rw [← htexts] at hmem
  obtain ⟨r, hr, heq⟩ := List.mem_map.mp hmem
  obtain ⟨hlength, rfl⟩ := Prod.mk.inj heq
  rw [hret r hr] at hlength
  exact asInt_eq_iff.mp hlength

theorem delivers_of_short (hc : 0 < c) {bytes : Bytes}
    (hshort : ∀ text ∈ cutUntilFull c (textLines bytes), text.length < 2 ^ 31) :
    Delivers (c + 1) bytes (cutUntilFull c (textLines bytes)) := by
  obtain ⟨calls, hcalls, hret, hchain, hbuf⟩ := recvCalls_some hc (Nat.lt_succ_self bytes.length)
  refine ⟨calls, fun fuel hfuel => recvCalls_of_le hcalls hfuel, ?_, hchain⟩
  have htexts := hbuf hshort
  rw [← htexts, List.map_map]
  apply List.map_congr_left
  intro r hr
  have hmem : r.buf ∈ cutUntilFull c (textLines bytes) := by
    rw [← htexts]
    exact List.mem_map_of_mem hr
  rw [Function.comp_apply, hret r hr, asInt_eq_iff.mpr (hshort r.buf hmem)]

end Calls

/-- For any buffer of at least two bytes: the calls deliver the pieces of the lines, in order, up to
the first line that full pieces use up, if and only if no such piece has 2^31 bytes or more. In a
buffer of at most 2^31 bytes there is none. -/
theorem recvLine_delivers {bufSize : Nat} (hsize : 2 ≤ bufSize) (bytes : Bytes) :
    (Delivers bufSize bytes (cutUntilFull (bufSize - 1) (textLines bytes)) ↔
      ∀ text ∈ cutUntilFull (bufSize - 1) (textLines bytes), text.length < 2 ^ 31) ∧
    (bufSize ≤ 2 ^ 31 →
      Delivers bufSize bytes (cutUntilFull (bufSize - 1) (textLines bytes))) := by
  obtain ⟨c, rfl⟩ : ∃ c, bufSize = c + 1 := ⟨bufSize - 1, by omega⟩
  have hc : 0 < c := by omega
  rw [Nat.add_sub_cancel]
  refine ⟨⟨fun h => h.length_lt hc, delivers_of_short hc⟩, ?_⟩
  intro hle
  apply delivers_of_short hc
  intro text htext
  have hroom := length_le_of_mem_cutUntilFull htext
  omega

/-- A line with one piece too many for the first buffer, and a fragment. -/
theorem recvLine_delivers_fourBytes : Delivers 4 (ascii "abcd\r\nef")
    [ascii "abc", ascii "d", ascii "ef"] :=
  (recvLine_delivers (by decide) (ascii "abcd\r\nef")).2 (by decide)

/-- A line of `n` letters that fills its buffer. -/
theorem not_delivers_letters {n : Nat} (hn : 2 ^ 31 ≤ n) :
    ¬ Delivers (n + 1) (List.replicate n 97)
      (cutUntilFull (n + 1 - 1) (textLines (List.replicate n 97))) := by
  have hc : 0 < n := by omega
  have hkept : (List.replicate n (97 : UInt8)).filter (· ≠ carriageReturn) = List.replicate n 97 := by
    apply List.filter_eq_self.mpr
    intro b hb
    rw [List.eq_of_mem_replicate hb]
    rfl
  have hline : textLines (List.replicate n 97) = [List.replicate n 97] := by
    unfold textLines List.splitOn
    rw [hkept]
    apply List.splitOnP_eq_singleton
    intro b hb
    rw [List.eq_of_mem_replicate hb]
    decide
  intro h
  have hlength := h.length_lt hc (List.replicate n 97) (by
    rw [Nat.add_sub_cancel, hline, cutUntilFull_of_le hc (List.length_replicate.ge),
      List.take_of_length_le List.length_replicate.le]
    exact List.mem_cons_self)
  rw [List.length_replicate] at hlength
  omega

/-- 2^32 bytes in a buffer for them are counted as 0. -/
theorem recvLine_undelivered :
    ¬ Delivers (2 ^ 32 + 1) (List.replicate (2 ^ 32) 97)
      (cutUntilFull (2 ^ 32 + 1 - 1) (textLines (List.replicate (2 ^ 32) 97))) :=
  not_delivers_letters (by decide)

end IotMonitoring
