import IotMonitoring.Shared.Binary64
import IotMonitoring.Shared.Substrings

/-!
# HTTP messages

Header lines and the three ways in which a response carries its content: up to
an announced length, in chunks, or up to the end of the connection.
-/

namespace IotMonitoring.HttpMessages

open ByteStrings Binary64
set_option autoImplicit false

/-- The digits of a number, in either case where they are hexadecimal. -/
inductive Numeral (base : Nat) : Bytes → Nat → Prop where
  | digit {c : UInt8} {d : Nat} (hd : hexDigit c = some d) (hbase : d < base) : Numeral base [c] d
  | more {ds : Bytes} {n : Nat} {c : UInt8} {d : Nat} (h : Numeral base ds n)
      (hd : hexDigit c = some d) (hbase : d < base) : Numeral base (ds ++ [c]) (base * n + d)

/-! ## Lines of a head -/

/-- A status line of HTTP/1 with this code. -/
def HasStatus (code line : Bytes) : Prop :=
  ∃ (minor : UInt8) (reason : Bytes), isDigit minor = true ∧
    (reason = [] ∨ reason.head? = some 32) ∧
    line = ascii "HTTP/1." ++ [minor] ++ ascii " " ++ code ++ reason

def IsBlank (c : UInt8) : Prop := c ∈ [(32 : UInt8), 9]

instance : DecidablePred IsBlank := fun c => inferInstanceAs (Decidable (c ∈ [(32 : UInt8), 9]))

/-- A header line for the field of this name, in small letters, with the value between blanks. -/
def Field (name value line : Bytes) : Prop :=
  ∃ written before after : Bytes, written.map lower = name ∧
    (∀ c ∈ before ++ after, IsBlank c) ∧
    (∀ c ∈ value.head?, ¬ IsBlank c) ∧ (∀ c ∈ value.getLast?, ¬ IsBlank c) ∧
    line = written ++ ascii ":" ++ before ++ value ++ after

def HasField (name : Bytes) (headers : List Bytes) : Prop :=
  ∃ line ∈ headers, ∃ value, Field name value line

/-- Some line has the field, and every value given for it is of this kind. -/
def AllFields (name : Bytes) (kind : Bytes → Prop) (headers : List Bytes) : Prop :=
  HasField name headers ∧ ∀ line ∈ headers, ∀ value, Field name value line → kind value

/-! ## Contents -/

/-- What may stand behind the size of a chunk. -/
def Extension (text : Bytes) : Prop :=
  text = [] ∨ (text.head? = some 59 ∧ ∀ c ∈ text, c ∉ [(0 : UInt8), 10, 13])

/-- A body in chunks, with its content. -/
inductive Chunked : Bytes → Bytes → Prop where
  | last {size extension : Bytes} {trailers : List Bytes} (hsize : Numeral 16 size 0)
      (hextension : Extension extension) (htrailers : ∀ line ∈ trailers, HeadLine line) :
      Chunked (size ++ extension ++ crlf ++ endedLines trailers ++ crlf) []
  | chunk {size extension data body content : Bytes} (hsize : Numeral 16 size data.length)
      (hdata : data ≠ []) (hextension : Extension extension) (h : Chunked body content) :
      Chunked (size ++ extension ++ crlf ++ data ++ crlf ++ body) (data ++ content)

/-- A response with these header lines and this body carries the content whole; `closed` says that
the connection ended behind the body. The body is all that stands behind the head, so one longer than
announced, or with more behind its last chunk, is not whole. -/
inductive Carries (closed : Prop) (headers : List Bytes) : Bytes → Bytes → Prop where
  | sized {body : Bytes} (hcoding : ¬ HasField (ascii "transfer-encoding") headers)
      (hlength : AllFields (ascii "content-length") (fun v => Numeral 10 v body.length) headers) :
      Carries closed headers body body
  | chunked {body content : Bytes}
      (hcoding : AllFields (ascii "transfer-encoding")
        (fun v => v.map lower = ascii "chunked") headers)
      (h : Chunked body content) : Carries closed headers body content
  | untilClose {body : Bytes} (hclosed : closed)
      (hcoding : ¬ HasField (ascii "transfer-encoding") headers)
      (hlength : ¬ HasField (ascii "content-length") headers) : Carries closed headers body body

theorem Numeral.zero_notMem {base n : Nat} {text : Bytes} (h : Numeral base text n) :
    (0 : UInt8) ∉ text := by
  have hdigit : ∀ (c : UInt8) (d : Nat), hexDigit c = some d → (0 : UInt8) ≠ c := by
    rintro c d hd rfl
    cases hd
  induction h with
  | digit hd _ => exact fun hz => hdigit _ _ hd (List.mem_singleton.mp hz)
  | more _ hd _ ih =>
    rw [List.mem_append, not_or]
    exact ⟨ih, fun hz => hdigit _ _ hd (List.mem_singleton.mp hz)⟩

theorem Extension.zero_notMem {text : Bytes} (h : Extension text) : (0 : UInt8) ∉ text := by
  rcases h with rfl | ⟨-, hclean⟩
  · exact List.not_mem_nil
  · exact fun hz => hclean 0 hz List.mem_cons_self

/-- Chunks add no zero byte to the content. -/
theorem Chunked.zero_notMem {body content : Bytes} (h : Chunked body content)
    (hcontent : (0 : UInt8) ∉ content) : (0 : UInt8) ∉ body := by
  induction h with
  | last hsize hextension htrailers =>
    simp only [List.mem_append, not_or]
    exact ⟨⟨⟨⟨hsize.zero_notMem, hextension.zero_notMem⟩, by decide⟩,
      zero_notMem_endedLines htrailers⟩, by decide⟩
  | chunk hsize _ hextension _ ih =>
    simp only [List.mem_append, not_or] at hcontent ⊢
    exact ⟨⟨⟨⟨⟨hsize.zero_notMem, hextension.zero_notMem⟩, by decide⟩, hcontent.1⟩, by decide⟩,
      ih hcontent.2⟩

theorem Carries.zero_notMem {closed : Prop} {headers : List Bytes} {body content : Bytes}
    (h : Carries closed headers body content) (hcontent : (0 : UInt8) ∉ content) :
    (0 : UInt8) ∉ body := by
  cases h with
  | sized _ _ => exact hcontent
  | chunked _ h => exact h.zero_notMem hcontent
  | untilClose _ _ _ => exact hcontent

/-! ## What a reader makes of a response -/

/-- The number that digits denote. -/
def numeralValue (base : Nat) (text : Bytes) : Nat :=
  text.foldl (fun n c => base * n + (hexDigit c).getD 0) 0

theorem Numeral.value_eq {base n : Nat} {text : Bytes} (h : Numeral base text n) :
    numeralValue base text = n := by
  induction h with
  | digit hd hbase => simp only [numeralValue, List.foldl_cons, List.foldl_nil, hd, Option.getD_some,
      Nat.mul_zero, Nat.zero_add]
  | more h hd hbase ih =>
    rw [numeralValue] at ih ⊢
    rw [List.foldl_append, ih, List.foldl_cons, List.foldl_nil, hd, Option.getD_some]

theorem Numeral.ne_nil {base n : Nat} {text : Bytes} (h : Numeral base text n) : text ≠ [] := by
  cases h with
  | digit _ _ => exact List.cons_ne_nil _ _
  | more _ _ _ => exact List.append_ne_nil_of_right_ne_nil _ (List.cons_ne_nil _ _)

theorem decimal_succ {n : Nat} (h : 10 ≤ n) : decimal n = decimal (n / 10) ++ [digitByte (n % 10)] := by
  have hn : n ≠ 0 := by omega
  have hdiv : n / 10 ≠ 0 := by omega
  rw [decimal, decimal, if_neg hn, if_neg hdiv, Nat.digits_def' (by omega) (Nat.pos_of_ne_zero hn),
    List.map_cons, List.reverse_cons]

theorem numeral_decimal (n : Nat) : Numeral 10 (decimal n) n := by
  have hdigit : ∀ d < 10, hexDigit (digitByte d) = some d := by decide
  induction n using Nat.strongRecOn with
  | ind n ih =>
    by_cases hn : n < 10
    · have hsingle : decimal n = [digitByte n] := by
        have hall : ∀ d < 10, decimal d = [digitByte d] := by decide
        exact hall n hn
      rw [hsingle]
      exact .digit (hdigit n hn) hn
    · have hmore := Numeral.more (ih (n / 10) (by omega)) (hdigit (n % 10) (Nat.mod_lt n (by omega)))
        (Nat.mod_lt n (by omega))
      rw [decimal_succ (by omega)]
      rwa [Nat.div_add_mod] at hmore

/-- A field name has no colon, so a line has only the field before its first one. -/
theorem Field.name_eq {name value line : Bytes} (h : Field name value line)
    (hname : (58 : UInt8) ∉ name) : (cutAt line 58).map lower = name := by
  obtain ⟨written, before, after, rfl, -, -, -, rfl⟩ := h
  have hcolon : (58 : UInt8) ∉ written := fun hmem => hname (List.mem_map.mpr ⟨58, hmem, by decide⟩)
  have hline : written ++ ascii ":" ++ before ++ value ++ after =
      written ++ 58 :: (before ++ value ++ after) := by
    have hmark : ascii ":" = [58] := by decide
    rw [hmark]
    simp only [List.append_assoc, List.cons_append, List.nil_append]
  rw [hline, cutAt_append hcolon]

theorem dropBlanks_eq (blanks text : Bytes) (hblanks : ∀ c ∈ blanks, IsBlank c)
    (htext : ∀ c ∈ text.head?, ¬ IsBlank c) :
    (blanks ++ text).dropWhile (fun c => decide (IsBlank c)) = text := by
  induction blanks with
  | nil =>
    cases text with
    | nil => rfl
    | cons c cs =>
      have hc : ¬ IsBlank c := htext c rfl
      rw [List.nil_append, List.dropWhile_cons_of_neg (by rw [decide_eq_true_eq]; exact hc)]
  | cons c cs ih =>
    have hc : IsBlank c := hblanks c List.mem_cons_self
    rw [List.cons_append, List.dropWhile_cons_of_pos (by rw [decide_eq_true_eq]; exact hc)]
    exact ih fun d hd => hblanks d (List.mem_cons_of_mem c hd)

/-- The blanks around a value are known from it. -/
theorem value_unique {before value after value' : Bytes} (hblanks : ∀ c ∈ before ++ after, IsBlank c)
    (hhead : ∀ c ∈ value.head?, ¬ IsBlank c) (hlast : ∀ c ∈ value.getLast?, ¬ IsBlank c)
    (hhead' : ∀ c ∈ value'.head?, ¬ IsBlank c) (hlast' : ∀ c ∈ value'.getLast?, ¬ IsBlank c)
    (hne : value' ≠ []) (h : before ++ (value ++ after) = value') : value = value' := by
  cases value with
  | nil =>
    obtain ⟨c, cs, rfl⟩ := List.exists_cons_of_ne_nil hne
    have hc : c ∈ before ++ after := by
      rw [List.nil_append] at h
      rw [h]
      exact List.mem_cons_self
    exact absurd (hblanks c hc) (hhead' c rfl)
  | cons x xs =>
    have hfront : x :: xs ++ after = value' := by
      have hdrop := dropBlanks_eq before (x :: xs ++ after)
        (fun c hc => hblanks c (List.mem_append_left _ hc)) hhead
      rw [h] at hdrop
      have hself := dropBlanks_eq [] value' (fun c hc => by cases hc) hhead'
      rw [List.nil_append] at hself
      exact hdrop.symm.trans hself
    have hback : after.reverse ++ (x :: xs).reverse = value'.reverse := by
      rw [← List.reverse_append, hfront]
    have hdrop := dropBlanks_eq after.reverse (x :: xs).reverse
      (fun c hc => hblanks c (List.mem_append_right _ (List.mem_reverse.mp hc)))
      (by rw [List.head?_reverse]; exact hlast)
    have hself := dropBlanks_eq [] value'.reverse (fun c hc => by cases hc)
      (by rw [List.head?_reverse]; exact hlast')
    rw [hback] at hdrop
    rw [List.nil_append] at hself
    exact List.reverse_injective (hdrop.symm.trans hself)

/-- A header line `Name: value`. -/
def fieldLine (name value : Bytes) : Bytes := name ++ ascii ": " ++ value

theorem field_fieldLine {name value : Bytes} (hhead : ∀ c ∈ value.head?, ¬ IsBlank c)
    (hlast : ∀ c ∈ value.getLast?, ¬ IsBlank c) :
    Field (name.map lower) value (fieldLine name value) := by
  have hmark : ascii ": " = [58, 32] := by decide
  have hcolon : ascii ":" = [58] := by decide
  refine ⟨name, [32], [], rfl, ?_, hhead, hlast, ?_⟩
  · intro c hc
    rw [List.append_nil, List.mem_singleton] at hc
    rw [hc]
    decide
  · rw [fieldLine, hmark, hcolon]
    simp only [List.append_assoc, List.cons_append, List.nil_append, List.append_nil]

/-- The name and the value of such a line. -/
theorem fieldLine_unique {name value name' value' : Bytes} (hname : (58 : UInt8) ∉ name)
    (hname' : (58 : UInt8) ∉ name') (hne : value ≠ []) (hhead : ∀ c ∈ value.head?, ¬ IsBlank c)
    (hlast : ∀ c ∈ value.getLast?, ¬ IsBlank c) (h : Field name' value' (fieldLine name value)) :
    name.map lower = name' ∧ value' = value := by
  have hmark : ascii ": " = [58, 32] := by decide
  have hcolon : ascii ":" = [58] := by decide
  have hline : fieldLine name value = name ++ 58 :: 32 :: value := by
    rw [fieldLine, hmark]
    simp only [List.append_assoc, List.cons_append, List.nil_append]
  have hsame := h.name_eq hname'
  rw [hline, cutAt_append hname] at hsame
  refine ⟨hsame, ?_⟩
  obtain ⟨written, before, after, hwritten, hblanks, hhead', hlast', heq⟩ := h
  have hwritten' : (58 : UInt8) ∉ written := fun hmem =>
    hname' (hwritten ▸ List.mem_map.mpr ⟨58, hmem, by decide⟩)
  rw [hline, hcolon] at heq
  simp only [List.append_assoc, List.cons_append, List.nil_append] at heq
  have hcut := congrArg (cutAt · 58) heq
  simp only [cutAt_append hname, cutAt_append hwritten'] at hcut
  rw [hcut] at heq
  have hrest := (List.cons.inj (List.append_cancel_left heq)).2
  -- the blank behind the colon is one of the blanks around the value
  have hvalue : before ++ (value' ++ after) = 32 :: value := hrest.symm
  cases before with
  | nil =>
    cases value' with
    | nil =>
      rw [List.nil_append, List.nil_append] at hvalue
      obtain ⟨c, cs, rfl⟩ := List.exists_cons_of_ne_nil hne
      have hc : c ∈ after := by
        rw [hvalue]
        exact List.mem_cons_of_mem _ List.mem_cons_self
      exact absurd (hblanks c hc) (hhead c rfl)
    | cons x xs =>
      have hx : x = 32 := (List.cons.inj hvalue).1
      exact absurd (by rw [hx]; decide) (hhead' x rfl)
  | cons b before =>
    have hvalue' := (List.cons.inj hvalue).2
    exact value_unique (fun c hc => hblanks c (List.mem_cons_of_mem _ hc)) hhead' hlast' hhead hlast hne
      hvalue'

/-- The headers announce a length, and no coding. -/
structure Sized (headers : List Bytes) (n : Nat) : Prop where
  uncoded : ¬ HasField (ascii "transfer-encoding") headers
  length : AllFields (ascii "content-length") (fun v => v = decimal n) headers

/-- Behind such headers a reader accepts the announced number of bytes, and takes them as they are. -/
theorem Sized.carries_iff {headers : List Bytes} {n : Nat} (h : Sized headers n) {closed : Prop}
    {received content : Bytes} :
    Carries closed headers received content ↔ received.length = n ∧ content = received := by
  constructor
  · intro hcarries
    cases hcarries with
    | sized hcoding hlength =>
      obtain ⟨⟨line, hline, value, hfield⟩, hall⟩ := h.length
      have hvalue := hall line hline value hfield
      have hnumeral := hlength.2 line hline value hfield
      rw [hvalue] at hnumeral
      exact ⟨hnumeral.value_eq.symm.trans (numeral_decimal n).value_eq, rfl⟩
    | chunked hcoding hchunked => exact absurd hcoding.1 h.uncoded
    | untilClose hclosed hcoding hlength => exact absurd h.length.1 hlength
  · rintro ⟨rfl, rfl⟩
    refine .sized h.uncoded ⟨h.length.1, fun line hline value hfield => ?_⟩
    rw [h.length.2 line hline value hfield]
    exact numeral_decimal _

end IotMonitoring.HttpMessages
