import Mathlib.Data.List.Chain
import IotMonitoring.Shared.DecimalTexts
import IotMonitoring.Shared.PageBuffers

/-!
# Reading markup

A page is read in two passes, each a machine that goes through its input once.
The first takes the bytes apart into text and tags: a `<` begins a tag only in
front of a letter, `/`, `!` or `?`, and an `&` a character reference only in
front of a letter, a digit or `#`. The second goes through text and tags and
collects the cells of table rows. `Cell` is a piece of a page that reads as the
contents of one cell; `tableRow` puts cells together. Pages are read as bytes: in
UTF-8 a byte below 128 is always a character of its own, so decoding a page
changes none of its tags and decodes its texts.
-/

namespace IotMonitoring.Markup

open ByteStrings Binary64
set_option autoImplicit false

universe u v w

/-! ## Machines -/

section Machines
variable {σ : Type u} {α : Type v} {β : Type w} (step : σ → α → σ × List β)

/-- The state after an input and what was put out on the way. -/
def transduce : σ → List α → σ × List β
  | s, [] => (s, [])
  | s, a :: input =>
    let next := step s a
    let rest := transduce next.1 input
    (rest.1, next.2 ++ rest.2)

theorem transduce_cons (s : σ) (a : α) (input : List α) :
    transduce step s (a :: input) =
      ((transduce step (step s a).1 input).1, (step s a).2 ++ (transduce step (step s a).1 input).2) :=
  rfl

theorem transduce_append (s : σ) (a b : List α) :
    transduce step s (a ++ b) =
      ((transduce step (transduce step s a).1 b).1,
        (transduce step s a).2 ++ (transduce step (transduce step s a).1 b).2) := by
  induction a generalizing s with
  | nil => rfl
  | cons c a ih =>
    rw [List.cons_append, transduce_cons, ih, transduce_cons]
    simp only [List.append_assoc]

variable {step}

theorem transduce_append_of {s t : σ} {a b : List α} {out : List β}
    (h : transduce step s a = (t, out)) :
    transduce step s (a ++ b) = ((transduce step t b).1, out ++ (transduce step t b).2) := by
  rw [transduce_append, h]

end Machines

/-! ## Text and tags -/

/-- What a reader sees of a text: a byte that stands for itself, or a character reference. -/
inductive Glyph where
  | char (c : UInt8)
  | reference (name : Bytes)
deriving DecidableEq

inductive Item where
  | glyph (g : Glyph)
  | tag (text : Bytes)
deriving DecidableEq

def Item.glyph? : Item → Option Glyph
  | glyph g => some g
  | tag _ => none

def Item.tag? : Item → Option Bytes
  | glyph _ => none
  | tag text => some text

inductive Place where
  | data
  | lessThan
  | ampersand
  | reference (name : Bytes)
  /-- Inside a tag, possibly inside quotes. -/
  | tag (text : Bytes) (quote : Option UInt8)
deriving DecidableEq

/-- Text that stands for itself. -/
def plainText (t : Bytes) : List Glyph := t.map .char

def opensTag (c : UInt8) : Bool := isLetter c || c == 47 || c == 33 || c == 63

def opensReference (c : UInt8) : Bool := isLetter c || isDigit c || c == 35

/-- A byte outside tags and references. -/
def readData (c : UInt8) : Place × List Item :=
  if c = 60 then (.lessThan, [])
  else if c = 38 then (.ampersand, [])
  else (.data, [.glyph (.char c)])

/-- Bytes that turned out to be text, and then a byte outside. -/
def readAfter (t : Bytes) (c : UInt8) : Place × List Item :=
  ((readData c).1, (plainText t).map .glyph ++ (readData c).2)

def readByte : Place → UInt8 → Place × List Item
  | .data, c => readData c
  | .lessThan, c => if opensTag c then (.tag [c] none, []) else readAfter [60] c
  | .ampersand, c => if opensReference c then (.reference [c], []) else readAfter [38] c
  | .reference name, c =>
    if c = 59 then (.data, [.glyph (.reference name)])
    else if opensReference c then (.reference (name ++ [c]), [])
    else readAfter (38 :: name) c
  | .tag text (some quote), c =>
    if c = quote then (.tag (text ++ [c]) none, []) else (.tag (text ++ [c]) (some quote), [])
  | .tag text none, c =>
    if c = 62 then (.data, [.tag text])
    else if c = 34 ∨ c = 39 then (.tag (text ++ [c]) (some c), [])
    else (.tag (text ++ [c]) none, [])

/-- What is pending at the end is text, except for an unfinished tag. -/
def pending : Place → List Item
  | .data => []
  | .lessThan => [.glyph (.char 60)]
  | .ampersand => [.glyph (.char 38)]
  | .reference name => (plainText (38 :: name)).map .glyph
  | .tag _ _ => []

def lex (p : Place) (text : Bytes) : Place × List Item := transduce readByte p text

def items (text : Bytes) : List Item := (lex .data text).2 ++ pending (lex .data text).1

/-- The tags of a page, in order. -/
def markup (text : Bytes) : List Bytes := (items text).filterMap Item.tag?

/-- No byte of the text, with the one after it, begins a tag or could begin a reference. An `&` in
front of a letter is left out whether or not a reference follows. -/
def Plain (t : Bytes) : Prop :=
  t.IsChain fun c d => ¬ (c = 60 ∧ opensTag d = true) ∧ ¬ (c = 38 ∧ opensReference d = true)

instance decidablePlain (t : Bytes) : Decidable (Plain t) :=
  inferInstanceAs (Decidable (List.IsChain _ t))

/-- Bytes that begin nothing may stand in front of a plain text. -/
theorem plain_append {a b : Bytes} (ha : ∀ c ∈ a, c ≠ 60 ∧ c ≠ 38) (hb : Plain b) :
    Plain (a ++ b) := by
  induction a with
  | nil => exact hb
  | cons c a ih =>
    apply List.isChain_cons.mpr
    have hc := ha c List.mem_cons_self
    refine ⟨fun d _ => ⟨?_, ?_⟩, ih fun d hd => ha d (List.mem_cons_of_mem c hd)⟩
    · exact fun h => hc.1 h.1
    · exact fun h => hc.2 h.1

theorem plain_of_ne {t : Bytes} (h : ∀ c ∈ t, c ≠ 60 ∧ c ≠ 38) : Plain t := by
  have hplain := plain_append h List.isChain_nil
  rw [List.append_nil] at hplain
  exact hplain

theorem Plain.of_start {s t : Bytes} (h : Plain t) (hstart : s <+: t) : Plain s :=
  List.IsChain.prefix h hstart

/-- A byte that begins nothing with the one after it. -/
theorem lex_char {c d : UInt8} (s : Bytes)
    (h : ¬ (c = 60 ∧ opensTag d = true) ∧ ¬ (c = 38 ∧ opensReference d = true)) :
    lex .data (c :: d :: s) =
      ((lex .data (d :: s)).1, .glyph (.char c) :: (lex .data (d :: s)).2) := by
  simp only [lex, transduce_cons, readByte]
  by_cases hless : c = 60
  · have hclosed : opensTag d = false := Bool.eq_false_of_not_eq_true fun ho => h.1 ⟨hless, ho⟩
    subst hless
    simp only [readData, hclosed, if_true, Bool.false_eq_true, if_false, readAfter]
    rfl
  · by_cases hand : c = 38
    · have hclosed : opensReference d = false :=
        Bool.eq_false_of_not_eq_true fun ho => h.2 ⟨hand, ho⟩
      have hne : (38 : UInt8) ≠ 60 := by decide
      subst hand
      simp only [readData, hclosed, if_neg hne, if_true, Bool.false_eq_true, if_false,
        readAfter]
      rfl
    · have hdata : readData c = (.data, [.glyph (.char c)]) := by
        rw [readData, if_neg hless, if_neg hand]
      rw [hdata]
      rfl

/-- A plain text in front of a `<` reads as itself. -/
theorem lex_plain {t : Bytes} (h : Plain t) :
    lex .data (t ++ [60]) = (.lessThan, (plainText t).map .glyph) := by
  have hopen : opensTag 60 = false ∧ opensReference 60 = false := by decide
  induction t with
  | nil => rfl
  | cons c t ih =>
    obtain ⟨hnext, hrest⟩ := List.isChain_cons.mp h
    cases t with
    | nil =>
      rw [List.cons_append, List.nil_append, lex_char]
      · rfl
      · rw [hopen.1, hopen.2]
        exact ⟨fun ho => Bool.false_ne_true ho.2, fun ho => Bool.false_ne_true ho.2⟩
    | cons d t =>
      have hread := ih hrest
      rw [List.cons_append] at hread
      rw [List.cons_append, List.cons_append, lex_char _ (hnext d rfl), hread]
      rfl

/-! ## Pages in pieces -/

/-- After this text the reader is outside tags and references again. -/
def Whole (text : Bytes) : Prop := (lex .data text).1 = .data

instance decidableWhole (text : Bytes) : Decidable (Whole text) :=
  inferInstanceAs (Decidable (_ = _))

theorem Whole.append {a b : Bytes} (ha : Whole a) (hb : Whole b) : Whole (a ++ b) := by
  rw [Whole, lex, transduce_append]
  unfold Whole lex at ha hb
  rw [ha, hb]

theorem Whole.items_append {a : Bytes} (ha : Whole a) (b : Bytes) :
    items (a ++ b) = items a ++ items b := by
  unfold Whole lex at ha
  simp only [items, lex, transduce_append, ha, pending, List.append_nil, List.append_assoc]

theorem Whole.markup_append {a : Bytes} (ha : Whole a) (b : Bytes) :
    markup (a ++ b) = markup a ++ markup b := by
  rw [markup, ha.items_append, List.filterMap_append]
  rfl

theorem items_plain {t : Bytes} (h : Plain t) (rest : Bytes) :
    items (t ++ 60 :: rest) = (plainText t).map .glyph ++ items (60 :: rest) := by
  have hopen : lex .data [60] = (.lessThan, []) := rfl
  have hread := lex_plain h
  have hsplit : t ++ 60 :: rest = (t ++ [60]) ++ rest := by
    rw [List.append_assoc, List.singleton_append]
  have hrest : (60 : UInt8) :: rest = [60] ++ rest := rfl
  unfold lex at hopen hread
  simp only [items, lex]
  rw [hsplit, hrest, transduce_append_of hread, transduce_append_of hopen, List.nil_append,
    List.append_assoc]

/-! ## Table rows -/

/-- The name of a tag, in small letters; an end tag keeps its slash. -/
def tagName (text : Bytes) : Bytes := (cutAt text 32).map lower

/-- The cells read of the row that is open, and the text of the cell that is open. -/
inductive InTable where
  | outside
  | row (cells : List (List Glyph))
  | cell (cells : List (List Glyph)) (text : List Glyph)
deriving DecidableEq

namespace InTable

def cells : InTable → List (List Glyph)
  | outside => []
  | row cells => cells
  | cell cells text => cells ++ [text]

/-- The row that ends here; one without data cells, a row of headings, is passed over. -/
def ended (st : InTable) : List (List (List Glyph)) := if st.cells = [] then [] else [st.cells]

end InTable

def tableTags : List Bytes := [ascii "tr", ascii "/tr", ascii "/table", ascii "td", ascii "/td"]

def readTag (st : InTable) (name : Bytes) : InTable × List (List (List Glyph)) :=
  if name = ascii "tr" then (.row [], st.ended)
  else if name = ascii "/tr" ∨ name = ascii "/table" then (.outside, st.ended)
  else if st = .outside then (st, [])
  else if name = ascii "td" then (.cell st.cells [], [])
  else if name = ascii "/td" then (.row st.cells, [])
  else (st, [])

def readItem : InTable → Item → InTable × List (List (List Glyph))
  | .cell cells text, .glyph g => (.cell cells (text ++ [g]), [])
  | st, .glyph _ => (st, [])
  | st, .tag text => readTag st (tagName text)

/-- The rows of data cells in the tables of a page. -/
def readTable (page : Bytes) : List (List (List Glyph)) :=
  let r := transduce readItem .outside (items page)
  r.2 ++ r.1.ended

/-- This text takes the table reader from one state to the other and ends these rows. -/
structure Reads (st : InTable) (text : Bytes) (st' : InTable) (rows : List (List (List Glyph))) :
    Prop where
  whole : Whole text
  read : transduce readItem st (lex .data text).2 = (st', rows)

instance decidableReads (st : InTable) (text : Bytes) (st' : InTable)
    (rows : List (List (List Glyph))) : Decidable (Reads st text st' rows) :=
  decidable_of_iff (Whole text ∧ transduce readItem st (lex .data text).2 = (st', rows))
    ⟨fun h => ⟨h.1, h.2⟩, fun h => ⟨h.whole, h.read⟩⟩

section Pieces
variable {st st' st'' : InTable} {a b : Bytes} {rows more : List (List (List Glyph))}

theorem reads_nil (st : InTable) : Reads st [] st [] := ⟨rfl, rfl⟩

theorem Reads.append (ha : Reads st a st' rows) (hb : Reads st' b st'' more) :
    Reads st (a ++ b) st'' (rows ++ more) := by
  refine ⟨ha.whole.append hb.whole, ?_⟩
  have hwhole := ha.whole
  have hread := ha.read
  have hnext := hb.read
  unfold Whole lex at hwhole
  unfold lex at hread hnext ⊢
  rw [transduce_append, hwhole, transduce_append, hread, hnext]

theorem Reads.skip (ha : Reads st a st' []) (hb : Reads st' b st'' []) : Reads st (a ++ b) st'' [] :=
  ha.append hb

theorem Reads.readTable (h : Reads .outside a .outside rows) : readTable a = rows := by
  have hitems : items a = (lex .data a).2 := by
    rw [items, h.whole]
    exact List.append_nil _
  rw [Markup.readTable, hitems, h.read]
  exact List.append_nil _

/-- The tables of a page are those of its middle part, where head and tail have none. -/
theorem readTable_page {head tail : Bytes} (hhead : Reads .outside head .outside [])
    (ha : Reads .outside a .outside rows) (htail : Reads .outside tail .outside []) :
    readTable (head ++ a ++ tail) = rows := by
  have hpage := (hhead.append ha).append htail
  rw [List.nil_append, List.append_nil] at hpage
  exact hpage.readTable

theorem markup_page {head : Bytes} (hhead : Whole head) (ha : Whole a) (tail : Bytes) :
    markup (head ++ a ++ tail) = markup head ++ markup a ++ markup tail := by
  rw [(hhead.append ha).markup_append, hhead.markup_append]

theorem reads_literal_nil (st : InTable) : Reads st (literal []) st [] := reads_nil st

theorem reads_literal_cons {cs : List Char} {parts : List String} (st' : InTable)
    (h : Reads st' (literal parts) st'' [])
    (hcs : Reads st (cs.map fun c => c.toNat.toUInt8) st' []) :
    Reads st (literal (String.ofList cs :: parts)) st'' [] := by
  rw [literal_cons]
  exact hcs.skip h

/-- Text between the tables is passed over. -/
theorem reads_text {t : Bytes} (h : ∀ c ∈ t, c ≠ 60 ∧ c ≠ 38) : Reads .outside t .outside [] := by
  induction t with
  | nil => exact reads_nil _
  | cons c t ih =>
    have hc := h c List.mem_cons_self
    have hbyte : lex .data [c] = (.data, [.glyph (.char c)]) := by
      simp only [lex, transduce, readByte, readData, if_neg hc.1, if_neg hc.2, List.append_nil]
    have hfirst : Reads .outside [c] .outside [] := by
      refine ⟨by rw [Whole, hbyte], ?_⟩
      rw [hbyte]
      rfl
    exact hfirst.append (ih fun d hd => h d (List.mem_cons_of_mem c hd))

/-- A part without tags and references. -/
theorem reads_literal_text {cs : List Char} {parts : List String}
    (h : Reads .outside (literal parts) st'' [])
    (hcs : ((cs.map fun c => c.toNat.toUInt8).all fun c => c != 60 && c != 38) = true) :
    Reads .outside (literal (String.ofList cs :: parts)) st'' [] := by
  refine reads_literal_cons .outside h (reads_text ?_)
  intro c hc
  have hkeep := List.all_eq_true.mp hcs c hc
  rw [Bool.and_eq_true, bne_iff_ne, bne_iff_ne] at hkeep
  exact hkeep

/-- A row for each entry. -/
theorem reads_flatMap {α : Type u} {entries : List α} {row : α → Bytes}
    {cells : α → List (List Glyph)}
    (h : ∀ entry ∈ entries, Reads .outside (row entry) .outside [cells entry]) :
    Reads .outside (entries.flatMap row) .outside (entries.map cells) := by
  induction entries with
  | nil => exact reads_nil _
  | cons entry entries ih =>
    rw [List.flatMap_cons, List.map_cons]
    have hrest := ih fun next hnext => h next (List.mem_cons_of_mem entry hnext)
    exact (h entry List.mem_cons_self).append hrest

theorem markup_flatMap {α : Type u} {entries : List α} {row : α → Bytes}
    (h : ∀ entry ∈ entries, Whole (row entry)) :
    markup (entries.flatMap row) = entries.flatMap fun entry => markup (row entry) := by
  induction entries with
  | nil => rfl
  | cons entry entries ih =>
    rw [List.flatMap_cons, List.flatMap_cons, (h entry List.mem_cons_self).markup_append,
      ih fun next hnext => h next (List.mem_cons_of_mem entry hnext)]

end Pieces

/-! ## Cells -/

/-- A piece of a page that reads as the contents of one cell. -/
structure Cell where
  source : Bytes
  items : List Item
  lexed : lex .data (source ++ [60]) = (.lessThan, items)
  inline : ∀ tag ∈ items.filterMap Item.tag?, tagName tag ∉ tableTags

namespace Cell

def text (c : Cell) : List Glyph := c.items.filterMap Item.glyph?
def tags (c : Cell) : List Bytes := c.items.filterMap Item.tag?

theorem glyphs_plain (t : Bytes) :
    ((plainText t).map Item.glyph).filterMap Item.glyph? = plainText t := by
  rw [List.filterMap_map]
  exact List.filterMap_some

theorem tags_plain (t : Bytes) : ((plainText t).map Item.glyph).filterMap Item.tag? = [] := by
  rw [List.filterMap_map]
  exact List.filterMap_none _

def plain (t : Bytes) (h : Plain t) : Cell where
  source := t
  items := (plainText t).map .glyph
  lexed := lex_plain h
  inline := by
    rw [tags_plain]
    exact fun _ hmem => absurd hmem List.not_mem_nil

@[simp] theorem text_of_plain {t : Bytes} (h : Plain t) : (plain t h).text = plainText t :=
  glyphs_plain t

@[simp] theorem tags_of_plain {t : Bytes} (h : Plain t) : (plain t h).tags = [] := tags_plain t

end Cell

/-- Plain text adds nothing to the tags around it. -/
theorem markup_around {text t : Bytes} {before after : List Item}
    (h : items text = before ++ (plainText t).map .glyph ++ after) :
    markup text = before.filterMap Item.tag? ++ after.filterMap Item.tag? := by
  rw [markup, h, List.filterMap_append, List.filterMap_append, Cell.tags_plain, List.append_nil]

def cellTags (c : Bytes) : Bytes := ascii "<td>" ++ c ++ ascii "</td>"

/-- A row as the pages write it. -/
def tableRow (cells : List Bytes) : Bytes :=
  ascii "<tr>" ++ cells.flatMap cellTags ++ ascii "</tr>"

theorem readTag_inline {name : Bytes} (h : name ∉ tableTags) (st : InTable) :
    readTag st name = (st, []) := by
  simp only [tableTags, List.mem_cons, List.not_mem_nil, or_false, not_or] at h
  obtain ⟨htr, hendRow, hendTable, htd, hendCell⟩ := h
  simp only [readTag, htr, hendRow, hendTable, htd, hendCell, or_self, if_false, ite_self]

/-- Text and tags that are no table tags stay inside the cell. -/
theorem transduce_inline {its : List Item}
    (h : ∀ tag ∈ its.filterMap Item.tag?, tagName tag ∉ tableTags) (cells : List (List Glyph))
    (text : List Glyph) : transduce readItem (.cell cells text) its =
      (.cell cells (text ++ its.filterMap Item.glyph?), []) := by
  induction its generalizing text with
  | nil => rw [List.filterMap_nil, List.append_nil, transduce]
  | cons it its ih =>
    cases it with
    | glyph g =>
      have hrest := ih h (text ++ [g])
      rw [transduce_cons, readItem, hrest, List.append_assoc]
      rfl
    | tag name =>
      have hrest := ih (fun next hnext => h next (List.mem_cons_of_mem name hnext)) text
      have hname : readItem (.cell cells text) (.tag name) = (.cell cells text, []) :=
        readTag_inline (h name List.mem_cons_self) _
      rw [transduce_cons, hname, hrest]
      rfl

theorem lex_cell (c : Cell) : lex .data (cellTags c.source) =
    (.data, .tag (ascii "td") :: (c.items ++ [.tag (ascii "/td")])) := by
  have hopen : lex .data (ascii "<td>") = (.data, [.tag (ascii "td")]) := by decide
  have hclose : lex .lessThan (ascii "/td>") = (.data, [.tag (ascii "/td")]) := by decide
  have hsource := c.lexed
  have hsplit : cellTags c.source = ascii "<td>" ++ ((c.source ++ [60]) ++ ascii "/td>") := by
    have hend : ascii "</td>" = [60] ++ ascii "/td>" := by decide
    simp only [cellTags, hend, List.append_assoc]
  unfold lex at hopen hclose hsource ⊢
  rw [hsplit, transduce_append_of hopen, transduce_append_of hsource, hclose]
  rfl

theorem reads_cell (c : Cell) (cells : List (List Glyph)) :
    Reads (.row cells) (cellTags c.source) (.row (cells ++ [c.text])) [] := by
  refine ⟨by rw [Whole, lex_cell], ?_⟩
  have hopen : readItem (.row cells) (.tag (ascii "td")) = (.cell cells [], []) := by
    have hname : tagName (ascii "td") = ascii "td" := by decide
    simp only [readItem, hname, readTag]
    rfl
  have hclose : transduce readItem (.cell cells c.text) [.tag (ascii "/td")] =
      (.row (cells ++ [c.text]), []) := by
    have hname : tagName (ascii "/td") = ascii "/td" := by decide
    simp only [transduce, readItem, hname, readTag]
    rfl
  rw [lex_cell, transduce_cons, hopen, transduce_append_of (transduce_inline c.inline cells [])]
  rw [List.nil_append]
  exact congrArg (fun r => (r.1, [] ++ ([] ++ r.2))) hclose

theorem reads_cells (cs : List Cell) (done : List (List Glyph)) :
    Reads (.row done) ((cs.map Cell.source).flatMap cellTags) (.row (done ++ cs.map Cell.text))
      [] := by
  induction cs generalizing done with
  | nil =>
    rw [List.map_nil, List.map_nil, List.append_nil]
    exact reads_nil _
  | cons c cs ih =>
    have hrest := ih (done ++ [c.text])
    rw [List.append_assoc, List.singleton_append] at hrest
    exact (reads_cell c done).append hrest

/-- A row reads back as the texts of its cells. -/
theorem reads_tableRow {cs : List Cell} (hcs : cs ≠ []) :
    Reads .outside (tableRow (cs.map Cell.source)) .outside [cs.map Cell.text] := by
  have hopen : Reads .outside (ascii "<tr>") (.row []) [] := by decide
  have hclose : Reads (.row (cs.map Cell.text)) (ascii "</tr>") .outside [cs.map Cell.text] := by
    refine ⟨rfl, ?_⟩
    have hne : cs.map Cell.text ≠ [] := fun h => hcs (List.map_eq_nil_iff.mp h)
    have hended : (InTable.row (cs.map Cell.text)).ended = [cs.map Cell.text] := if_neg hne
    have hlex : (lex .data (ascii "</tr>")).2 = [.tag (ascii "/tr")] := by decide
    have hname : tagName (ascii "/tr") = ascii "/tr" := by decide
    rw [hlex]
    simp only [transduce, readItem, hname, readTag, hended]
    rfl
  exact (hopen.append (reads_cells cs [])).append hclose

theorem markup_cell (c : Cell) :
    markup (cellTags c.source) = ascii "td" :: (c.tags ++ [ascii "/td"]) := by
  rw [markup, items, lex_cell, pending, List.append_nil, List.filterMap_cons]
  simp only [Item.tag?, List.filterMap_append, List.filterMap_cons, List.filterMap_nil]
  rfl

/-- The tags of a row depend on those inside its cells only. -/
theorem markup_tableRow (cs : List Cell) : markup (tableRow (cs.map Cell.source)) =
    ascii "tr" :: ((cs.map Cell.tags).flatMap fun tags => ascii "td" :: (tags ++ [ascii "/td"])) ++
      [ascii "/tr"] := by
  have hopen : Whole (ascii "<tr>") := by decide
  have hends : markup (ascii "<tr>") = [ascii "tr"] ∧ markup (ascii "</tr>") = [ascii "/tr"] := by
    decide
  have hcells : ∀ c ∈ cs, Whole (cellTags c.source) := fun c _ => (reads_cell c []).whole
  rw [tableRow, (hopen.append (reads_cells cs []).whole).markup_append, hopen.markup_append,
    hends.1, hends.2, List.flatMap_map, List.flatMap_map, markup_flatMap hcells]
  simp only [markup_cell]
  rfl

end IotMonitoring.Markup
