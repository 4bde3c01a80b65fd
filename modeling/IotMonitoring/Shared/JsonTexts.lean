import IotMonitoring.Shared.Binary64
import IotMonitoring.Shared.UnicodeTexts

/-!
# JSON texts

The grammar of JSON over UTF-8 bytes: which texts spell which values. A string
is the list of the code units its characters and escapes stand for.
-/

namespace IotMonitoring.JsonTexts

open ByteStrings Binary64 UnicodeTexts
set_option autoImplicit false

inductive Value where
  | null
  | bool (b : Bool)
  | number (text : Bytes)
  | string (units : List Nat)
  | array (items : List Value)
  | object (members : List (List Nat × Value))

def quotation : UInt8 := 34
def backslash : UInt8 := 92

/-! ## Words -/

def Blanks (text : Bytes) : Prop := ∀ c ∈ text, c ∈ [(32 : UInt8), 9, 10, 13]

instance (text : Bytes) : Decidable (Blanks text) :=
  inferInstanceAs (Decidable (∀ c ∈ text, c ∈ [(32 : UInt8), 9, 10, 13]))

structure Digits (text : Bytes) : Prop where
  nonempty : text ≠ []
  decimal : ∀ c ∈ text, isDigit c = true

/-- An integer part without leading zeros, and an optional sign, fraction and exponent. -/
inductive Number : Bytes → Prop where
  | mk {sign whole fraction exponent : Bytes} (hsign : sign ∈ [[], ascii "-"])
      (hwhole : Digits whole) (hzero : whole = ascii "0" ∨ whole.head? ≠ some 48)
      (hfraction : fraction = [] ∨ ∃ ds, Digits ds ∧ fraction = ascii "." ++ ds)
      (hexponent : exponent = [] ∨ ∃ mark ∈ [ascii "e", ascii "E"],
        ∃ sign ∈ [[], ascii "-", ascii "+"], ∃ ds, Digits ds ∧ exponent = mark ++ sign ++ ds) :
      Number (sign ++ whole ++ fraction ++ exponent)

/-- The letter of an escape and the code unit it stands for. -/
def escapes : List (UInt8 × Nat) :=
  [(quotation, 34), (backslash, 92), (47, 47), (98, 8), (102, 12), (110, 10), (114, 13), (116, 9)]

/-- The text between the quotation marks of a string. -/
inductive Chars : List Nat → Bytes → Prop where
  | nil : Chars [] []
  | char {c : Char} {units : List Nat} {text : Bytes} (hprint : 32 ≤ c.toNat) (hquote : c ≠ '"')
      (hslash : c ≠ '\\') (h : Chars units text) :
      Chars (c.toNat :: units) (String.utf8EncodeChar c ++ text)
  | escape {c : UInt8} {unit : Nat} {units : List Nat} {text : Bytes} (hc : (c, unit) ∈ escapes)
      (h : Chars units text) : Chars (unit :: units) (backslash :: c :: text)
  | unicode {c₃ c₂ c₁ c₀ : UInt8} {d₃ d₂ d₁ d₀ : Nat} {units : List Nat} {text : Bytes}
      (h₃ : hexDigit c₃ = some d₃) (h₂ : hexDigit c₂ = some d₂) (h₁ : hexDigit c₁ = some d₁)
      (h₀ : hexDigit c₀ = some d₀) (h : Chars units text) :
      Chars ((4096 * d₃ + 256 * d₂ + 16 * d₁ + d₀) :: units)
        (backslash :: 117 :: c₃ :: c₂ :: c₁ :: c₀ :: text)

inductive Quoted : List Nat → Bytes → Prop where
  | mk {units : List Nat} {text : Bytes} (h : Chars units text) :
      Quoted units (quotation :: text ++ [quotation])

/-! ## Values -/

/-- What a part of a text spells: a value, or what stands between the brackets of one. -/
inductive Part where
  | value (v : Value)
  | items (vs : List Value)
  | members (ms : List (List Nat × Value))

inductive Spells : Part → Bytes → Prop where
  | null : Spells (.value .null) (ascii "null")
  | true : Spells (.value (.bool true)) (ascii "true")
  | false : Spells (.value (.bool false)) (ascii "false")
  | number {text : Bytes} (h : Number text) : Spells (.value (.number text)) text
  | string {units : List Nat} {text : Bytes} (h : Quoted units text) :
      Spells (.value (.string units)) text
  | noItems {blanks : Bytes} (h : Blanks blanks) :
      Spells (.value (.array [])) (ascii "[" ++ blanks ++ ascii "]")
  | array {vs : List Value} {text : Bytes} (h : Spells (.items vs) text) :
      Spells (.value (.array vs)) (ascii "[" ++ text ++ ascii "]")
  | noMembers {blanks : Bytes} (h : Blanks blanks) :
      Spells (.value (.object [])) (ascii "\x7b" ++ blanks ++ ascii "\x7d")
  | object {ms : List (List Nat × Value)} {text : Bytes} (h : Spells (.members ms) text) :
      Spells (.value (.object ms)) (ascii "\x7b" ++ text ++ ascii "\x7d")
  | item {v : Value} {before text after : Bytes} (hbefore : Blanks before)
      (h : Spells (.value v) text) (hafter : Blanks after) :
      Spells (.items [v]) (before ++ text ++ after)
  | items {v : Value} {vs : List Value} {text texts : Bytes} (h : Spells (.items [v]) text)
      (hs : Spells (.items vs) texts) : Spells (.items (v :: vs)) (text ++ ascii "," ++ texts)
  | member {name : List Nat} {v : Value} {before key after text : Bytes} (hbefore : Blanks before)
      (hkey : Quoted name key) (hafter : Blanks after) (h : Spells (.items [v]) text) :
      Spells (.members [(name, v)]) (before ++ key ++ after ++ ascii ":" ++ text)
  | members {m : List Nat × Value} {ms : List (List Nat × Value)} {text texts : Bytes}
      (h : Spells (.members [m]) text) (hs : Spells (.members ms) texts) :
      Spells (.members (m :: ms)) (text ++ ascii "," ++ texts)

/-- A text that is this object, with blanks around it. -/
def IsObject (ms : List (List Nat × Value)) (text : Bytes) : Prop :=
  ∃ before object after, Blanks before ∧ Spells (.value (.object ms)) object ∧ Blanks after ∧
    text = before ++ object ++ after

/-! ## No zero byte in a text -/

theorem Blanks.zero_notMem {text : Bytes} (h : Blanks text) : (0 : UInt8) ∉ text :=
  fun hz => absurd (h 0 hz) (by decide)

theorem Digits.zero_notMem {text : Bytes} (h : Digits text) : (0 : UInt8) ∉ text :=
  fun hz => absurd (h.decimal 0 hz) (by decide)

theorem Number.zero_notMem {text : Bytes} (h : Number text) : (0 : UInt8) ∉ text := by
  obtain ⟨hsign, hwhole, hzero, hfraction, hexponent⟩ := h
  simp only [List.mem_append, not_or]
  refine ⟨⟨⟨?_, hwhole.zero_notMem⟩, ?_⟩, ?_⟩
  · revert hsign
    simp only [List.mem_cons, List.not_mem_nil, or_false]
    rintro (rfl | rfl) <;> decide
  · rcases hfraction with rfl | ⟨ds, hds, rfl⟩
    · exact List.not_mem_nil
    · simp only [List.mem_append, not_or]
      exact ⟨by decide, hds.zero_notMem⟩
  · rcases hexponent with rfl | ⟨mark, hmark, sign, hsign, ds, hds, rfl⟩
    · exact List.not_mem_nil
    · simp only [List.mem_append, not_or]
      refine ⟨⟨?_, ?_⟩, hds.zero_notMem⟩
      · revert hmark
        simp only [List.mem_cons, List.not_mem_nil, or_false]
        rintro (rfl | rfl) <;> decide
      · revert hsign
        simp only [List.mem_cons, List.not_mem_nil, or_false]
        rintro (rfl | rfl | rfl) <;> decide

theorem hexDigit_ne_zero {c : UInt8} {d : Nat} (h : hexDigit c = some d) : (0 : UInt8) ≠ c := by
  rintro rfl
  cases h

theorem zero_notMem_utf8EncodeChar {c : Char} (hc : 0 < c.toNat) :
    (0 : UInt8) ∉ String.utf8EncodeChar c := by
  by_cases hlt : c.toNat < 128
  · rw [utf8EncodeChar_lt hlt, List.mem_singleton]
    intro hz
    have hval := congrArg UInt8.toNat hz
    rw [UInt8.toNat_ofNat_of_lt' (Nat.lt_trans hlt (by decide))] at hval
    exact Nat.ne_of_lt hc hval
  · intro hz
    exact absurd (utf8EncodeChar_ge (Nat.le_of_not_lt hlt) 0 hz) (by decide)

theorem Chars.zero_notMem {units : List Nat} {text : Bytes} (h : Chars units text) :
    (0 : UInt8) ∉ text := by
  induction h with
  | nil => exact List.not_mem_nil
  | char hprint _ _ _ ih =>
    rw [List.mem_append, not_or]
    exact ⟨zero_notMem_utf8EncodeChar (Nat.lt_of_lt_of_le (by decide) hprint), ih⟩
  | escape hc _ ih =>
    have hne : ∀ e ∈ escapes, (0 : UInt8) ≠ e.1 := by decide
    simp only [List.mem_cons, not_or]
    exact ⟨by decide, hne _ hc, ih⟩
  | unicode h₃ h₂ h₁ h₀ _ ih =>
    simp only [List.mem_cons, not_or]
    exact ⟨by decide, by decide, hexDigit_ne_zero h₃, hexDigit_ne_zero h₂, hexDigit_ne_zero h₁,
      hexDigit_ne_zero h₀, ih⟩

theorem Quoted.zero_notMem {units : List Nat} {text : Bytes} (h : Quoted units text) :
    (0 : UInt8) ∉ text := by
  obtain ⟨h⟩ := h
  simp only [List.cons_append, List.mem_cons, List.mem_append, not_or]
  exact ⟨by decide, h.zero_notMem, by decide, List.not_mem_nil⟩

/-- A zero byte stands nowhere in JSON, not even in a string. -/
theorem Spells.zero_notMem {part : Part} {text : Bytes} (h : Spells part text) :
    (0 : UInt8) ∉ text := by
  induction h with
  | null => decide
  | true => decide
  | false => decide
  | number h => exact h.zero_notMem
  | string h => exact h.zero_notMem
  | noItems h =>
    simp only [List.mem_append, not_or]
    exact ⟨⟨by decide, h.zero_notMem⟩, by decide⟩
  | array _ ih =>
    simp only [List.mem_append, not_or]
    exact ⟨⟨by decide, ih⟩, by decide⟩
  | noMembers h =>
    simp only [List.mem_append, not_or]
    exact ⟨⟨by decide, h.zero_notMem⟩, by decide⟩
  | object _ ih =>
    simp only [List.mem_append, not_or]
    exact ⟨⟨by decide, ih⟩, by decide⟩
  | item hbefore _ hafter ih =>
    simp only [List.mem_append, not_or]
    exact ⟨⟨hbefore.zero_notMem, ih⟩, hafter.zero_notMem⟩
  | items _ _ ih ihs =>
    simp only [List.mem_append, not_or]
    exact ⟨⟨ih, by decide⟩, ihs⟩
  | member hbefore hkey hafter _ ih =>
    simp only [List.mem_append, not_or]
    exact ⟨⟨⟨⟨hbefore.zero_notMem, hkey.zero_notMem⟩, hafter.zero_notMem⟩, by decide⟩, ih⟩
  | members _ _ ih ihs =>
    simp only [List.mem_append, not_or]
    exact ⟨⟨ih, by decide⟩, ihs⟩

theorem IsObject.zero_notMem {ms : List (List Nat × Value)} {text : Bytes} (h : IsObject ms text) :
    (0 : UInt8) ∉ text := by
  obtain ⟨before, object, after, hbefore, hobject, hafter, rfl⟩ := h
  simp only [List.mem_append, not_or]
  exact ⟨⟨hbefore.zero_notMem, hobject.zero_notMem⟩, hafter.zero_notMem⟩

/-- Printable ASCII without quotation marks and backslashes stands for itself. -/
theorem chars_plain {text : Bytes}
    (h : ∀ c ∈ text, 32 ≤ c ∧ c < 128 ∧ c ≠ quotation ∧ c ≠ backslash) :
    Chars (text.map UInt8.toNat) text := by
  induction text with
  | nil => exact .nil
  | cons c text ih =>
    obtain ⟨hlow, hhigh, hquote, hslash⟩ := h c List.mem_cons_self
    have hrest := ih fun d hd => h d (List.mem_cons_of_mem c hd)
    have hval : (Char.ofNat c.toNat).toNat = c.toNat := toNat_ofNat_ascii hhigh
    have hne : ∀ d : Char, d.toNat ≠ c.toNat → Char.ofNat c.toNat ≠ d :=
      fun d hd heq => hd (by rw [← heq, hval])
    have hchar := Chars.char (c := Char.ofNat c.toNat) (by rw [hval]; exact hlow)
      (hne '"' fun hd => hquote (UInt8.toNat_inj.mp hd.symm))
      (hne '\\' fun hd => hslash (UInt8.toNat_inj.mp hd.symm)) hrest
    rw [hval, utf8EncodeChar_ascii hhigh] at hchar
    exact hchar

end IotMonitoring.JsonTexts
