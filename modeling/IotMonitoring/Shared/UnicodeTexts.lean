import IotMonitoring.Shared.ByteStrings

/-!
# Unicode texts and their UTF-8 bytes

A text is a list of code points. Besides characters it can hold unpaired
surrogates, which have no UTF-8 form: a strict encoder refuses the text and a
lenient one writes a question mark. A byte below 128 only ever stands for the
ASCII character with its number.
-/

namespace IotMonitoring.UnicodeTexts

open ByteStrings
set_option autoImplicit false

inductive CodePoint where
  | scalar (c : Char)
  /-- U+D800 and the given offset. -/
  | surrogate (offset : Fin 2048)
deriving DecidableEq

abbrev Text := List CodePoint

def ofChars (cs : List Char) : Text := cs.map .scalar

def ofAscii (b : Bytes) : Text := ofChars (b.map fun c => Char.ofNat c.toNat)

def CodePoint.utf8 : CodePoint → Option Bytes
  | scalar c => some (String.utf8EncodeChar c)
  | surrogate _ => none

def encode : Text → Option Bytes
  | [] => some []
  | p :: ps =>
    match p.utf8, encode ps with
    | some b, some bs => some (b ++ bs)
    | _, _ => none

/-- A strict decoder; no surrogate comes out of it. -/
def decode (b : Bytes) : Option (List Char) := b.toByteArray.utf8Decode?.map Array.toList

def encodeReplacing (t : Text) : Bytes := t.flatMap fun p => p.utf8.getD (ascii "?")

theorem decode_encoded (cs : List Char) : decode (cs.flatMap String.utf8EncodeChar) = some cs := by
  have hcs : (cs.flatMap String.utf8EncodeChar).toByteArray.utf8Decode? = some cs.toArray :=
    List.utf8Decode?_utf8Encode
  rw [decode, hcs]
  rfl

/-- What the strict encoder writes are whole characters, those of the text. -/
theorem chars_of_encode {t : Text} {b : Bytes} (h : encode t = some b) :
    ∃ cs : List Char, t = ofChars cs ∧ cs.flatMap String.utf8EncodeChar = b := by
  induction t generalizing b with
  | nil =>
    cases h
    exact ⟨[], rfl, rfl⟩
  | cons p ps ih =>
    rw [encode] at h
    split at h
    · rename_i c rest hp hps
      cases h
      obtain ⟨cs, rfl, rfl⟩ := ih hps
      cases p with
      | scalar x =>
        cases hp
        exact ⟨x :: cs, rfl, List.flatMap_cons⟩
      | surrogate offset => cases hp
    · cases h

theorem encode_append (t u : Text) : encode (t ++ u) =
    (encode t).bind fun b => (encode u).map fun bs => b ++ bs := by
  induction t with
  | nil =>
    rw [List.nil_append]
    cases encode u with
    | none => rfl
    | some bs => rfl
  | cons p ps ih =>
    rw [List.cons_append, encode, encode, ih]
    cases p.utf8 with
    | none => rfl
    | some b =>
      cases encode ps with
      | none => rfl
      | some bs =>
        cases encode u with
        | none => rfl
        | some cs => simp only [Option.bind_some, Option.map_some, List.append_assoc]

theorem encode_append_some {t u : Text} {a b : Bytes} (ht : encode t = some a)
    (hu : encode u = some b) : encode (t ++ u) = some (a ++ b) := by
  rw [encode_append, ht, hu]
  rfl

theorem encode_append_none {t u : Text} (h : encode t = none ∨ encode u = none) :
    encode (t ++ u) = none := by
  rw [encode_append]
  rcases h with h | h
  · rw [h]
    rfl
  · rw [h]
    cases encode t <;> rfl

/-- The encodings agree where the strict one succeeds. -/
theorem encodeReplacing_eq {t : Text} {b : Bytes} (h : encode t = some b) :
    encodeReplacing t = b := by
  induction t generalizing b with
  | nil =>
    cases h
    rfl
  | cons p ps ih =>
    rw [encode] at h
    split at h
    · rename_i c cs hp hps
      cases h
      rw [encodeReplacing, List.flatMap_cons, hp, Option.getD_some]
      exact congrArg (c ++ ·) (ih hps)
    · cases h

/-! ## ASCII -/

theorem utf8EncodeChar_lt {c : Char} (hc : c.toNat < 128) :
    String.utf8EncodeChar c = [UInt8.ofNat c.toNat] := by
  have hval : c.val.toNat = c.toNat := rfl
  rw [String.utf8EncodeChar, hval, if_pos (by omega)]

theorem toNat_ofNat_ascii {c : UInt8} (hc : c < 128) : (Char.ofNat c.toNat).toNat = c.toNat := by
  have hlt : c.toNat < 128 := hc
  have hvalid : Nat.isValidChar c.toNat := Or.inl (by omega)
  rw [Char.ofNat, dif_pos hvalid]
  rfl

theorem utf8EncodeChar_ascii {c : UInt8} (hc : c < 128) :
    String.utf8EncodeChar (Char.ofNat c.toNat) = [c] := by
  have hlt : c.toNat < 128 := hc
  have hval := toNat_ofNat_ascii hc
  rw [utf8EncodeChar_lt (by omega), hval, UInt8.ofNat_toNat]

theorem encode_ofChars (cs : List Char) :
    encode (ofChars cs) = some (cs.flatMap String.utf8EncodeChar) := by
  induction cs with
  | nil => rfl
  | cons c cs ih =>
    rw [ofChars, List.map_cons, encode, CodePoint.utf8, ← ofChars, ih]
    rfl

theorem encode_ofAscii {b : Bytes} (hb : ∀ c ∈ b, c < 128) : encode (ofAscii b) = some b := by
  rw [ofAscii, encode_ofChars]
  induction b with
  | nil => rfl
  | cons c cs ih =>
    rw [List.map_cons, List.flatMap_cons, utf8EncodeChar_ascii (hb c List.mem_cons_self)]
    have hcs := ih fun d hd => hb d (List.mem_cons_of_mem c hd)
    rw [Option.some.inj hcs]
    rfl

/-- A byte of a character beyond ASCII is not an ASCII byte. -/
theorem utf8EncodeChar_ge {c : Char} (hc : 128 ≤ c.toNat) :
    ∀ b ∈ String.utf8EncodeChar c, 128 ≤ b := by
  have hlead : ∀ k, 128 ≤ k → k < 256 → (128 : UInt8) ≤ UInt8.ofNat k := by
    intro k hlow hhigh
    rw [UInt8.le_iff_toNat_le, UInt8.toNat_ofNat_of_lt' hhigh]
    exact hlow
  have hval : c.val.toNat = c.toNat := rfl
  unfold String.utf8EncodeChar
  rw [hval, if_neg (by omega)]
  intro b hb
  split at hb
  · simp only [List.mem_cons, List.not_mem_nil, or_false] at hb
    rcases hb with rfl | rfl <;> apply hlead <;> omega
  split at hb
  · simp only [List.mem_cons, List.not_mem_nil, or_false] at hb
    rcases hb with rfl | rfl | rfl <;> apply hlead <;> omega
  · simp only [List.mem_cons, List.not_mem_nil, or_false] at hb
    rcases hb with rfl | rfl | rfl | rfl <;> apply hlead <;> omega

end IotMonitoring.UnicodeTexts
