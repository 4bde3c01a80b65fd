import IotMonitoring.Shared.ByteStrings

/-!
# Form encoding

The encoding `application/x-www-form-urlencoded` of a value: letters, digits and
four marks stand for themselves, a space is a plus sign, and every other byte is
a percent sign and two hexadecimal digits. An encoded value can stand in a query
of a request line, and decoding gives back what was encoded.
-/

namespace IotMonitoring.FormEncoding

open ByteStrings
set_option autoImplicit false

def percent : UInt8 := 37
def plus : UInt8 := 43
def blank : UInt8 := 32

/-- The bytes that stand for themselves: letters, digits, and the marks `*`, `-`, `.` and `_`. -/
def isUnreserved (b : UInt8) : Bool :=
  (48 ≤ b && b ≤ 57) || (65 ≤ b && b ≤ 90) || (97 ≤ b && b ≤ 122) ||
    b == 42 || b == 45 || b == 46 || b == 95

def hexDigit (d : Nat) : UInt8 := if d < 10 then UInt8.ofNat (48 + d) else UInt8.ofNat (55 + d)

/-- A hexadecimal digit in either case. -/
def hexValue (b : UInt8) : Option Nat :=
  if 48 ≤ b && b ≤ 57 then some (b.toNat - 48)
  else if 65 ≤ b && b ≤ 70 then some (b.toNat - 55)
  else if 97 ≤ b && b ≤ 102 then some (b.toNat - 87)
  else none

def encodeByte (b : UInt8) : Bytes :=
  if isUnreserved b then [b]
  else if b = blank then [plus]
  else [percent, hexDigit (b.toNat / 16), hexDigit (b.toNat % 16)]

def encode (value : Bytes) : Bytes := value.flatMap encodeByte

theorem encode_append (value rest : Bytes) : encode (value ++ rest) = encode value ++ encode rest :=
  List.flatMap_append

/-- The byte of two hexadecimal digits. -/
def hexPair (high low : UInt8) : Option UInt8 :=
  match hexValue high, hexValue low with
  | some h, some l => some (UInt8.ofNat (16 * h + l))
  | _, _ => none

def decodePlain (b : UInt8) : UInt8 := if b = plus then blank else b

/-- A percent sign without two digits behind it stands for itself. -/
def decode : Bytes → Bytes
  | [] => []
  | [b] => [decodePlain b]
  | [b, c] => [decodePlain b, decodePlain c]
  | b :: high :: low :: rest =>
    if b = percent then
      match hexPair high low with
      | some value => value :: decode rest
      | none => b :: decode (high :: low :: rest)
    else decodePlain b :: decode (high :: low :: rest)

/-! ## Round trip -/

theorem decode_plain {b : UInt8} (hb : b ≠ percent) (rest : Bytes) :
    decode (b :: rest) = decodePlain b :: decode rest := by
  cases rest with
  | nil => rfl
  | cons c rest =>
    cases rest with
    | nil => rfl
    | cons d rest => rw [decode, if_neg hb]

theorem decode_percent {high low value : UInt8} (h : hexPair high low = some value) (rest : Bytes) :
    decode (percent :: high :: low :: rest) = value :: decode rest := by
  rw [decode, if_pos rfl, h]

theorem hexValue_hexDigit {d : Nat} (hd : d < 16) : hexValue (hexDigit d) = some d := by
  have hall : ∀ k : Fin 16, hexValue (hexDigit k) = some k.val := by decide
  exact hall ⟨d, hd⟩

theorem hexPair_byte (b : UInt8) :
    hexPair (hexDigit (b.toNat / 16)) (hexDigit (b.toNat % 16)) = some b := by
  have hlt : b.toNat < 256 := b.toNat_lt
  have hvalue : 16 * (b.toNat / 16) + b.toNat % 16 = b.toNat := Nat.div_add_mod b.toNat 16
  rw [hexPair, hexValue_hexDigit (by omega), hexValue_hexDigit (by omega)]
  simp only [hvalue, UInt8.ofNat_toNat]

theorem unreserved_decode {b : UInt8} (h : isUnreserved b = true) :
    b ≠ percent ∧ decodePlain b = b := by
  constructor
  · rintro rfl
    cases h
  · rw [decodePlain, if_neg]
    rintro rfl
    cases h

theorem decode_encodeByte (b : UInt8) (rest : Bytes) :
    decode (encodeByte b ++ rest) = b :: decode rest := by
  unfold encodeByte
  split
  · rename_i hplain
    obtain ⟨hne, hself⟩ := unreserved_decode hplain
    rw [List.singleton_append, decode_plain hne, hself]
  split
  · rename_i hblank
    rw [List.singleton_append, decode_plain (by decide), hblank]
    rfl
  · exact decode_percent (hexPair_byte b) rest

theorem decode_encode_append (value rest : Bytes) :
    decode (encode value ++ rest) = value ++ decode rest := by
  induction value with
  | nil => rfl
  | cons b value ih =>
    rw [encode, List.flatMap_cons, List.append_assoc, decode_encodeByte, List.cons_append]
    exact congrArg (b :: ·) ih

/-- Decoding gives back what was encoded. -/
theorem decode_encode (value : Bytes) : decode (encode value) = value := by
  have h := decode_encode_append value []
  rw [List.append_nil] at h
  rw [h, decode, List.append_nil]

/-! ## What an encoded value is made of -/

theorem hexDigit_unreserved {d : Nat} (hd : d < 16) : isUnreserved (hexDigit d) = true := by
  have hall : ∀ k : Fin 16, isUnreserved (hexDigit k) = true := by decide
  exact hall ⟨d, hd⟩

theorem mem_encode {value : Bytes} {c : UInt8} (h : c ∈ encode value) :
    isUnreserved c = true ∨ c = plus ∨ c = percent := by
  obtain ⟨b, -, hc⟩ := List.mem_flatMap.mp h
  have hlt : b.toNat < 256 := b.toNat_lt
  unfold encodeByte at hc
  split at hc
  · rw [List.mem_singleton.mp hc]
    exact Or.inl ‹_›
  split at hc
  · exact Or.inr (Or.inl (List.mem_singleton.mp hc))
  · simp only [List.mem_cons, List.not_mem_nil, or_false] at hc
    rcases hc with rfl | rfl | rfl
    · exact Or.inr (Or.inr rfl)
    · exact Or.inl (hexDigit_unreserved (by omega))
    · exact Or.inl (hexDigit_unreserved (by omega))

/-- An encoded value holds nothing that ends a line, a word, a string or a parameter. -/
theorem encode_clean {value : Bytes} {c : UInt8} (h : c ∈ encode value) :
    c ∉ [(0 : UInt8), 10, 13, 32, 38, 61, 63] := by
  intro hbad
  simp only [List.mem_cons, List.not_mem_nil, or_false] at hbad
  rcases mem_encode h with hplain | rfl | rfl
  · rcases hbad with rfl | rfl | rfl | rfl | rfl | rfl | rfl <;> cases hplain
  · rcases hbad with hbad | hbad | hbad | hbad | hbad | hbad | hbad <;> cases hbad
  · rcases hbad with hbad | hbad | hbad | hbad | hbad | hbad | hbad <;> cases hbad

theorem encode_avoids {value bad : Bytes} (hbad : bad ⊆ [0, 10, 13, 32, 38, 61, 63]) {c : UInt8}
    (h : c ∈ encode value) : c ∉ bad := fun hc => encode_clean h (hbad hc)

theorem encode_eq_nil_iff {value : Bytes} : encode value = [] ↔ value = [] := by
  constructor
  · intro h
    rw [← decode_encode value, h]
    rfl
  · rintro rfl
    rfl

end IotMonitoring.FormEncoding
