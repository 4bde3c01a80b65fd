import Mathlib.Data.Nat.Digits.Lemmas
import Mathlib.Tactic.Ring
import IotMonitoring.Shared.ByteStrings

/-!
# IEEE binary64 numbers and their decimal text

Every finite binary64 magnitude is a whole number of units of 2^-1074, the
least positive subnormal, so comparison and exact decimal output need only
natural numbers. `strtod` follows the C grammar in the C locale (blanks, sign,
decimal and hexadecimal forms, infinities, NaN), rounds to nearest with ties to
even and reports the range error of overflow and of inexact underflow.
`fixed2` is the conversion `%.2f`, which prints the exact value.
-/

namespace IotMonitoring.Binary64

open ByteStrings
set_option autoImplicit false

/-- Units of 2^-1074 in the number one. -/
def unit : Nat := 2 ^ 1074

theorem unit_pos : 0 < unit := by
  rw [unit]
  apply Nat.pow_pos
  decide

/-- The first power of two beyond the finite range. -/
def overflowPower : Nat := 2 ^ 1024

/-- The same bound in units. -/
def limit : Nat := overflowPower * unit

/-- The least normal magnitude, 2^-1022. -/
def minNormal : Nat := 2 ^ 52

def Representable (u : Nat) : Prop := u < limit ∧ ∃ m e, m ≤ 2 ^ 53 ∧ u = m * 2 ^ e

/-- A binary64 datum; the payload of a NaN is not kept, its sign is. -/
inductive Double where
  | finite (negative : Bool) (units : Nat) (representable : Representable units)
  | infinite (negative : Bool)
  | nan (negative : Bool)
deriving DecidableEq

/-- The quotient rounded to nearest, ties to even. -/
def roundHalfEven (num den : Nat) : Nat :=
  let q := num / den
  let r := num % den
  if 2 * r < den then q
  else if 2 * r = den then q + q % 2
  else q + 1

theorem roundHalfEven_le (num den : Nat) : roundHalfEven num den ≤ num / den + 1 := by
  unfold roundHalfEven
  dsimp only
  split
  · omega
  · split <;> omega

/-- The magnitude `num / den` in units, with 53 significant bits at most. -/
def roundUnits (num den : Nat) : Nat :=
  let s := (num * unit / den).log2 - 52
  roundHalfEven (num * unit) (den * 2 ^ s) * 2 ^ s

theorem roundUnits_mantissa (num den : Nat) :
    ∃ m e, m ≤ 2 ^ 53 ∧ roundUnits num den = m * 2 ^ e := by
  refine ⟨_, _, ?_, rfl⟩
  set q := num * unit / den with hq
  have hr := roundHalfEven_le (num * unit) (den * 2 ^ (q.log2 - 52))
  rw [← Nat.div_div_eq_div_mul, ← hq] at hr
  have hlog : q < 2 ^ (q.log2 + 1) := Nat.lt_log2_self
  have hpow : 2 ^ (q.log2 + 1) ≤ 2 ^ 53 * 2 ^ (q.log2 - 52) := by
    rw [← Nat.pow_add]
    exact Nat.pow_le_pow_right (by omega) (by omega)
  have hdiv : q / 2 ^ (q.log2 - 52) < 2 ^ 53 :=
    (Nat.div_lt_iff_lt_mul (Nat.two_pow_pos _)).mpr (Nat.lt_of_lt_of_le hlog hpow)
  omega

/-- The number with the given sign nearest to `num / den`. -/
def ofRatio (negative : Bool) (num den : Nat) : Double :=
  if h : roundUnits num den < limit then
    .finite negative (roundUnits num den) ⟨h, roundUnits_mantissa num den⟩
  else .infinite negative

/-- A small literal of the source, such as `70.0`. -/
def ofNat (n : Nat) : Double := ofRatio false n 1

namespace Double

/-- IEEE `<`; false as soon as one side is a NaN. -/
def lt : Double → Double → Bool
  | nan _, _ => false
  | _, nan _ => false
  | infinite true, infinite true => false
  | infinite true, _ => true
  | _, infinite true => false
  | infinite false, _ => false
  | _, infinite false => true
  | finite false u _, finite false v _ => u < v
  | finite true u _, finite true v _ => v < u
  | finite true u _, finite false v _ => u != 0 || v != 0
  | finite false _ _, finite true _ _ => false

def gt (a b : Double) : Bool := b.lt a

end Double

/-! ## Decimal output -/

def digitByte (d : Nat) : UInt8 := (48 + d).toUInt8

def decimal (n : Nat) : Bytes :=
  if n = 0 then [48] else ((Nat.digits 10 n).map digitByte).reverse

theorem decimal_length_le {n k : Nat} (hk : 0 < k) (h : n < 10 ^ k) : (decimal n).length ≤ k := by
  unfold decimal
  split
  · exact hk
  · rw [List.length_reverse, List.length_map]
    exact (Nat.digits_length_le_iff (by omega) n).mpr h

theorem decimal_length_eq {n k : Nat} (hlow : 10 ^ k ≤ n) (hhigh : n < 10 ^ (k + 1)) :
    (decimal n).length = k + 1 := by
  have hle := decimal_length_le (Nat.succ_pos k) hhigh
  have hpos : n ≠ 0 := by
    have := Nat.pow_pos (n := k) (show 0 < 10 by omega)
    omega
  have hlt : k < (Nat.digits 10 n).length := (Nat.lt_digits_length_iff (by omega) n).mpr hlow
  rw [decimal, if_neg hpos, List.length_reverse, List.length_map] at hle ⊢
  omega

def signText (negative : Bool) : Bytes := if negative then ascii "-" else []

/-- The conversion `%.2f`. -/
def fixed2 : Double → Bytes
  | .finite negative u _ =>
    let h := roundHalfEven (u * 100) unit
    signText negative ++ decimal (h / 100) ++ [46, digitByte (h / 10 % 10), digitByte (h % 10)]
  | .infinite negative => signText negative ++ ascii "inf"
  | .nan negative => signText negative ++ ascii "nan"

theorem signText_length_le (negative : Bool) : (signText negative).length ≤ 1 := by
  cases negative <;> decide

theorem digitByte_bounds {d : Nat} (h : d < 10) : 48 ≤ digitByte d ∧ digitByte d ≤ 57 := by
  have hall : ∀ d < 10, 48 ≤ digitByte d ∧ digitByte d ≤ 57 := by decide
  exact hall d h

theorem decimal_bounds {n : Nat} {c : UInt8} (hc : c ∈ decimal n) : 48 ≤ c ∧ c ≤ 57 := by
  unfold decimal at hc
  split at hc
  · rw [List.mem_singleton.mp hc]
    decide
  · obtain ⟨d, hd, rfl⟩ := List.mem_map.mp (List.mem_reverse.mp hc)
    exact digitByte_bounds (Nat.digits_lt_base (by omega) hd)

/-- The output is printable ASCII: no byte of it is a control character or a blank. -/
theorem fixed2_bytes {d : Double} {c : UInt8} (hc : c ∈ fixed2 d) : 45 ≤ c ∧ c < 128 := by
  have hdigit : ∀ {c : UInt8}, 48 ≤ c ∧ c ≤ 57 → 45 ≤ c ∧ c < 128 := fun h =>
    ⟨UInt8.le_trans (by decide) h.1, UInt8.lt_of_le_of_lt h.2 (by decide)⟩
  have hword : ∀ negative, ∀ word ∈ [ascii "inf", ascii "nan"],
      ∀ c ∈ signText negative ++ word, 45 ≤ c ∧ c < 128 := by decide
  have hsign : ∀ negative, ∀ c ∈ signText negative, 45 ≤ c ∧ c < 128 := by decide
  cases d with
  | finite negative u hu =>
    simp only [fixed2, List.mem_append, List.mem_cons, List.not_mem_nil, or_false] at hc
    rcases hc with (hc | hc) | rfl | rfl | rfl
    · exact hsign negative c hc
    · exact hdigit (decimal_bounds hc)
    · decide
    · exact hdigit (digitByte_bounds (Nat.mod_lt _ (by omega)))
    · exact hdigit (digitByte_bounds (Nat.mod_lt _ (by omega)))
  | infinite negative => exact hword negative (ascii "inf") (by simp) c hc
  | nan negative => exact hword negative (ascii "nan") (by simp) c hc

theorem overflowPower_lt : overflowPower < 10 ^ 309 := by decide +kernel

theorem div_hundred_le {r q p : Nat} (hr : r ≤ q + 1) (hq : q < 100 * p) : r / 100 ≤ p := by omega

theorem hundredths_lt {u : Nat} (h : u < limit) : roundHalfEven (u * 100) unit / 100 < 10 ^ 309 := by
  have hr := roundHalfEven_le (u * 100) unit
  have hdiv : u * 100 / unit < 100 * overflowPower := by
    apply (Nat.div_lt_iff_lt_mul unit_pos).mpr
    calc u * 100 < limit * 100 := Nat.mul_lt_mul_of_pos_right h (by omega)
      _ = 100 * overflowPower * unit := by unfold limit; ring
  exact Nat.lt_of_le_of_lt (div_hundred_le hr hdiv) overflowPower_lt

/-- The longest output is that of the finite numbers near -2^1024. -/
theorem fixed2_length_le (d : Double) : (fixed2 d).length ≤ 313 := by
  cases d with
  | finite negative u hu =>
    have hs := signText_length_le negative
    have hd := decimal_length_le (by omega) (hundredths_lt hu.1)
    simp only [fixed2, List.length_append, List.length_cons, List.length_nil]
    omega
  | infinite negative => cases negative <;> decide
  | nan negative => cases negative <;> decide

/-! ## Decimal input -/

def isSpace (c : UInt8) : Bool := c == 32 || (9 ≤ c && c ≤ 13)
def isDigit (c : UInt8) : Bool := 48 ≤ c && c ≤ 57
def lower (c : UInt8) : UInt8 := if 65 ≤ c && c ≤ 90 then c + 32 else c

def decimalDigit (c : UInt8) : Option Nat := if isDigit c then some (c.toNat - 48) else none

def hexDigit (c : UInt8) : Option Nat :=
  if isDigit c then some (c.toNat - 48)
  else if 97 ≤ lower c && lower c ≤ 102 then some ((lower c).toNat - 87)
  else none

/-- One of the two number forms: its digits, and the letter and base of its exponent. -/
structure Radix where
  base : Nat
  digit : UInt8 → Option Nat
  marker : UInt8
  exponentBase : Nat

def decimalRadix : Radix := ⟨10, decimalDigit, 101, 10⟩
def hexRadix : Radix := ⟨16, hexDigit, 112, 2⟩

def takeDigits (digit : UInt8 → Option Nat) : Bytes → List Nat × Bytes
  | [] => ([], [])
  | c :: cs =>
    match digit c with
    | some d => let (ds, rest) := takeDigits digit cs; (d :: ds, rest)
    | none => ([], c :: cs)

def digitsValue (base : Nat) (ds : List Nat) : Nat := ds.foldl (fun a d => a * base + d) 0

def takeSign : Bytes → Bool × Bytes
  | 45 :: cs => (true, cs)
  | 43 :: cs => (false, cs)
  | s => (false, s)

/-- Digits with an optional point; at least one digit on either side of it.
Returns the digits as one number, how many stand after the point, and the rest. -/
def takeSignificand (r : Radix) (s : Bytes) : Option (Nat × Nat × Bytes) :=
  let (whole, s₁) := takeDigits r.digit s
  let (part, s₂) := match s₁ with
    | 46 :: cs => takeDigits r.digit cs
    | _ => ([], s₁)
  if whole = [] ∧ part = [] then none
  else some (digitsValue r.base (whole ++ part), part.length, s₂)

/-- An exponent is consumed only when a digit follows its letter and sign. -/
def takeExponent (r : Radix) : Bytes → Int × Bytes
  | [] => (0, [])
  | c :: cs =>
    if lower c = r.marker then
      let (negative, s₁) := takeSign cs
      match takeDigits decimalDigit s₁ with
      | ([], _) => (0, c :: cs)
      | (ds, s₂) => (if negative then -(digitsValue 10 ds : Int) else digitsValue 10 ds, s₂)
    else (0, c :: cs)

/-- The result of a conversion: the value, the text after it, and whether `errno` is `ERANGE`. -/
structure Conversion where
  value : Double
  rest : Bytes
  rangeError : Bool

/-- A nonzero input whose nearest number is not normal and not exact. The standard leaves open whether
underflow is an error of range; glibc also reports it for inputs just below the least normal number
that are rounded up to it. -/
def underflows (num den : Nat) : Bool :=
  num != 0 && decide (roundUnits num den < minNormal) && roundUnits num den * den != num * unit

def takeNumber (r : Radix) (negative : Bool) (s : Bytes) : Option Conversion :=
  match takeSignificand r s with
  | none => none
  | some (mantissa, fraction, s₁) =>
    let (e, s₂) := takeExponent r s₁
    let num := mantissa * r.exponentBase ^ e.toNat
    let den := r.base ^ fraction * r.exponentBase ^ (-e).toNat
    some ⟨ofRatio negative num den, s₂, !decide (roundUnits num den < limit) || underflows num den⟩

def takeWord (word s : Bytes) : Option Bytes :=
  if (s.take word.length).map lower = word then some (s.drop word.length) else none

/-- The optional `(n-char-sequence)` after `nan`. -/
def takeNanSequence (s : Bytes) : Bytes :=
  match s with
  | 40 :: cs =>
    match cs.dropWhile fun c => isDigit c || (97 ≤ lower c && lower c ≤ 122) || c == 95 with
    | 41 :: rest => rest
    | _ => s
  | _ => s

/-- `none` is a text that starts with no number at all (`endptr == str`). What stands in the brackets
behind `nan` never makes an error of range; glibc reports one where it reads it as a number that does
not fit 64 bits. -/
def strtod (s : Bytes) : Option Conversion :=
  let (negative, s₁) := takeSign (s.dropWhile isSpace)
  match takeWord (ascii "infinity") s₁ with
  | some rest => some ⟨.infinite negative, rest, false⟩
  | none =>
  match takeWord (ascii "inf") s₁ with
  | some rest => some ⟨.infinite negative, rest, false⟩
  | none =>
  match takeWord (ascii "nan") s₁ with
  | some rest => some ⟨.nan negative, takeNanSequence rest, false⟩
  | none =>
  match takeWord (ascii "0x") s₁ with
  | some rest =>
    match takeNumber hexRadix negative rest with
    | some c => some c
    | none => takeNumber decimalRadix negative s₁
  | none => takeNumber decimalRadix negative s₁

example : (strtod (ascii "-1e400")).map (·.rangeError) = some true := by decide +kernel
example : (strtod (ascii " 0x1.8p1z")).map (fun c => (c.value, c.rest)) =
    some (ofNat 3, ascii "z") := by decide +kernel
example : fixed2 (ofRatio true 1 1000) = ascii "-0.00" := by decide +kernel

end IotMonitoring.Binary64
