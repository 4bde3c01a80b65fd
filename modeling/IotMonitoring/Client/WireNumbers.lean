import IotMonitoring.Client.Payloads
import IotMonitoring.Server.Alerts

/-!
# Readings on the wire

Every reading lies in one of the ranges its client draws from, and is written
as the whole number of hundredths nearest to a decimal that denotes it. The
server reads this number back exactly when it is written with the point and the
digits of ASCII; with any others it reads no number at all.
-/

namespace IotMonitoring

open ByteStrings Binary64 UnicodeTexts
set_option autoImplicit false

/-! ## What is drawn -/

/-- The ranges of the readings of a type, the anomalous and the others. -/
def ranges : SensorType → Bool → List (Nat × Nat)
  | .temp, true => [(71, 95)]
  | .temp, false => [(20, 65)]
  | .vib, true => [(51, 90)]
  | .vib, false => [(5, 45)]
  | .power, true => [(0, 9), (101, 130)]
  | .power, false => [(20, 90)]
  | .invalid, _ => []

theorem drawn_from {min max : Nat} (k : Fin (2 ^ 53)) {rs : List (Nat × Nat)}
    (h : (min, max) ∈ rs) : ∃ r ∈ rs, ∃ j, randomBetween min max k = randomBetween r.1 r.2 j :=
  ⟨(min, max), h, k, rfl⟩

theorem drawReading_range {type : SensorType} {anomaly choice : Bool} {k high : Fin (2 ^ 53)}
    {value : Double} (h : drawReading type anomaly choice k high = some value) :
    ∃ r ∈ ranges type anomaly, ∃ j, value = randomBetween r.1 r.2 j := by
  unfold drawReading at h
  cases anomaly with
  | true =>
    simp only [if_true] at h
    cases type with
    | temp =>
      rw [← Option.some.inj h]
      exact drawn_from k List.mem_cons_self
    | vib =>
      rw [← Option.some.inj h]
      exact drawn_from k List.mem_cons_self
    | power =>
      rw [← Option.some.inj h]
      cases choice with
      | true =>
        rw [if_pos rfl]
        exact drawn_from k List.mem_cons_self
      | false =>
        rw [if_neg Bool.false_ne_true]
        exact drawn_from high (List.mem_cons_of_mem _ List.mem_cons_self)
    | invalid => cases h
  | false =>
    simp only [Bool.false_eq_true, if_false] at h
    cases type with
    | invalid => cases h
    | _ =>
      rw [← Option.some.inj h]
      exact drawn_from k List.mem_cons_self

theorem Platform.generateValue_range {p : Platform} {type : SensorType} {anomalyChance : Double}
    {d : Draws} {value : Double} (h : p.generateValue type anomalyChance d = some value) :
    ∃ r ∈ ranges type (isAnomaly anomalyChance d), ∃ k, value = randomBetween r.1 r.2 k := by
  cases p with
  | python => exact drawReading_range h
  | java jvm => exact drawReading_range h

section
variable {min max : Nat}

theorem roundUnits_product (hmax : max ≤ 2 ^ 52) (k : Fin (2 ^ 53)) :
    roundUnits ((max - min) * k) (2 ^ 53) ≤ (max - min) * unit := by
  apply roundUnits_le_natural (by omega) (by omega)
  exact Nat.mul_le_mul_left _ (Nat.le_of_lt k.isLt)

/-- What is drawn lies in its range, the ends included. -/
theorem randomBetween_spec (hle : min ≤ max) (hmax : max ≤ 2 ^ 52) (k : Fin (2 ^ 53)) :
    ∃ u hu, randomBetween min max k = .finite false u hu ∧ min * unit ≤ u ∧ u ≤ max * unit := by
  have hproduct : roundUnits ((max - min) * k) (2 ^ 53) ≤ (max - min) * unit :=
    roundUnits_product hmax k
  unfold randomBetween
  generalize roundUnits ((max - min) * k) (2 ^ 53) = p at hproduct ⊢
  have hsum : min * unit + p ≤ max * unit := by
    calc min * unit + p ≤ min * unit + (max - min) * unit := Nat.add_le_add_left hproduct _
      _ = max * unit := by rw [← Nat.add_mul, Nat.add_sub_cancel' hle]
  have hlow : min * unit ≤ roundUnits (min * unit + p) unit :=
    natural_le_roundUnits unit_pos (by omega) (Nat.le_add_right _ _)
  have hhigh : roundUnits (min * unit + p) unit ≤ max * unit :=
    roundUnits_le_natural unit_pos (by omega) hsum
  have hlt : roundUnits (min * unit + p) unit < limit :=
    Nat.lt_of_le_of_lt hhigh (representable_natural (t := max) (by omega)).1
  exact ⟨_, ⟨hlt, roundUnits_mantissa _ _⟩, dif_pos hlt, hlow, hhigh⟩

end

/-! ## What is written -/

/-- So many hundredths are nearest to a fraction that denotes the value. -/
def RoundsTo (value : Double) (h : Nat) : Prop :=
  ∃ num den, 0 < den ∧ ofRatio false num den = value ∧ 2 * (h * den) ≤ 200 * num + den ∧
    200 * num ≤ 2 * (h * den) + den

namespace Platform

def hundredths : Platform → Nat → Nat
  | python, u => roundHalfEven (u * 100) unit
  | java jvm, u => jvm.hundredths u

theorem rounds (p : Platform) {u : Nat} (hu : Representable u) :
    RoundsTo (.finite false u hu) (p.hundredths u) := by
  cases p with
  | python =>
    obtain ⟨hlow, hhigh⟩ := @roundHalfEven_near (u * 100) unit unit_pos
    refine ⟨u, unit, unit_pos, ofRatio_exact hu unit_pos rfl, ?_, ?_⟩
    · change 2 * (roundHalfEven (u * 100) unit * unit) ≤ _
      omega
    · change _ ≤ 2 * (roundHalfEven (u * 100) unit * unit) + _
      omega
  | java jvm =>
    refine ⟨(jvm.toDecimal u).1, 10 ^ (jvm.toDecimal u).2, Nat.pow_pos (by omega),
      jvm.toDecimal_reads u hu, ?_⟩
    have hden : 0 < 10 ^ (jvm.toDecimal u).2 := Nat.pow_pos (by omega)
    simp only [hundredths, Jvm.hundredths]
    generalize (jvm.toDecimal u).1 = num
    generalize 10 ^ (jvm.toDecimal u).2 = den at hden ⊢
    have hdiv := Nat.div_add_mod (200 * num + den) (2 * den)
    have hmod := Nat.mod_lt (200 * num + den) (show 0 < 2 * den by omega)
    generalize (200 * num + den) / (2 * den) = q at hdiv
    have hcomm : 2 * den * q = 2 * (q * den) := by ring
    omega

end Platform

/-- The hundredths of a reading are within half of the range it was drawn from. -/
theorem rounds_bounds {u h min max : Nat} {hu : Representable u} (hr : RoundsTo (.finite false u hu) h)
    (hmax : max ≤ 2 ^ 51) (hle : min ≤ max) (hlow : min * unit ≤ u) (hhigh : u ≤ max * unit) :
    100 * min ≤ h + 50 ∧ h ≤ 100 * max + 50 := by
  obtain ⟨num, den, hden, hvalue, habove, hbelow⟩ := hr
  have hround : roundUnits num den = u := by
    unfold ofRatio at hvalue
    split at hvalue
    · exact (Double.finite.inj hvalue).2
    · cases hvalue
  have hpos := halfUnit_pos
  rw [whole_eq_halves, ← hround] at hlow hhigh
  constructor
  · by_contra hnot
    have hsmall : 2 * num ≤ (2 * min - 1) * den := by
      have hscaled := Nat.mul_le_mul_right den (show 2 * h + 1 ≤ 100 * (2 * min - 1) by omega)
      rw [Nat.succ_mul (2 * h), Nat.mul_assoc, Nat.mul_assoc] at hscaled
      omega
    have hcross := roundUnits_le_halves hden (t := 2 * min - 1) (by omega) hsmall
    have hlt : (2 * min - 1) * halfUnit < 2 * min * halfUnit :=
      Nat.mul_lt_mul_of_pos_right (by omega) hpos
    omega
  · by_contra hnot
    have hlarge : (2 * max + 1) * den ≤ 2 * num := by
      have hscaled := Nat.mul_le_mul_right den (show 100 * (2 * max + 1) + 1 ≤ 2 * h by omega)
      rw [Nat.succ_mul (100 * _), Nat.mul_assoc, Nat.mul_assoc 2] at hscaled
      omega
    have hcross := halves_le_roundUnits hden (t := 2 * max + 1) (by omega) hlarge
    rw [Nat.succ_mul] at hcross
    omega

theorem ranges_bounds {type : SensorType} {anomaly : Bool} {r : Nat × Nat}
    (hr : r ∈ ranges type anomaly) : r.1 ≤ r.2 ∧ r.2 ≤ 130 := by
  have hall : ∀ type anomaly, ∀ r ∈ ranges type anomaly, r.1 ≤ r.2 ∧ r.2 ≤ 130 := by
    intro type anomaly
    cases type <;> cases anomaly <;> decide
  exact hall type anomaly r hr

theorem drawn_spec {p : Platform} {type : SensorType} {anomalyChance : Double} {d : Draws}
    {value : Double} (h : p.generateValue type anomalyChance d = some value) :
    ∃ u hu, value = .finite false u hu ∧ RoundsTo value (p.hundredths u) ∧
      ∃ r ∈ ranges type (isAnomaly anomalyChance d),
        100 * r.1 ≤ p.hundredths u + 50 ∧ p.hundredths u ≤ 100 * r.2 + 50 := by
  obtain ⟨r, hr, k, hdraw⟩ := p.generateValue_range h
  obtain ⟨hle, hmax⟩ := ranges_bounds hr
  obtain ⟨u, hu, hvalue, hlow, hhigh⟩ := randomBetween_spec hle (by omega) k
  have hrounds := p.rounds hu
  have heq := hdraw.trans hvalue
  have hbounds := rounds_bounds hrounds (by omega) hle hlow hhigh
  rw [← heq] at hrounds
  exact ⟨u, hu, heq, hrounds, r, hr, hbounds⟩

/-- Rounding takes no reading across a threshold. -/
theorem anomalous_hundredths_iff {type : SensorType} {anomaly : Bool} {r : Nat × Nat} {h : Nat}
    (hr : r ∈ ranges type anomaly) (hlow : 100 * r.1 ≤ h + 50) (hhigh : h ≤ 100 * r.2 + 50) :
    Anomalous type (ofRatio false h 100) ↔ anomaly = true := by
  have hmax := (ranges_bounds hr).2
  have hh : h ≤ 2 ^ 52 := by omega
  have habove := fun t (ht : t ≤ 100) => hundredths_gt_iff hh (show t ≤ 2 ^ 52 by omega)
  have hbelow := fun t (ht : t ≤ 100) => hundredths_lt_iff hh (show t ≤ 2 ^ 52 by omega)
  cases type with
  | temp =>
    cases anomaly with
    | true =>
      obtain rfl := List.mem_singleton.mp hr
      rw [Anomalous, habove 70 (by omega) (by omega)]
      exact iff_of_true (by omega) rfl
    | false =>
      obtain rfl := List.mem_singleton.mp hr
      rw [Anomalous, habove 70 (by omega) (by omega)]
      exact iff_of_false (by omega) Bool.false_ne_true
  | vib =>
    cases anomaly with
    | true =>
      obtain rfl := List.mem_singleton.mp hr
      rw [Anomalous, habove 50 (by omega) (by omega)]
      exact iff_of_true (by omega) rfl
    | false =>
      obtain rfl := List.mem_singleton.mp hr
      rw [Anomalous, habove 50 (by omega) (by omega)]
      exact iff_of_false (by omega) Bool.false_ne_true
  | power =>
    cases anomaly with
    | true =>
      rcases List.mem_cons.mp hr with rfl | hr
      · rw [Anomalous, hbelow 10 (by omega) (by omega), habove 100 (by omega) (by omega)]
        exact iff_of_true (by omega) rfl
      · obtain rfl := List.mem_singleton.mp hr
        rw [Anomalous, hbelow 10 (by omega) (by omega), habove 100 (by omega) (by omega)]
        exact iff_of_true (by omega) rfl
    | false =>
      obtain rfl := List.mem_singleton.mp hr
      rw [Anomalous, hbelow 10 (by omega) (by omega), habove 100 (by omega) (by omega)]
      exact iff_of_false (by omega) Bool.false_ne_true
  | invalid => cases hr

/-! ## The bytes of a number -/

namespace Jvm
variable (jvm : Jvm)

/-- The locale writes numbers as C does. -/
def Plain : Prop := jvm.decimalSeparator = '.' ∧ jvm.zeroDigit = '0'

instance : Decidable jvm.Plain := inferInstanceAs (Decidable (_ ∧ _))

def wireNumeral (h : Nat) : Bytes := (jvm.numeral h).flatMap String.utf8EncodeChar

theorem utf8_digitChar (hzero : jvm.zeroDigit = '0') {d : Nat} (hd : d < 10) :
    String.utf8EncodeChar (jvm.digitChar d) = [digitByte d] := by
  have hall : ∀ d < 10, String.utf8EncodeChar (Char.ofNat ('0'.toNat + d)) = [digitByte d] := by
    decide
  rw [digitChar, hzero]
  exact hall d hd

theorem utf8_digitChars (hzero : jvm.zeroDigit = '0') {ds : List Nat} (hds : ∀ d ∈ ds, d < 10) :
    (ds.map jvm.digitChar).flatMap String.utf8EncodeChar = ds.map digitByte := by
  induction ds with
  | nil => rfl
  | cons d ds ih =>
    rw [List.map_cons, List.flatMap_cons, jvm.utf8_digitChar hzero (hds d List.mem_cons_self),
      ih fun e he => hds e (List.mem_cons_of_mem d he)]
    rfl

/-- With ASCII digits only the separator can differ from what `strtod` expects. -/
theorem wireNumeral_ascii (hzero : jvm.zeroDigit = '0') (h : Nat) : jvm.wireNumeral h =
    decimal (h / 100) ++ (String.utf8EncodeChar jvm.decimalSeparator ++
      [digitByte (h / 10 % 10), digitByte (h % 10)]) := by
  unfold wireNumeral numeral
  rw [List.flatMap_append, jvm.utf8_digitChars hzero fun d hd => decimalDigits_lt hd, decimal_eq]
  simp only [List.flatMap_cons, List.flatMap_nil,
    jvm.utf8_digitChar hzero (Nat.mod_lt _ (show 0 < 10 by omega)), List.append_nil]
  rfl

/-- A byte of a visible character that is no letter. -/
def Mark (c : UInt8) : Prop := 32 < c ∧ isLetter c = false

theorem mark_of_ge {c : UInt8} (hc : 128 ≤ c) : Mark c :=
  ⟨UInt8.lt_of_lt_of_le (by decide) hc, not_isLetter_of_ge hc⟩

theorem mark_of_isDigit {c : UInt8} (hc : isDigit c = true) : Mark c :=
  ⟨UInt8.lt_of_lt_of_le (by decide) (isDigit_bounds hc).1, (isDigit_spec hc).2.2.2⟩

/-- The separator is made of marks, and unless it is a point it ends a whole number. -/
theorem separator_bytes : ∃ b bs, String.utf8EncodeChar jvm.decimalSeparator = b :: bs ∧
    (∀ c ∈ b :: bs, Mark c) ∧ (jvm.decimalSeparator ≠ '.' → EndsNumber b) := by
  rcases Nat.lt_or_ge jvm.decimalSeparator.toNat 128 with hascii | hbeyond
  · have hmark : ∀ n < 128, 32 < n → (Char.ofNat n).isAlphanum = false →
        32 < UInt8.ofNat n ∧ isLetter (UInt8.ofNat n) = false := by decide +kernel
    have hends : ∀ n < 128, (Char.ofNat n).isAlphanum = false → Char.ofNat n ≠ '.' →
        (decimalDigit (UInt8.ofNat n)).isNone = true ∧ UInt8.ofNat n ≠ 46 ∧
          lower (UInt8.ofNat n) ≠ 101 := by decide +kernel
    have hsep := hmark _ hascii jvm.separator_visible
    have hpoint := hends _ hascii
    rw [Char.ofNat_toNat] at hsep hpoint
    refine ⟨_, [], utf8EncodeChar_lt hascii, ?_, ?_⟩
    · intro c hc
      rw [List.mem_singleton.mp hc]
      exact hsep jvm.separator_mark
    · intro hne
      obtain ⟨hdigit, hbyte, hexponent⟩ := hpoint jvm.separator_mark hne
      exact ⟨Option.isNone_iff_eq_none.mp hdigit, hbyte, hexponent⟩
  · obtain ⟨b, bs, hcons⟩ := List.exists_cons_of_ne_nil
      (String.utf8EncodeChar_ne_nil (c := jvm.decimalSeparator))
    have hge := utf8EncodeChar_ge hbeyond
    rw [hcons] at hge
    exact ⟨b, bs, hcons, fun c hc => mark_of_ge (hge c hc),
      fun _ => endsNumber_of_ge (hge b List.mem_cons_self)⟩

theorem digitChar_bytes {d : Nat} (hd : d < 10) :
    ∀ c ∈ String.utf8EncodeChar (jvm.digitChar d), Mark c := by
  intro c hc
  rcases jvm.digits_uniform with hzero | hbeyond
  · rw [jvm.utf8_digitChar hzero hd] at hc
    rw [List.mem_singleton.mp hc]
    exact mark_of_isDigit (isDigit_digitByte hd)
  · exact mark_of_ge (utf8EncodeChar_ge (hbeyond d hd) c hc)

theorem wireNumeral_bytes (h : Nat) : ∀ c ∈ jvm.wireNumeral h, Mark c := by
  intro c hc
  obtain ⟨b, bs, hsep, hmarks, -⟩ := jvm.separator_bytes
  simp only [wireNumeral, numeral, List.flatMap_append, List.flatMap_cons, List.flatMap_nil,
    List.append_nil, List.mem_append, hsep] at hc
  rcases hc with hc | hc | hc | hc
  · obtain ⟨ch, hch, hc⟩ := List.mem_flatMap.mp hc
    obtain ⟨d, hd, rfl⟩ := List.mem_map.mp hch
    exact jvm.digitChar_bytes (decimalDigits_lt hd) c hc
  · exact hmarks c hc
  · exact jvm.digitChar_bytes (Nat.mod_lt _ (by omega)) c hc
  · exact jvm.digitChar_bytes (Nat.mod_lt _ (by omega)) c hc

theorem wireNumeral_plain (hplain : jvm.Plain) (h : Nat) : jvm.wireNumeral h =
    decimal (h / 100) ++ [46, digitByte (h / 10 % 10), digitByte (h % 10)] := by
  rw [jvm.wireNumeral_ascii hplain.2, hplain.1]
  rfl

/-- A numeral in other signs is not read to its end, or not at all. -/
theorem parseDouble_foreign (hforeign : ¬ jvm.Plain) (h : Nat) :
    parseDouble (jvm.wireNumeral h) = none := by
  have hbytes := jvm.wireNumeral_bytes h
  rcases jvm.digits_uniform with hzero | hbeyond
  · obtain ⟨b, bs, hsep, -, hends⟩ := jvm.separator_bytes
    rw [jvm.wireNumeral_ascii hzero, hsep, List.cons_append] at hbytes ⊢
    obtain ⟨conversion, hread, hrest⟩ := strtod_ended (n := h / 100)
      (hends fun hpoint => hforeign ⟨hpoint, hzero⟩)
      fun c hc => (hbytes c (List.mem_append_right _ hc)).2
    simp only [parseDouble, hread, hrest, ne_eq, not_false_eq_true, or_true, if_true]
  · obtain ⟨d, ds, hdigits⟩ := List.exists_cons_of_ne_nil (decimalDigits_ne_nil (h / 100))
    have hd : d < 10 := decimalDigits_lt (hdigits ▸ List.mem_cons_self)
    obtain ⟨b, bs, hcons⟩ := List.exists_cons_of_ne_nil
      (String.utf8EncodeChar_ne_nil (c := jvm.digitChar d))
    have hb : 128 ≤ b := utf8EncodeChar_ge (hbeyond d hd) b (hcons ▸ List.mem_cons_self)
    have hwire : ∃ rest, jvm.wireNumeral h = b :: rest := by
      simp only [wireNumeral, numeral, hdigits, List.map_cons, List.cons_append, List.flatMap_cons,
        hcons, List.cons.injEq, true_and, exists_eq']
    obtain ⟨rest, hrest⟩ := hwire
    rw [hrest] at hbytes ⊢
    rw [parseDouble, strtod_eq_none hb fun c hc => (hbytes c (List.mem_cons_of_mem b hc)).2]

end Jvm

namespace Platform

def Plain : Platform → Prop
  | python => True
  | java jvm => jvm.Plain

def wireNumber : Platform → Double → Bytes
  | python, value => Binary64.fixed2 value
  | java jvm, value => (jvm.fixed2 value).flatMap String.utf8EncodeChar

theorem encode_fixed2 (p : Platform) (value : Double) :
    UnicodeTexts.encode (p.fixed2 value) = some (p.wireNumber value) := by
  cases p with
  | python => exact encode_ofAscii fun c hc => (fixed2_bytes hc).2
  | java jvm => exact encode_ofChars (jvm.fixed2 value)

section
variable (p : Platform) {u : Nat} (hu : Representable u)

theorem wireNumber_java (jvm : Jvm) : (java jvm).wireNumber (.finite false u hu) =
    jvm.wireNumeral (jvm.hundredths u) := rfl

theorem wireNumber_plain (hplain : p.Plain) : p.wireNumber (.finite false u hu) =
    decimal (p.hundredths u / 100) ++
      [46, digitByte (p.hundredths u / 10 % 10), digitByte (p.hundredths u % 10)] := by
  cases p with
  | python => rfl
  | java jvm => exact jvm.wireNumeral_plain hplain (jvm.hundredths u)

theorem wireNumber_word : WireWord (p.wireNumber (.finite false u hu)) := by
  cases p with
  | python =>
    apply wireWord_of_visible
    · exact List.append_ne_nil_of_right_ne_nil _ (List.cons_ne_nil _ _)
    · intro c hc
      have hc : c ∈ Binary64.fixed2 (.finite false u hu) := hc
      exact UInt8.lt_of_lt_of_le (by decide) (fixed2_bytes hc).1
  | java jvm =>
    rw [wireNumber_java]
    apply wireWord_of_visible
    · obtain ⟨b, bs, hsep, -, -⟩ := jvm.separator_bytes
      simp only [Jvm.wireNumeral, Jvm.numeral, List.flatMap_append, List.flatMap_cons, hsep,
        List.cons_append, ne_eq, List.append_eq_nil_iff, reduceCtorEq, and_false, not_false_eq_true]
    · exact fun c hc => (jvm.wireNumeral_bytes _ c hc).1

theorem wireNumber_length (hh : p.hundredths u < 100000) :
    (p.wireNumber (.finite false u hu)).length ≤ 24 := by
  have hwhole : (decimal (p.hundredths u / 100)).length ≤ 3 := by
    apply decimal_length_le <;> omega
  cases p with
  | python =>
    rw [wireNumber_plain python hu trivial, List.length_append]
    simp only [List.length_cons, List.length_nil]
    omega
  | java jvm =>
    have hfour : ∀ cs : List Char, (cs.flatMap String.utf8EncodeChar).length ≤ 4 * cs.length := by
      intro cs
      induction cs with
      | nil => exact Nat.le_refl 0
      | cons c cs ih =>
        have hc := Char.utf8Size_le_four c
        rw [List.flatMap_cons, List.length_append, String.length_utf8EncodeChar, List.length_cons]
        omega
    have hbytes := hfour (jvm.numeral (jvm.hundredths u))
    have hchars : (jvm.numeral (jvm.hundredths u)).length ≤ 6 := by
      rw [decimal_eq, List.length_map] at hwhole
      simp only [Jvm.numeral, List.length_append, List.length_map, List.length_cons,
        List.length_nil]
      exact Nat.add_le_add_right hwhole 3
    rw [wireNumber_java, Jvm.wireNumeral]
    omega

/-- The server reads a reading exactly when it is written as C writes numbers, and then as the
hundredths it was rounded to. -/
theorem parseDouble_wireNumber (hh : p.hundredths u ≤ 2 ^ 52) :
    (p.Plain → parseDouble (p.wireNumber (.finite false u hu)) =
      some (ofRatio false (p.hundredths u) 100)) ∧
    (¬ p.Plain → parseDouble (p.wireNumber (.finite false u hu)) = none) := by
  constructor
  · intro hplain
    rw [p.wireNumber_plain hu hplain, parseDouble, strtod_hundredths hh]
    simp only [Bool.false_eq_true, ne_eq, not_true_eq_false, or_self, if_false]
  · intro hforeign
    cases p with
    | python => exact absurd trivial hforeign
    | java jvm => exact jvm.parseDouble_foreign hforeign (jvm.hundredths u)

end

end Platform

end IotMonitoring
