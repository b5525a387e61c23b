import ScanBinder.Pdf.Parse
import ScanBinder.Proofs.DecimalText
import ScanBinder.Proofs.KeptObjects
import ScanBinder.Proofs.PageOrder

/-!
# Tokens are read back

Numbers, references, names and strings come back from their written form, whatever follows them
as long as it does not go on with the token. A number that two tokens follow, of which the second
is the letter of a reference, would be taken for one.
-/

namespace ScanBinder.Proofs
open Pdf

/-! ## Fixed texts and white space -/

lemma expect_append (front rest : Bytes) : expect front (front ++ rest) = some rest := by
  unfold expect
  rw [if_pos (by simp), List.drop_left]

lemma keyword_append (s : String) (rest : Bytes) : keyword s (Bytes.ofText s ++ rest) = some rest :=
  expect_append _ _

lemma keyword_of_ne {s : String} {a b : UInt8} {front : Bytes} (hs : Bytes.ofText s = a :: front)
    (h : a ≠ b) (bs : Bytes) : keyword s (b :: bs) = none := by
  unfold keyword expect
  rw [hs, if_neg (by simp [h])]

/-- A byte string that does not start with white space. -/
def Solid (bs : Bytes) : Prop :=
  ∃ b r, bs = b :: r ∧ isSpace b = false ∧ b ≠ 0x25

lemma space_of_solid {bs : Bytes} (h : Solid bs) : space bs = bs := by
  obtain ⟨b, r, rfl, hb, hcomment⟩ := h
  unfold space
  rw [skipSpace, hb]
  simp [hcomment]

lemma space_cons {b : UInt8} (h : isSpace b = true) (bs : Bytes) : space (b :: bs) = space bs := by
  unfold space
  rw [skipSpace]
  simp [h]

lemma Solid.append {bs : Bytes} (h : Solid bs) (rest : Bytes) : Solid (bs ++ rest) := by
  obtain ⟨b, r, rfl, hb, hcomment⟩ := h
  exact ⟨b, r ++ rest, rfl, hb, hcomment⟩

/-! ## Digits -/

def charByte (c : Char) : UInt8 :=
  UInt8.ofNat c.toNat

lemma natBytes_eq (n : Nat) : natBytes n = (Nat.toDigits 10 n).map charByte := rfl

lemma ofText_ofList {cs : List Char} (h : ∀ c ∈ cs, c.toNat < 128) :
    Bytes.ofText (String.ofList cs) = cs.map charByte := by
  rw [ofText_eq_flatMap, String.toList_ofList]
  induction cs with
  | nil => rfl
  | cons c cs ih =>
    have hc : String.utf8EncodeChar c = [charByte c] :=
      if_pos (Nat.le_of_lt_succ (h c (List.mem_cons_self ..)))
    rw [List.flatMap_cons, hc, ih fun d hd => h d (List.mem_cons_of_mem _ hd)]
    rfl

lemma toNat_of_isDigit {c : Char} (h : c.isDigit = true) : 48 ≤ c.toNat ∧ c.toNat ≤ 57 := by
  unfold Char.isDigit at h
  simp only [Bool.and_eq_true, decide_eq_true_eq] at h
  exact h

lemma decimalDigit?_charByte {c : Char} (h : c.isDigit = true) :
    decimalDigit? (charByte c) = some (c.toNat - 48) := by
  obtain ⟨hlow, hhigh⟩ := toNat_of_isDigit h
  have hbyte : (charByte c).toNat = c.toNat := by
    unfold charByte
    rw [UInt8.toNat_ofNat']
    omega
  unfold decimalDigit?
  rw [if_pos (by simp only [UInt8.le_iff_toNat_le, hbyte]; exact ⟨hlow, hhigh⟩), hbyte]

/-- A byte string that does not start with a digit. -/
def NoDigit (bs : Bytes) : Prop :=
  ∀ b r, bs = b :: r → decimalDigit? b = none

lemma takeNumerals_of_noDigit {bs : Bytes} (h : NoDigit bs) : takeNumerals bs = ([], bs) := by
  cases bs with
  | nil => rfl
  | cons b r => rw [takeNumerals, h b r rfl]

lemma takeNumerals_digits {cs : List Char} (h : AllDigits cs) {rest : Bytes}
    (hrest : NoDigit rest) :
    takeNumerals (cs.map charByte ++ rest) = (cs.map fun c => c.toNat - 48, rest) := by
  induction cs with
  | nil => exact takeNumerals_of_noDigit hrest
  | cons c cs ih =>
    rw [List.map_cons, List.cons_append, takeNumerals,
      decimalDigit?_charByte (h c (List.mem_cons_self ..)),
      ih fun d hd => h d (List.mem_cons_of_mem _ hd)]
    rfl

lemma digitsValue_digits (cs : List Char) :
    digitsValue (cs.map fun c => c.toNat - 48) = Nat.ofDigitChars 10 cs 0 := by
  unfold digitsValue Nat.ofDigitChars
  rw [List.foldl_map]
  simp only [Nat.mul_comm]
  rfl

lemma natural_digits {cs : List Char} (h : AllDigits cs) (hne : cs ≠ []) {rest : Bytes}
    (hrest : NoDigit rest) (limit : Nat) :
    natural limit (cs.map charByte ++ rest) =
      if Nat.ofDigitChars 10 cs 0 < limit then some (Nat.ofDigitChars 10 cs 0, rest) else none := by
  unfold natural
  rw [takeNumerals_digits h hrest]
  cases cs with
  | nil => exact absurd rfl hne
  | cons c cs => simp only [← digitsValue_digits, List.map_cons]

lemma natural_natBytes {n limit : Nat} (h : n < limit) {rest : Bytes} (hrest : NoDigit rest) :
    natural limit (natBytes n ++ rest) = some (n, rest) := by
  rw [natBytes_eq, natural_digits (allDigits_toDigits n) Nat.toDigits_ne_nil hrest,
    Nat.ofDigitChars_ten_toDigits, if_pos h]

lemma natural_of_noDigit {bs : Bytes} (h : NoDigit bs) (limit : Nat) : natural limit bs = none := by
  unfold natural
  rw [takeNumerals_of_noDigit h]

lemma natBytes_length_le {n : Nat} (h : n < 4294967296) : (natBytes n).length ≤ 10 := by
  rw [natBytes_eq, List.length_map, Nat.length_toDigits_le_iff (by decide) (by decide)]
  omega

lemma not_mem_digits {cs : List Char} (h : AllDigits cs) {b : UInt8} (hb : decimalDigit? b = none) :
    b ∉ cs.map charByte := by
  intro hmem
  obtain ⟨c, hc, rfl⟩ := List.mem_map.mp hmem
  rw [decimalDigit?_charByte (h c hc)] at hb
  cases hb

/-! ## Numbers -/

/-- A whole number as it is written: a sign and digits. -/
def numeral (negative : Bool) (cs : List Char) : Bytes :=
  (if negative then [0x2D] else []) ++ cs.map charByte

def numeralValue (negative : Bool) (cs : List Char) : Int :=
  if negative then -(Nat.ofDigitChars 10 cs 0 : Int) else Nat.ofDigitChars 10 cs 0

lemma numeralValue_eq (negative : Bool) (cs : List Char) :
    numeralValue negative cs =
      if negative then -(digitsValue (cs.map fun c => c.toNat - 48) : Int)
      else digitsValue (cs.map fun c => c.toNat - 48) := by
  unfold numeralValue
  rw [digitsValue_digits]

lemma intBytes_eq (n : Int) :
    intBytes n = numeral (decide (n < 0)) (Nat.toDigits 10 n.natAbs) := by
  unfold intBytes numeral
  by_cases h : n < 0
  · simp only [h, if_true, decide_true]
    rfl
  · simp only [h, if_false, decide_false, Bool.false_eq_true]
    rfl

lemma numeralValue_toDigits (n : Int) :
    numeralValue (decide (n < 0)) (Nat.toDigits 10 n.natAbs) = n := by
  unfold numeralValue
  rw [Nat.ofDigitChars_ten_toDigits]
  by_cases h : n < 0
  · simp only [h, decide_true, if_true]
    omega
  · simp only [h, decide_false, Bool.false_eq_true, if_false]
    omega

lemma digit_head {cs : List Char} (h : AllDigits cs) (hne : cs ≠ []) :
    ∃ b r, cs.map charByte = b :: r ∧ (decimalDigit? b).isSome = true := by
  cases cs with
  | nil => exact absurd rfl hne
  | cons c cs =>
    refine ⟨charByte c, cs.map charByte, rfl, ?_⟩
    rw [decimalDigit?_charByte (h c (List.mem_cons_self ..))]
    rfl

lemma natBytes_head (n : Nat) : ∃ b r, natBytes n = b :: r ∧ (decimalDigit? b).isSome = true :=
  digit_head (allDigits_toDigits n) Nat.toDigits_ne_nil

lemma sign_numeral (negative : Bool) {cs : List Char} (h : AllDigits cs) (hne : cs ≠ [])
    (rest : Bytes) : sign (numeral negative cs ++ rest) = (negative, cs.map charByte ++ rest) := by
  obtain ⟨b, r, hb, hdigit⟩ := digit_head h hne
  unfold numeral
  cases negative with
  | true => rfl
  | false =>
    rw [hb]
    have hminus : b ≠ 0x2D := by rintro rfl; simp [decimalDigit?] at hdigit
    have hplus : b ≠ 0x2B := by rintro rfl; simp [decimalDigit?] at hdigit
    simp [sign, hminus, hplus]

section
variable {negative : Bool} {cs ws ps : List Char} {rest : Bytes}

/-- A whole number is read if it has room in 64 bits. -/
lemma integer_numeral (h : AllDigits cs) (hne : cs ≠ []) (hrest : NoDigit rest) :
    integer (numeral negative cs ++ rest) =
      if -9223372036854775808 ≤ numeralValue negative cs ∧
          numeralValue negative cs < 9223372036854775808 then
        some (numeralValue negative cs, rest)
      else none := by
  unfold integer
  rw [sign_numeral negative h hne]
  simp only [takeNumerals_digits h hrest]
  obtain ⟨c, cs, rfl⟩ := List.exists_cons_of_ne_nil hne
  rw [numeralValue_eq, List.map_cons]

lemma integer_natBytes {n : Nat} (h : n < 9223372036854775808) (hrest : NoDigit rest) :
    integer (natBytes n ++ rest) = some ((n : Int), rest) := by
  have hvalue : numeralValue false (Nat.toDigits 10 n) = n := by
    simp [numeralValue, Nat.ofDigitChars_ten_toDigits]
  have hbytes : natBytes n = numeral false (Nat.toDigits 10 n) := natBytes_eq n
  rw [hbytes, integer_numeral (allDigits_toDigits n) Nat.toDigits_ne_nil hrest, hvalue,
    if_pos ⟨by omega, by omega⟩]

lemma real_numeral (h : AllDigits cs) (hne : cs ≠ []) (hrest : NoDigit rest)
    (hpoint : rest.head? ≠ some 0x2E) : real (numeral negative cs ++ rest) = none := by
  unfold real
  rw [sign_numeral negative h hne]
  simp only [takeNumerals_digits h hrest]
  split
  · simp at hpoint
  · rfl

lemma real_fraction (hws : AllDigits ws) (hne : ws ≠ []) (hps : AllDigits ps)
    (hrest : NoDigit rest) :
    real (numeral negative ws ++ 0x2E :: (ps.map charByte ++ rest)) =
      some (Binary.ofDecimal .single negative ⟨Nat.ofDigitChars 10 (ws ++ ps) 0, -ps.length⟩,
        rest) := by
  have hpoint : NoDigit (0x2E :: (ps.map charByte ++ rest)) := by
    rintro b r hb
    cases hb
    rfl
  unfold real
  rw [sign_numeral negative hws hne]
  simp only [takeNumerals_digits hws hpoint, takeNumerals_digits hps hrest]
  cases ws with
  | nil => exact absurd rfl hne
  | cons w ws =>
    rw [← List.map_append, digitsValue_digits]
    simp

end

/-! ## References -/

lemma isSpace_of_digit {b : UInt8} (h : (decimalDigit? b).isSome = true) :
    isSpace b = false ∧ b ≠ 0x25 := by
  have hne : ∀ a, decimalDigit? a = none → b ≠ a := by
    rintro a ha rfl
    rw [ha] at h
    cases h
  refine ⟨?_, hne 0x25 rfl⟩
  simp [isSpace, hne 0x20 rfl, hne 0x09 rfl, hne 0x0A rfl, hne 0x0D rfl, hne 0x00 rfl, hne 0x0C rfl]

lemma solid_digits {cs : List Char} (h : AllDigits cs) (hne : cs ≠ []) :
    Solid (cs.map charByte) := by
  obtain ⟨b, r, hb, hdigit⟩ := digit_head h hne
  exact ⟨b, r, hb, isSpace_of_digit hdigit⟩

lemma solid_natBytes (n : Nat) : Solid (natBytes n) :=
  solid_digits (allDigits_toDigits n) Nat.toDigits_ne_nil

lemma noDigit_cons {b : UInt8} (h : decimalDigit? b = none) (bs : Bytes) : NoDigit (b :: bs) := by
  rintro _ _ ⟨⟩
  exact h

lemma noDigit_space (bs : Bytes) : NoDigit (0x20 :: bs) :=
  noDigit_cons rfl bs

lemma objectId_bytes {id : ObjectId} (hnumber : id.number < 4294967296)
    (hgeneration : id.generation < 65536) (rest : Bytes) :
    objectId (natBytes id.number ++ 0x20 :: (natBytes id.generation ++ 0x20 :: rest)) =
      some (id, space rest) := by
  unfold objectId
  rw [natural_natBytes hnumber (noDigit_space _)]
  simp only [space_cons (b := 0x20) rfl, space_of_solid ((solid_natBytes _).append _),
    natural_natBytes hgeneration (noDigit_space _)]

/-- What may follow a number. The number ends, and no reference is made of it: the letter of a
reference comes neither next nor behind another number. -/
structure Clear (rest : Bytes) : Prop where
  ends : ∃ b r, rest = b :: r ∧ (b = 0x20 ∨ b = 0x0A ∨ b = 0x5D)
  next : (space rest).head? ≠ some 0x52
  after : ∀ n bs, natural 65536 (space rest) = some (n, bs) → (space bs).head? ≠ some 0x52

lemma Clear.noDigit {rest : Bytes} (h : Clear rest) : NoDigit rest := by
  obtain ⟨b, r, rfl, hb⟩ := h.ends
  apply noDigit_cons
  rcases hb with rfl | rfl | rfl <;> rfl

lemma Clear.head_ne {rest : Bytes} (h : Clear rest) {b : UInt8}
    (hb : b ≠ 0x20 ∧ b ≠ 0x0A ∧ b ≠ 0x5D) : rest.head? ≠ some b := by
  obtain ⟨b', r, rfl, hb'⟩ := h.ends
  rw [List.head?_cons, Ne, Option.some.injEq]
  rintro rfl
  tauto

lemma reference_eq_none {bs : Bytes}
    (h : ∀ n bs₁ g bs₂, natural 4294967296 bs = some (n, bs₁) →
      natural 65536 (space bs₁) = some (g, bs₂) → (space bs₂).head? ≠ some 0x52) :
    reference bs = none := by
  unfold reference objectId
  split
  · next id rest hid =>
    split at hid
    · cases hid
    · next n bs₁ hn =>
      split at hid
      · cases hid
      · next g bs₂ hg =>
        have hletter := h n bs₁ g bs₂ hn hg
        simp only [Option.some.injEq, Prod.mk.injEq] at hid
        rw [hid.2] at hletter
        exact absurd rfl hletter
  · rfl

section
variable {negative : Bool} {cs ws ps : List Char} {rest : Bytes}

lemma numeral_cases (h : AllDigits cs) (hne : cs ≠ []) (hrest : NoDigit rest) {limit n : Nat}
    {bs : Bytes} (hn : natural limit (numeral negative cs ++ rest) = some (n, bs)) : bs = rest := by
  cases negative with
  | true =>
    have hnone : natural limit (numeral true cs ++ rest) = none :=
      natural_of_noDigit (noDigit_cons rfl _) _
    rw [hnone] at hn
    cases hn
  | false =>
    have heq : numeral false cs ++ rest = cs.map charByte ++ rest := rfl
    rw [heq, natural_digits h hne hrest] at hn
    split_ifs at hn
    cases hn
    rfl

lemma reference_numeral (h : AllDigits cs) (hne : cs ≠ []) (hclear : Clear rest) :
    reference (numeral negative cs ++ rest) = none := by
  apply reference_eq_none
  intro n bs₁ g bs₂ hn hg
  rw [numeral_cases h hne hclear.noDigit hn] at hg
  exact hclear.after g bs₂ hg

lemma reference_fraction (hws : AllDigits ws) (hne : ws ≠ []) (bs : Bytes) :
    reference (numeral negative ws ++ 0x2E :: bs) = none := by
  apply reference_eq_none
  intro n bs₁ g bs₂ hn hg
  have hpoint : space (0x2E :: bs) = 0x2E :: bs := space_of_solid ⟨_, _, rfl, rfl, by decide⟩
  rw [numeral_cases hws hne (noDigit_cons rfl _) hn, hpoint,
    natural_of_noDigit (noDigit_cons rfl _)] at hg
  cases hg

end

lemma refBytes_eq (id : ObjectId) (rest : Bytes) :
    (Value.ref id).bytes ++ rest =
      natBytes id.number ++ 0x20 :: (natBytes id.generation ++ 0x20 :: 0x52 :: rest) := by
  simp [Value.bytes]

lemma reference_bytes {id : ObjectId} (hnumber : id.number < 4294967296)
    (hgeneration : id.generation < 65536) (rest : Bytes) :
    reference ((Value.ref id).bytes ++ rest) = some (id, rest) := by
  have hletter : space (0x52 :: rest) = 0x52 :: rest := space_of_solid ⟨_, _, rfl, rfl, by decide⟩
  unfold reference
  simp only [refBytes_eq, objectId_bytes hnumber hgeneration, hletter]

/-! ## Reals -/

/-- A real that can be read back: it is finite and, as it is written without a point if it is
large, not beyond the integers of 64 bits. -/
def Readable (x : Single) : Prop :=
  x.isFinite = true ∧ x.units ≤ 2 ^ 63 * 2 ^ 149

lemma AllDigits.toNat_lt {cs : List Char} (h : AllDigits cs) : ∀ c ∈ cs, c.toNat < 128 := by
  intro c hc
  have := (toNat_of_isDigit (h c hc)).2
  omega

lemma ofText_sign (negative : Bool) :
    Bytes.ofText (if negative then "-" else "") = if negative then [0x2D] else [] := by
  cases negative <;> rfl

/-- What rounds to a number below a power of two is below it too. -/
lemma whole_lt {x : Single} (h : x.units < 2 ^ 63 * 2 ^ 149) (hpos : 0 < x.magnitude)
    {d : Decimal} (hd : Denotes d x) (hden : d.ratio.2 = 1) : d.ratio.1 < 2 ^ 63 := by
  have hhigh : 4 * (d.ratio.1 * 2 ^ 149) ≤ (4 * x.significand + 2) * 2 ^ x.step := by
    obtain ⟨_, hhigh, _⟩ := contains_bounds hd
    rw [hden, Nat.mul_one] at hhigh
    exact hhigh
  have hunits : x.significand * 2 ^ x.step < 2 ^ 212 := h
  have hm := significand_pos hpos
  have hstep : x.step ≤ 212 := by
    by_contra hlarge
    have hpow : 2 ^ 212 ≤ 2 ^ x.step := Nat.pow_le_pow_right (by omega) (by omega)
    have := Nat.mul_le_mul hm hpow
    omega
  have hsplit : 2 ^ 212 = 2 ^ (212 - x.step) * 2 ^ x.step := by
    rw [← Nat.pow_add, Nat.sub_add_cancel hstep]
  rw [hsplit] at hunits
  have hlt : x.significand < 2 ^ (212 - x.step) := Nat.lt_of_mul_lt_mul_right hunits
  have hnext : (x.significand + 1) * 2 ^ x.step ≤ 2 ^ 212 := by
    rw [hsplit]
    exact Nat.mul_le_mul_right _ hlt
  have htwo : 0 < 2 ^ x.step := Nat.two_pow_pos _
  nlinarith

/-- What rounds to a number above a power of two is above it too. -/
lemma lt_whole {x : Single} (h : 2 ^ 63 * 2 ^ 149 < x.units) {d : Decimal} (hd : Denotes d x)
    (hden : d.ratio.2 = 1) : 2 ^ 63 < d.ratio.1 := by
  have hunits : 2 ^ 212 < x.significand * 2 ^ x.step := h
  have hlow : (4 * x.significand - 2) * 2 ^ x.step ≤ 4 * (d.ratio.1 * 2 ^ 149) := by
    obtain ⟨hlow, _, _⟩ := contains_bounds hd
    rw [hden, Nat.mul_one] at hlow
    refine Nat.le_trans (Nat.mul_le_mul_right _ ?_) hlow
    split_ifs <;> omega
  have hm : x.significand < 2 ^ 24 := significand_lt x
  have hstep : 189 ≤ x.step := by
    by_contra hsmall
    have hpow : 2 ^ x.step ≤ 2 ^ 188 := Nat.pow_le_pow_right (by omega) (by omega)
    have hle := Nat.mul_le_mul (Nat.le_of_lt hm) hpow
    omega
  have hnormal : 2 ^ 23 ≤ x.significand := (significand_ge x).resolve_left (by omega)
  obtain ⟨k, hk⟩ := Nat.exists_eq_add_of_le hstep
  have hsplit : 2 ^ x.step = 2 ^ 189 * 2 ^ k := by rw [hk, Nat.pow_add]
  rw [hsplit] at hunits hlow
  -- Either the number is not the power of two itself, or it has a higher exponent.
  have habove : 2 ^ 25 < (4 * x.significand - 2) * 2 ^ k := by
    cases k with
    | zero => omega
    | succ k =>
      have hpow : 2 ≤ 2 ^ (k + 1) := Nat.le_self_pow (by omega) 2
      have hle := Nat.mul_le_mul_left (4 * x.significand - 2) hpow
      omega
  have hscale : (4 * x.significand - 2) * (2 ^ 189 * 2 ^ k) =
      2 ^ 189 * ((4 * x.significand - 2) * 2 ^ k) := by ring
  omega

/-- A real that is written as a whole number of the same value. -/
def WrittenWhole (x : Single) : Prop :=
  ∃ negative cs, Bytes.ofText x.text = numeral negative cs ∧ AllDigits cs ∧ cs ≠ [] ∧
    SameNumber (.ofInt .single (numeralValue negative cs)) x ∧
    -9223372036854775808 ≤ numeralValue negative cs ∧
    numeralValue negative cs < 9223372036854775808

/-- A real that is written with a point, as a decimal that is rounded to it. -/
def WrittenFraction (x : Single) : Prop :=
  ∃ negative ws ps, Bytes.ofText x.text = numeral negative ws ++ 0x2E :: ps.map charByte ∧
    AllDigits ws ∧ ws ≠ [] ∧ AllDigits ps ∧
    Binary.ofDecimal .single negative ⟨Nat.ofDigitChars 10 (ws ++ ps) 0, -ps.length⟩ = x

/-- A real that is written as a whole number beyond those of 64 bits. -/
def WrittenBeyond (x : Single) : Prop :=
  ∃ negative cs, Bytes.ofText x.text = numeral negative cs ∧ AllDigits cs ∧ cs ≠ [] ∧
    2 ^ 63 < Nat.ofDigitChars 10 cs 0

lemma writtenWhole_of_zero {x : Single} (hzero : x.magnitude = 0) : WrittenWhole x := by
  refine ⟨x.negative, ['0'], ?_, by simp [AllDigits], by simp, .inr ?_, ?_, ?_⟩
  · obtain ⟨negative, magnitude⟩ := x
    cases hzero
    cases negative <;> rfl
  · refine ⟨?_, decide_eq_true hzero⟩
    cases x.negative <;> rfl
  · cases x.negative <;> decide
  · cases x.negative <;> decide

/-- The number next to the last integer of 64 bits is written as an integer below it. -/
lemma writtenWhole_of_edge {x : Single} (hfinite : x.isFinite = true)
    (h : x.units = 2 ^ 63 * 2 ^ 149) : WrittenWhole x := by
  have hmagnitude : x.magnitude = 1593835520 := by
    rw [← nearest_units hfinite, h]
    decide
  obtain ⟨negative, magnitude⟩ := x
  cases hmagnitude
  refine ⟨negative, "9223372000000000000".toList, ?_, List.all_eq_true.mp (by decide), by decide,
    .inl ?_, ?_, ?_⟩
  all_goals cases negative <;> decide

section
variable {x : Single} (hfinite : x.isFinite = true) (hpos : 0 < x.magnitude) {d : Decimal}
  (hd : Denotes d x) (htext : x.text = (if x.negative then "-" else "") ++ d.text)
include hfinite hpos hd htext

lemma writtenWhole_of_denotes (h : x.units < 2 ^ 63 * 2 ^ 149) (he : 0 ≤ d.exponent) :
    WrittenWhole x := by
  obtain ⟨cs, hcs, hne, hdigits, hvalue, hden⟩ := text_of_whole he
  have hbound := whole_lt h hpos hd hden
  have hnearest := nearest_of_denotes hfinite hpos hd
  rw [hden] at hnearest
  have hnum : 0 < d.ratio.1 := Nat.mul_pos (coefficient_pos hpos hd) (Nat.pow_pos (by omega))
  refine ⟨x.negative, cs, ?_, hdigits, hne, .inl ?_, ?_, ?_⟩
  · rw [htext, ofText_append, hcs, ofText_sign, ofText_ofList hdigits.toNat_lt, numeral]
  · unfold numeralValue Binary.ofInt Binary.ofRatio
    rw [hvalue]
    clear htext
    obtain ⟨negative, magnitude⟩ := x
    cases negative with
    | true => simp [hnum, hnearest]
    | false => simp [hnearest]
  · unfold numeralValue
    rw [hvalue]
    split_ifs <;> omega
  · unfold numeralValue
    rw [hvalue]
    split_ifs <;> omega

lemma writtenFraction_of_denotes (he : d.exponent < 0) : WrittenFraction x := by
  obtain ⟨ws, ps, hcs, hne, hws, hps, hlen, hvalue⟩ := text_of_fraction he
  refine ⟨x.negative, ws, ps, ?_, hws, hne, hps, ?_⟩
  · have hascii : ∀ c ∈ ws ++ '.' :: ps, c.toNat < 128 := by
      intro c hmem
      rcases List.mem_append.mp hmem with hmem | hmem
      · exact hws.toNat_lt c hmem
      · rcases List.mem_cons.mp hmem with rfl | hmem
        · decide
        · exact hps.toNat_lt c hmem
    rw [htext, ofText_append, hcs, ofText_sign, ofText_ofList hascii, numeral, List.map_append,
      List.map_cons, List.append_assoc]
    rfl
  · have hsame : (⟨Nat.ofDigitChars 10 (ws ++ ps) 0, -ps.length⟩ : Decimal) = d := by
      rw [hvalue, hlen, Int.neg_neg]
    rw [hsame]
    exact ofDecimal_of_denotes hfinite hpos hd

end

/-- A readable real is written as a whole number or with a point. Either way it is read as a
number of the same value. -/
theorem real_bytes_cases {x : Single} (h : Readable x) : WrittenWhole x ∨ WrittenFraction x := by
  by_cases hpos : 0 < x.magnitude
  · obtain ⟨d, hd, htext, hwhole⟩ := text_of_finite h.1 hpos
    rcases Nat.lt_or_eq_of_le h.2 with hlt | hedge
    · by_cases he : 0 ≤ d.exponent
      · exact .inl (writtenWhole_of_denotes h.1 hpos hd htext hlt he)
      · exact .inr (writtenFraction_of_denotes h.1 hpos hd htext (by omega))
    · exact .inl (writtenWhole_of_edge h.1 hedge)
  · exact .inl (writtenWhole_of_zero (by omega))

lemma writtenBeyond_of_denotes {x : Single} (h : 2 ^ 63 * 2 ^ 149 < x.units) {d : Decimal}
    (hd : Denotes d x) (htext : x.text = (if x.negative then "-" else "") ++ d.text)
    (he : 0 ≤ d.exponent) : WrittenBeyond x := by
  obtain ⟨cs, hcs, hne, hdigits, hvalue, hden⟩ := text_of_whole he
  refine ⟨x.negative, cs, ?_, hdigits, hne, ?_⟩
  · rw [htext, ofText_append, hcs, ofText_sign, ofText_ofList hdigits.toNat_lt, numeral]
  · rw [hvalue]
    exact lt_whole h hd hden

/-- What is written for a number that is not finite. -/
def numberWords : List Bytes :=
  [Bytes.ofText "NaN", Bytes.ofText "inf", Bytes.ofText "-inf"]

/-- A real that cannot be read back is written as a word, or as an integer of more than 64
bits. -/
theorem unreadable_bytes_cases {x : Single} (h : ¬Readable x) :
    WrittenBeyond x ∨ Bytes.ofText x.text ∈ numberWords := by
  by_cases hfinite : x.isFinite = true
  · have hbeyond : 2 ^ 63 * 2 ^ 149 < x.units := by
      by_contra hle
      exact h ⟨hfinite, Nat.le_of_not_lt hle⟩
    have hpos : 0 < x.magnitude := by
      have hzero := units_pos.mp (Nat.zero_lt_of_lt hbeyond)
      exact Nat.pos_of_ne_zero (of_decide_eq_false hzero)
    obtain ⟨d, hd, htext, hwhole⟩ := text_of_finite hfinite hpos
    exact .inl (writtenBeyond_of_denotes hbeyond hd htext (hwhole (Nat.le_of_lt hbeyond)))
  · refine .inr ?_
    have hmag : ¬x.magnitude < BinaryFormat.single.infinity :=
      fun hlt => hfinite (decide_eq_true hlt)
    unfold Binary.text
    by_cases hnan : x.isNaN = true
    · rw [if_pos hnan]
      decide
    · have hinfinite : x.isInfinite = true := by
        have hle : ¬BinaryFormat.single.infinity < x.magnitude :=
          fun hlt => hnan (decide_eq_true hlt)
        exact decide_eq_true (by omega)
      rw [if_neg hnan, if_pos hinfinite]
      cases x.negative <;> decide

/-! ## Names -/

lemma hexValue?_hexDigit {n : Nat} (h : n < 16) : hexValue? (hexDigit n) = some n := by
  revert n
  decide

/-- A name ends before white space and delimiters. -/
lemma nameChars_of_end {b : UInt8} (h : isRegular b = false) (hnumber : b ≠ 0x23) (bs : Bytes) :
    nameChars (b :: bs) = ([], b :: bs) := by
  unfold nameChars
  split
  · next heq =>
    cases heq
    exact absurd rfl hnumber
  · next heq =>
    cases heq
    simp [h]
  · next heq => cases heq

lemma nameChars_regular {b : UInt8} (h : isRegular b = true) (bs : Bytes) :
    nameChars (b :: bs) = (b :: (nameChars bs).1, (nameChars bs).2) := by
  have hnumber : b ≠ 0x23 := by
    rintro rfl
    cases h
  rw [nameChars]
  · simp [h]
  · rintro h' l bs' ⟨⟩ _
    exact absurd rfl hnumber

lemma nameChars_escaped (b : UInt8) (bs : Bytes) :
    nameChars (0x23 :: hexDigit (b.toNat / 16) :: hexDigit (b.toNat % 16) :: bs) =
      (b :: (nameChars bs).1, (nameChars bs).2) := by
  have hlt := b.toNat_lt
  have hbyte : UInt8.ofNat (16 * (b.toNat / 16) + b.toNat % 16) = b := by
    rw [Nat.div_add_mod]
    exact UInt8.ofNat_toNat
  rw [nameChars, hexValue?_hexDigit (by omega), hexValue?_hexDigit (by omega)]
  simp only [hbyte]

/-- A name is read back. -/
lemma name_bytes (n : Bytes) {b : UInt8} (h : isRegular b = false) (hnumber : b ≠ 0x23)
    (bs : Bytes) :
    name (nameBytes n ++ b :: bs) = some (n, b :: bs) := by
  have hchars : nameChars (n.flatMap nameByte ++ b :: bs) = (n, b :: bs) := by
    induction n with
    | nil => exact nameChars_of_end h hnumber bs
    | cons c n ih =>
      rw [List.flatMap_cons, List.append_assoc, nameByte]
      split_ifs with hplain
      · rw [Bool.and_eq_true, Bool.and_eq_true] at hplain
        rw [List.cons_append, List.nil_append, nameChars_regular hplain.1.1, ih]
      · rw [List.cons_append, List.cons_append, List.cons_append, List.nil_append,
          nameChars_escaped, ih]
  unfold nameBytes
  rw [List.cons_append, name, hchars]

/-! ## Strings -/

/-- How many parentheses are open at once, at most, if `opened` are at the start. One that is
never closed does not count. -/
def deepest (opened : Nat) : Bytes → Nat
  | [] => opened
  | b :: bs =>
    max opened (if b = 0x28 then deepest (if (markOpening bs).2 = 0 then opened else opened + 1) bs
      else if b = 0x29 then deepest (opened - 1) bs
      else deepest opened bs)

lemma le_deepest (opened : Nat) (s : Bytes) : opened ≤ deepest opened s := by
  cases s with
  | nil => exact Nat.le_refl _
  | cons b bs => exact Nat.le_max_left _ _

/-- The bytes of a string behind `opened` parentheses that are still open. -/
def innerBytes (opened : Nat) (s : Bytes) : Bytes :=
  (List.zipWith stringByte s (escapeMarks opened s (markOpening s).1)).flatten

/-- How many parentheses are open behind a byte. -/
def openedAfter (opened : Nat) (b : UInt8) (bs : Bytes) : Nat :=
  if b = 0x28 then if (markOpening bs).2 = 0 then opened else opened + 1
  else if b = 0x29 then opened - 1
  else opened

/-- Whether a byte of a string is written behind a backslash. -/
def isEscaped (opened : Nat) (b : UInt8) (bs : Bytes) : Bool :=
  if b = 0x28 then (markOpening bs).2 = 0
  else if b = 0x29 then opened = 0
  else b = 0x5C || b = 0x0D

section
variable (opened : Nat) (b : UInt8) (bs rest done : Bytes)

lemma deepest_cons :
    deepest opened (b :: bs) = max opened (deepest (openedAfter opened b bs) bs) := by
  rw [deepest, openedAfter]
  split_ifs <;> rfl

lemma innerBytes_cons : innerBytes opened (b :: bs) =
    stringByte b (isEscaped opened b bs) ++ innerBytes (openedAfter opened b bs) bs := by
  unfold innerBytes isEscaped openedAfter
  by_cases hopen : b = 0x28
  · subst hopen
    by_cases hlast : (markOpening bs).2 = 0 <;> simp [markOpening, escapeMarks, hlast]
  · by_cases hclose : b = 0x29
    · subst hclose
      simp [markOpening, escapeMarks]
    · simp [markOpening, escapeMarks, hopen, hclose]

lemma literal_escaped {c : UInt8} (hline : isLineEnd c = false) (hoctal : octalDigit? c = none) :
    literal opened done (0x5C :: c :: rest) = literal opened (escaped c :: done) rest := by
  have hreturn : c ≠ 0x0D := by
    rintro rfl
    cases hline
  rw [literal.eq_def]
  simp [hline, hoctal, hreturn]

lemma literal_cons {b : UInt8} (h : b ≠ 0x5C) : literal opened done (b :: rest) =
    if b = 0x29 then
      if opened = 0 then some (done.reverse, rest) else literal (opened - 1) (b :: done) rest
    else if b = 0x28 then
      if nestingLimit ≤ opened then none else literal (opened + 1) (b :: done) rest
    else literal opened (b :: done) rest := by
  rw [literal.eq_def]
  cases opened <;> simp

/-- A byte behind a backslash is taken as it is. -/
lemma literal_of_isEscaped {opened : Nat} {b : UInt8} {bs : Bytes}
    (h : isEscaped opened b bs = true) (done rest : Bytes) :
    openedAfter opened b bs = opened ∧
      literal opened done (stringByte b true ++ rest) = literal opened (b :: done) rest := by
  unfold isEscaped at h
  unfold openedAfter
  split_ifs at h ⊢ with hopen hlast hclose
  · subst hopen
    exact ⟨rfl, literal_escaped _ _ _ rfl rfl⟩
  · exact absurd (of_decide_eq_true h) hlast
  · subst hclose
    refine ⟨?_, literal_escaped _ _ _ rfl rfl⟩
    rw [of_decide_eq_true h]
  · rw [Bool.or_eq_true, decide_eq_true_eq, decide_eq_true_eq] at h
    rcases h with rfl | rfl
    · exact ⟨rfl, literal_escaped _ _ _ rfl rfl⟩
    · exact ⟨rfl, literal_escaped _ _ _ rfl rfl⟩

/-- The reader is in step with the writer, up to the first parenthesis that is too deep. -/
lemma literal_innerBytes_cons {opened : Nat} (h : opened ≤ nestingLimit) (b : UInt8)
    (bs done rest : Bytes) :
    literal opened done (innerBytes opened (b :: bs) ++ rest) =
      if openedAfter opened b bs ≤ nestingLimit then
        literal (openedAfter opened b bs) (b :: done)
          (innerBytes (openedAfter opened b bs) bs ++ rest)
      else none := by
  rw [innerBytes_cons, List.append_assoc]
  cases hescaped : isEscaped opened b bs with
  | true =>
    obtain ⟨hsame, hread⟩ := literal_of_isEscaped hescaped done (innerBytes opened bs ++ rest)
    rw [hsame, hread, if_pos h]
  | false =>
    unfold isEscaped at hescaped
    have hslash : b ≠ 0x5C := by
      rintro rfl
      cases hescaped
    rw [stringByte, if_neg Bool.false_ne_true, List.singleton_append, literal_cons _ _ _ hslash]
    unfold openedAfter
    by_cases hopen : b = 0x28
    · rw [if_pos hopen, decide_eq_false_iff_not] at hescaped
      subst hopen
      rw [if_neg (by decide), if_pos rfl, if_pos rfl, if_neg hescaped]
      by_cases hroom : opened + 1 ≤ nestingLimit
      · rw [if_pos hroom, if_neg (Nat.not_le.mpr hroom)]
      · rw [if_neg hroom, if_pos (by omega)]
    · by_cases hclose : b = 0x29
      · rw [if_neg hopen, if_pos hclose, decide_eq_false_iff_not] at hescaped
        have hless : opened - 1 ≤ nestingLimit := Nat.le_trans (Nat.sub_le _ _) h
        simp [hclose, hescaped, hless]
      · simp [hopen, hclose, h]

/-- The parentheses that are open are matched by closing ones still to come. -/
lemma openedAfter_le {opened : Nat} {b : UInt8} {bs : Bytes}
    (h : opened ≤ (markOpening (b :: bs)).2) : openedAfter opened b bs ≤ (markOpening bs).2 := by
  unfold openedAfter
  by_cases hopen : b = 0x28
  · by_cases hlast : (markOpening bs).2 = 0
    · simpa [markOpening, hopen, hlast] using h
    · have hwait : opened ≤ (markOpening bs).2 - 1 := by simpa [markOpening, hopen, hlast] using h
      rw [if_pos hopen, if_neg hlast]
      omega
  · by_cases hclose : b = 0x29
    · simpa [markOpening, hclose] using h
    · simpa [markOpening, hopen, hclose] using h

end

/-- A string is read back unless its parentheses are nested too deep. -/
theorem literal_innerBytes {s : Bytes} {opened : Nat} (h : opened ≤ (markOpening s).2)
    (hlimit : opened ≤ nestingLimit) (done rest : Bytes) :
    literal opened done (innerBytes opened s ++ 0x29 :: rest) =
      if deepest opened s ≤ nestingLimit then some (done.reverse ++ s, rest) else none := by
  induction s generalizing opened done with
  | nil =>
    obtain rfl : opened = 0 := Nat.le_zero.mp h
    rw [List.append_nil, deepest, if_pos hlimit]
    exact literal_cons _ _ _ (by decide)
  | cons b bs ih =>
    rw [literal_innerBytes_cons hlimit, deepest_cons]
    by_cases hafter : openedAfter opened b bs ≤ nestingLimit
    · rw [if_pos hafter, ih (openedAfter_le h) hafter]
      simp [hlimit]
    · have hdeep := le_deepest (openedAfter opened b bs) bs
      rw [if_neg hafter, if_neg (by omega)]

lemma stringBytes_append (s rest : Bytes) :
    stringBytes s ++ rest = 0x28 :: (innerBytes 0 s ++ 0x29 :: rest) := by
  simp [stringBytes, innerBytes]

lemma literal_stringBytes (s rest : Bytes) :
    literal 0 [] (innerBytes 0 s ++ 0x29 :: rest) =
      if deepest 0 s ≤ nestingLimit then some (s, rest) else none :=
  literal_innerBytes (Nat.zero_le _) (Nat.zero_le _) [] rest

end ScanBinder.Proofs
