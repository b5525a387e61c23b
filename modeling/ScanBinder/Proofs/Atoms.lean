import ScanBinder.Proofs.Tokens

/-!
# Values without parts

Which values are within the limits of the format, what their written forms start with, and how
the ones without parts are read: a value within the limits is read back, a whole real as an
integer and all else as it was, and a number beyond them is not read at all.
-/

namespace ScanBinder.Proofs
open Pdf

mutual

/-- A value that can be told from its written form, as far as it is within the limits: no
dictionary has a key twice, and references have room for their numbers. -/
def Sound : Value → Prop
  | .array vs => SoundItems vs
  | .dict d => SoundEntries d ∧ (d.map Prod.fst).Nodup
  | .ref id => id.number < 4294967296 ∧ id.generation < 65536
  | _ => True

def SoundItems : List Value → Prop
  | [] => True
  | v :: vs => Sound v ∧ SoundItems vs

def SoundEntries : List (Bytes × Value) → Prop
  | [] => True
  | (_, v) :: d => Sound v ∧ SoundEntries d

end

mutual

/-- A value within the limits of the format. -/
def Writable : Value → Prop
  | .int n => -9223372036854775808 ≤ n ∧ n < 9223372036854775808
  | .real x => Readable x
  | .str s => deepest 0 s ≤ nestingLimit
  | .array vs => WritableItems vs
  | .dict d => WritableEntries d
  | _ => True

def WritableItems : List Value → Prop
  | [] => True
  | v :: vs => Writable v ∧ WritableItems vs

def WritableEntries : List (Bytes × Value) → Prop
  | [] => True
  | (_, v) :: d => Writable v ∧ WritableEntries d

end

instance : DecidablePred Readable :=
  fun _ => inferInstanceAs (Decidable (_ ∧ _))

mutual

def decideWritable : (v : Value) → Decidable (Writable v)
  | .null | .bool _ | .name _ | .ref _ => .isTrue trivial
  | .int _ => inferInstanceAs (Decidable (_ ∧ _))
  | .real x => inferInstanceAs (Decidable (Readable x))
  | .str s => inferInstanceAs (Decidable (deepest 0 s ≤ nestingLimit))
  | .array vs => decideWritableItems vs
  | .dict d => decideWritableEntries d

def decideWritableItems : (vs : List Value) → Decidable (WritableItems vs)
  | [] => .isTrue trivial
  | v :: vs => @instDecidableAnd _ _ (decideWritable v) (decideWritableItems vs)

def decideWritableEntries : (d : List (Bytes × Value)) → Decidable (WritableEntries d)
  | [] => .isTrue trivial
  | (_, v) :: d => @instDecidableAnd _ _ (decideWritable v) (decideWritableEntries d)

end

instance : DecidablePred Writable :=
  decideWritable

/-! ## What a value starts with -/

/-- How the written form of a value starts: with a number, with a number and a point, with a
number of a reference, or with a byte that no number starts with, which is an angle bracket only
for a dictionary. -/
lemma bytes_cases (v : Value) :
    (∃ negative cs, v.bytes = numeral negative cs ∧ AllDigits cs ∧ cs ≠ []) ∨
    (∃ negative ws bs, v.bytes = numeral negative ws ++ 0x2E :: bs ∧ AllDigits ws ∧ ws ≠ []) ∨
    (∃ id, v = .ref id) ∨
    ∃ b r, v.bytes = b :: r ∧
      b ∈ [0x6E, 0x74, 0x66, 0x2F, 0x28, 0x5B, 0x3C, 0x4E, 0x69, 0x2D] ∧
      (b = 0x3C → ∃ d, v = .dict d) := by
  cases v with
  | null => exact .inr (.inr (.inr ⟨0x6E, [0x75, 0x6C, 0x6C], rfl, by decide, by simp⟩))
  | bool b =>
    cases b with
    | true => exact .inr (.inr (.inr ⟨0x74, [0x72, 0x75, 0x65], rfl, by decide, by simp⟩))
    | false => exact .inr (.inr (.inr ⟨0x66, [0x61, 0x6C, 0x73, 0x65], rfl, by decide, by simp⟩))
  | int n => exact .inl ⟨_, _, intBytes_eq n, allDigits_toDigits _, Nat.toDigits_ne_nil⟩
  | real x =>
    by_cases h : Readable x
    · rcases real_bytes_cases h with
        ⟨negative, cs, hbytes, hcs, hne, _⟩ | ⟨negative, ws, ps, hbytes, hws, hne, _⟩
      · exact .inl ⟨negative, cs, hbytes, hcs, hne⟩
      · exact .inr (.inl ⟨negative, ws, _, hbytes, hws, hne⟩)
    · rcases unreadable_bytes_cases h with ⟨negative, cs, hbytes, hcs, hne, _⟩ | hword
      · exact .inl ⟨negative, cs, hbytes, hcs, hne⟩
      · simp only [numberWords, List.mem_cons, List.not_mem_nil, or_false] at hword
        rw [Value.bytes]
        rcases hword with hword | hword | hword
        · exact .inr (.inr (.inr ⟨0x4E, _, hword, by decide, by simp⟩))
        · exact .inr (.inr (.inr ⟨0x69, _, hword, by decide, by simp⟩))
        · exact .inr (.inr (.inr ⟨0x2D, _, hword, by decide, by simp⟩))
  | name n => exact .inr (.inr (.inr ⟨0x2F, _, rfl, by decide, by simp⟩))
  | str s => exact .inr (.inr (.inr ⟨0x28, _, rfl, by decide, by simp⟩))
  | array vs => exact .inr (.inr (.inr ⟨0x5B, _, rfl, by decide, by simp⟩))
  | dict d => exact .inr (.inr (.inr ⟨0x3C, _, rfl, by decide, fun _ => ⟨d, rfl⟩⟩))
  | ref id => exact .inr (.inr (.inl ⟨id, rfl⟩))

lemma numeral_head (negative : Bool) {cs : List Char} (h : AllDigits cs) (hne : cs ≠ []) :
    ∃ b r, numeral negative cs = b :: r ∧ (b = 0x2D ∨ (decimalDigit? b).isSome = true) := by
  obtain ⟨b, r, hb, hdigit⟩ := digit_head h hne
  cases negative with
  | true => exact ⟨0x2D, _, rfl, .inl rfl⟩
  | false => exact ⟨b, r, hb, .inr hdigit⟩

/-- The first byte of a value is not white space, not the letter of a reference, not the end of
a list, and an angle bracket only if the value is a dictionary. -/
lemma bytes_head (v : Value) :
    ∃ b r, v.bytes = b :: r ∧ isSpace b = false ∧ b ≠ 0x25 ∧ b ≠ 0x52 ∧ b ≠ 0x5D ∧
      (b = 0x3C → ∃ d, v = .dict d) := by
  have hnumber : ∀ b, b = 0x2D ∨ (decimalDigit? b).isSome = true →
      isSpace b = false ∧ b ≠ 0x25 ∧ b ≠ 0x52 ∧ b ≠ 0x5D ∧ (b = 0x3C → ∃ d, v = .dict d) := by
    rintro b (rfl | hdigit)
    · exact ⟨rfl, by decide, by decide, by decide, by simp⟩
    · obtain ⟨hspace, hcomment⟩ := isSpace_of_digit hdigit
      refine ⟨hspace, hcomment, ?_, ?_, ?_⟩
      all_goals
        rintro rfl
        cases hdigit
  rcases bytes_cases v with ⟨negative, cs, hbytes, hcs, hne⟩ |
    ⟨negative, ws, bs, hbytes, hws, hne⟩ | ⟨id, rfl⟩ | ⟨b, r, hbytes, hb, hdict⟩
  · obtain ⟨b, r, hb, hfirst⟩ := numeral_head negative hcs hne
    exact ⟨b, r, hbytes.trans hb, hnumber b hfirst⟩
  · obtain ⟨b, r, hb, hfirst⟩ := numeral_head negative hws hne
    exact ⟨b, r ++ 0x2E :: bs, by rw [hbytes, hb, List.cons_append], hnumber b hfirst⟩
  · obtain ⟨b, r, hb, hdigit⟩ := natBytes_head id.number
    refine ⟨b, r ++ 0x20 :: (natBytes id.generation ++ [0x20, 0x52]), ?_, hnumber b (.inr hdigit)⟩
    simp [Value.bytes, hb]
  · have hplain : isSpace b = false ∧ b ≠ 0x25 ∧ b ≠ 0x52 ∧ b ≠ 0x5D := by
      simp only [List.mem_cons, List.not_mem_nil, or_false] at hb
      rcases hb with rfl | rfl | rfl | rfl | rfl | rfl | rfl | rfl | rfl | rfl <;> decide
    exact ⟨b, r, hbytes, hplain.1, hplain.2.1, hplain.2.2.1, hplain.2.2.2, hdict⟩

lemma solid_bytes (v : Value) : Solid v.bytes := by
  obtain ⟨b, r, hb, hspace, hcomment, _⟩ := bytes_head v
  exact ⟨b, r, hb, hspace, hcomment⟩

lemma space_bytes (v : Value) (rest : Bytes) :
    space (0x20 :: (v.bytes ++ rest)) = v.bytes ++ rest := by
  rw [space_cons rfl, space_of_solid ((solid_bytes v).append rest)]

/-- A value behind a space may follow a number if its own rest may. -/
lemma clear_value (v : Value) {rest : Bytes} (hclear : Clear rest) :
    Clear (0x20 :: (v.bytes ++ rest)) := by
  refine ⟨⟨0x20, _, rfl, .inl rfl⟩, ?_, ?_⟩
  · obtain ⟨b, r, hb, _, _, hletter, _⟩ := bytes_head v
    rw [space_bytes, hb, List.cons_append, List.head?_cons]
    simpa using hletter
  · intro n bs hn
    rw [space_bytes] at hn
    rcases bytes_cases v with ⟨negative, cs, hbytes, hcs, hne⟩ |
      ⟨negative, ws, bs', hbytes, hws, hne⟩ | ⟨id, rfl⟩ | ⟨b, r, hbytes, hb, _⟩
    · rw [hbytes] at hn
      rw [numeral_cases hcs hne hclear.noDigit hn]
      exact hclear.next
    · have hpoint : Solid (0x2E :: (bs' ++ rest)) := ⟨_, _, rfl, rfl, by decide⟩
      rw [hbytes, List.append_assoc, List.cons_append] at hn
      rw [numeral_cases hws hne (noDigit_cons rfl _) hn, space_of_solid hpoint]
      simp
    · obtain ⟨b, r, hb, hdigit⟩ := natBytes_head id.generation
      have hnumeral : natBytes id.number = numeral false (Nat.toDigits 10 id.number) := rfl
      rw [refBytes_eq, hnumeral] at hn
      rw [numeral_cases (allDigits_toDigits _) Nat.toDigits_ne_nil (noDigit_space _) hn,
        space_cons rfl, space_of_solid ((solid_natBytes _).append _), hb, List.cons_append,
        List.head?_cons]
      rintro ⟨⟩
      cases hdigit
    · have hdigit : decimalDigit? b = none := by
        simp only [List.mem_cons, List.not_mem_nil, or_false] at hb
        rcases hb with rfl | rfl | rfl | rfl | rfl | rfl | rfl | rfl | rfl | rfl <;> rfl
      rw [hbytes, List.cons_append, natural_of_noDigit (noDigit_cons hdigit _)] at hn
      cases hn

/-! ## Values without parts -/

/-- A byte string that does not start with a word. -/
structure NoWord (bs : Bytes) : Prop where
  null : keyword "null" bs = none
  true : keyword "true" bs = none
  false : keyword "false" bs = none

lemma noWord_of_head {b : UInt8} (hnull : b ≠ 0x6E) (htrue : b ≠ 0x74) (hfalse : b ≠ 0x66)
    (bs : Bytes) : NoWord (b :: bs) := by
  have null : Bytes.ofText "null" = [0x6E, 0x75, 0x6C, 0x6C] := rfl
  have true : Bytes.ofText "true" = [0x74, 0x72, 0x75, 0x65] := rfl
  have false : Bytes.ofText "false" = [0x66, 0x61, 0x6C, 0x73, 0x65] := rfl
  exact ⟨keyword_of_ne null hnull.symm bs, keyword_of_ne true htrue.symm bs,
    keyword_of_ne false hfalse.symm bs⟩

lemma noWord_of_digit {b : UInt8} (h : b = 0x2D ∨ (decimalDigit? b).isSome = true) (bs : Bytes) :
    NoWord (b :: bs) := by
  have hne : ∀ a, a ≠ 0x2D → decimalDigit? a = none → b ≠ a := by
    rintro a hminus hdigit rfl
    rcases h with rfl | h
    · exact absurd rfl hminus
    · rw [hdigit] at h
      cases h
  exact noWord_of_head (hne _ (by decide) rfl) (hne _ (by decide) rfl) (hne _ (by decide) rfl) bs

lemma noWord_numeral (negative : Bool) {cs : List Char} (h : AllDigits cs) (hne : cs ≠ [])
    (rest : Bytes) : NoWord (numeral negative cs ++ rest) := by
  obtain ⟨b, r, hb, hfirst⟩ := numeral_head negative h hne
  rw [hb]
  exact noWord_of_digit hfirst _

section
variable {bs rest : Bytes}

/-- What is no word is read as a reference, a real, an integer or a name, in this order. -/
lemma atom_of_noWord (hword : NoWord bs) :
    atom bs = ((reference bs).map fun x => (.ref x.1, x.2)).or
      (((real bs).map fun x => (.real x.1, x.2)).or
        (((integer bs).map fun x => (.int x.1, x.2)).or
          ((name bs).map fun x => (.name x.1, x.2)))) := by
  simp only [atom, hword.null, hword.true, hword.false]
  cases reference bs with
  | some x => rfl
  | none =>
    cases real bs with
    | some x => rfl
    | none =>
      cases integer bs with
      | some x => rfl
      | none => cases name bs <;> rfl

lemma atom_of_reference {id : ObjectId} (hword : NoWord bs) (h : reference bs = some (id, rest)) :
    atom bs = some (.ref id, rest) := by
  rw [atom_of_noWord hword, h]
  rfl

lemma atom_of_real {x : Single} (hword : NoWord bs) (href : reference bs = none)
    (h : real bs = some (x, rest)) : atom bs = some (.real x, rest) := by
  rw [atom_of_noWord hword, href, h]
  rfl

lemma atom_of_integer {n : Int} (hword : NoWord bs) (href : reference bs = none)
    (hreal : real bs = none) (h : integer bs = some (n, rest)) : atom bs = some (.int n, rest) := by
  rw [atom_of_noWord hword, href, hreal, h]
  rfl

lemma atom_of_none (hword : NoWord bs) (href : reference bs = none) (hreal : real bs = none)
    (hint : integer bs = none) (hname : name bs = none) : atom bs = none := by
  rw [atom_of_noWord hword, href, hreal, hint, hname]
  rfl

/-- Where no number starts, the only atom is a name. -/
lemma atom_of_noNumber {b : UInt8} (hword : NoWord (b :: bs)) (hdigit : decimalDigit? b = none)
    (hminus : b ≠ 0x2D) (hplus : b ≠ 0x2B) (hpoint : b ≠ 0x2E) :
    atom (b :: bs) = (name (b :: bs)).map fun x => (.name x.1, x.2) := by
  have hsign : sign (b :: bs) = (false, b :: bs) := by simp [sign, hminus, hplus]
  have hnumerals := takeNumerals_of_noDigit (noDigit_cons hdigit bs)
  have href : reference (b :: bs) = none := by
    apply reference_eq_none
    intro n bs₁ g bs₂ hn
    rw [natural_of_noDigit (noDigit_cons hdigit bs)] at hn
    cases hn
  have hreal : real (b :: bs) = none := by
    simp only [real, hsign, hnumerals]
    split
    · next heq =>
      cases heq
      exact absurd rfl hpoint
    · rfl
  have hint : integer (b :: bs) = none := by simp only [integer, hsign, hnumerals]
  rw [atom_of_noWord hword, href, hreal, hint]
  rfl

lemma atom_of_bracket {b : UInt8} (h : b = 0x28 ∨ b = 0x5B ∨ b = 0x3C) : atom (b :: bs) = none := by
  rcases h with rfl | rfl | rfl
  all_goals
    rw [atom_of_noNumber (noWord_of_head (by decide) (by decide) (by decide) bs) rfl (by decide)
      (by decide) (by decide)]
    rfl

end

lemma name_of_digit {b : UInt8} (h : b = 0x2D ∨ (decimalDigit? b).isSome = true) (bs : Bytes) :
    name (b :: bs) = none := by
  unfold name
  split
  · next heq =>
    cases heq
    rcases h with h | h
    · cases h
    · cases h
  · rfl

/-- A whole number is read if it has room in 64 bits. -/
lemma atom_numeral {negative : Bool} {cs : List Char} {rest : Bytes} (h : AllDigits cs)
    (hne : cs ≠ []) (hclear : Clear rest) :
    atom (numeral negative cs ++ rest) =
      if -9223372036854775808 ≤ numeralValue negative cs ∧
          numeralValue negative cs < 9223372036854775808 then
        some (.int (numeralValue negative cs), rest)
      else none := by
  have hword := noWord_numeral negative h hne rest
  have href : reference (numeral negative cs ++ rest) = none := reference_numeral h hne hclear
  have hreal : real (numeral negative cs ++ rest) = none :=
    real_numeral h hne hclear.noDigit (hclear.head_ne (by decide))
  split_ifs with hroom
  · refine atom_of_integer hword href hreal ?_
    rw [integer_numeral h hne hclear.noDigit, if_pos hroom]
  · have hint : integer (numeral negative cs ++ rest) = none := by
      rw [integer_numeral h hne hclear.noDigit, if_neg hroom]
    obtain ⟨b, r, hb, hfirst⟩ := numeral_head negative h hne
    refine atom_of_none hword href hreal hint ?_
    rw [hb]
    exact name_of_digit hfirst _

/-- A word is not a number. -/
lemma atom_numberWord {w : Bytes} (h : w ∈ numberWords) (rest : Bytes) :
    atom (w ++ rest) = none := by
  simp only [numberWords, List.mem_cons, List.not_mem_nil, or_false] at h
  rcases h with rfl | rfl | rfl
  · exact atom_of_noNumber (noWord_of_head (by decide) (by decide) (by decide) _) rfl (by decide)
      (by decide) (by decide)
  · exact atom_of_noNumber (noWord_of_head (by decide) (by decide) (by decide) _) rfl (by decide)
      (by decide) (by decide)
  · refine atom_of_none (noWord_of_head (by decide) (by decide) (by decide) _)
      (reference_eq_none ?_) rfl rfl rfl
    intro n bs₁ g bs₂ hn
    have hnone := natural_of_noDigit (noDigit_cons (b := 0x2D) rfl ([0x69, 0x6E, 0x66] ++ rest))
      4294967296
    cases hnone.symm.trans hn

section
variable {rest : Bytes} (hclear : Clear rest)

include hclear

lemma atom_int (n : Int) :
    atom ((Value.int n).bytes ++ rest) =
      if -9223372036854775808 ≤ n ∧ n < 9223372036854775808 then some (.int n, rest) else none := by
  have hbytes : (Value.int n).bytes = numeral (decide (n < 0)) (Nat.toDigits 10 n.natAbs) :=
    intBytes_eq n
  rw [hbytes, atom_numeral (allDigits_toDigits _) Nat.toDigits_ne_nil hclear,
    numeralValue_toDigits n]

lemma atom_real_of_unreadable {x : Single} (h : ¬Readable x) :
    atom ((Value.real x).bytes ++ rest) = none := by
  rw [Value.bytes]
  rcases unreadable_bytes_cases h with ⟨negative, cs, hbytes, hcs, hne, hbeyond⟩ | hword
  · rw [hbytes, atom_numeral hcs hne hclear]
    refine if_neg ?_
    unfold numeralValue
    split_ifs <;> omega
  · exact atom_numberWord hword rest

lemma atom_realBytes {x : Single} (h : Readable x) :
    ∃ w, atom ((Value.real x).bytes ++ rest) = some (w, rest) ∧ Kept (.real x) w := by
  rw [Value.bytes]
  rcases real_bytes_cases h with ⟨negative, cs, hbytes, hcs, hne, hsame, hlow, hhigh⟩ |
    ⟨negative, ws, ps, hbytes, hws, hne, hps, hvalue⟩
  · refine ⟨_, ?_, .whole hsame⟩
    rw [hbytes, atom_numeral hcs hne hclear, if_pos ⟨hlow, hhigh⟩]
  · refine ⟨.real x, ?_, .same _⟩
    rw [hbytes, List.append_assoc, List.cons_append]
    refine atom_of_real (noWord_numeral negative hws hne _) (reference_fraction hws hne _) ?_
    rw [real_fraction hws hne hps hclear.noDigit, hvalue]

lemma atom_nameBytes (n : Bytes) : atom ((Value.name n).bytes ++ rest) = some (.name n, rest) := by
  obtain ⟨b, r, rfl, hb⟩ := hclear.ends
  have hregular : isRegular b = false ∧ b ≠ 0x23 := by
    rcases hb with rfl | rfl | rfl <;> decide
  have hname := name_bytes n hregular.1 hregular.2 r
  have hbytes : (Value.name n).bytes ++ b :: r = 0x2F :: (n.flatMap nameByte ++ b :: r) := by
    simp [Value.bytes, nameBytes]
  rw [nameBytes, List.cons_append] at hname
  rw [hbytes, atom_of_noNumber (noWord_of_head (by decide) (by decide) (by decide) _) rfl
    (by decide) (by decide) (by decide), hname]
  rfl

end

lemma atom_ref {id : ObjectId} (h : Sound (.ref id)) (rest : Bytes) :
    atom ((Value.ref id).bytes ++ rest) = some (.ref id, rest) := by
  obtain ⟨b, r, hb, hdigit⟩ := natBytes_head id.number
  refine atom_of_reference ?_ (reference_bytes h.1 h.2 rest)
  rw [refBytes_eq, hb, List.cons_append]
  exact noWord_of_digit (.inr hdigit) _

lemma atom_word (b : Bool) (rest : Bytes) :
    atom ((Value.bool b).bytes ++ rest) = some (.bool b, rest) := by
  cases b with
  | true =>
    have hnull : keyword "null" ((Value.bool true).bytes ++ rest) = none :=
      keyword_of_ne (show Bytes.ofText "null" = [0x6E, 0x75, 0x6C, 0x6C] from rfl) (by decide) _
    have htrue : keyword "true" ((Value.bool true).bytes ++ rest) = some rest :=
      keyword_append "true" rest
    simp only [atom, hnull, htrue]
  | false =>
    have hnull : keyword "null" ((Value.bool false).bytes ++ rest) = none :=
      keyword_of_ne (show Bytes.ofText "null" = [0x6E, 0x75, 0x6C, 0x6C] from rfl) (by decide) _
    have htrue : keyword "true" ((Value.bool false).bytes ++ rest) = none :=
      keyword_of_ne (show Bytes.ofText "true" = [0x74, 0x72, 0x75, 0x65] from rfl) (by decide) _
    have hfalse : keyword "false" ((Value.bool false).bytes ++ rest) = some rest :=
      keyword_append "false" rest
    simp only [atom, hnull, htrue, hfalse]

lemma atom_null (rest : Bytes) : atom (Value.null.bytes ++ rest) = some (.null, rest) := by
  have hnull : keyword "null" (Value.null.bytes ++ rest) = some rest := keyword_append "null" rest
  simp only [atom, hnull]

end ScanBinder.Proofs
