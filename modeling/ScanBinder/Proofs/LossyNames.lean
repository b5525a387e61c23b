import ScanBinder.Proofs.PageNumbers
import ScanBinder.Scan

/-!
# Keys of names that are not text

A file name is a byte string, and the name shown for it has a replacement character wherever the
bytes are no text. No sequence of several bytes has an ASCII byte in it, and no such sequence is
shown as an ASCII character. So the name shown falls apart at an ASCII character exactly where the
bytes do, and the groups of digits are the same in both.
-/

namespace ScanBinder.Proofs
open Bytes

/-! ## ASCII bytes in a byte string -/

lemma followers_of_ascii {b : UInt8} (hb : b.toNat < 128) : followers b = 0 := by
  unfold followers
  simp only [UInt8.le_iff_toNat_le, UInt8.reduceToNat, Bool.and_eq_true, decide_eq_true_eq]
  rw [if_neg (by omega), if_neg (by omega), if_neg (by omega)]

lemma isContinuation_of_ascii {b : UInt8} (hb : b.toNat < 128) : isContinuation b = false := by
  unfold isContinuation
  simp only [UInt8.le_iff_toNat_le, UInt8.reduceToNat, Bool.and_eq_false_iff,
    decide_eq_false_iff_not]
  omega

lemma mayFollow_of_ascii (lead : UInt8) {b : UInt8} (hb : b.toNat < 128) :
    mayFollow lead b = false := by
  unfold mayFollow
  rw [isContinuation_of_ascii hb]
  simp only [UInt8.le_iff_toNat_le, UInt8.reduceToNat]
  split_ifs <;> simp <;> omega

lemma takeWhile_take_append {b : UInt8} (hb : isContinuation b = false) (rest back : Bytes)
    (k : Nat) : ((rest ++ b :: back).take k).takeWhile isContinuation =
      (rest.take k).takeWhile isContinuation := by
  induction rest generalizing k with
  | nil =>
    cases k with
    | zero => rfl
    | succ k => simp [hb]
  | cons c rest ih =>
    cases k with
    | zero => rfl
    | succ k => simp only [List.cons_append, List.take_succ_cons, List.takeWhile_cons, ih]

/-- What belongs to a lead byte ends before the next ASCII byte. -/
lemma tail_append (lead : UInt8) {b : UInt8} (hb : b.toNat < 128) (rest back : Bytes) :
    tail lead (rest ++ b :: back) = tail lead rest := by
  cases rest with
  | nil => simp [tail, mayFollow_of_ascii lead hb]
  | cons c rest =>
    simp only [List.cons_append, tail, takeWhile_take_append (isContinuation_of_ascii hb)]

lemma tail_isInitial (lead : UInt8) (rest : Bytes) : tail lead rest <+: rest := by
  cases rest with
  | nil => exact List.prefix_refl _
  | cons c rest =>
    rw [tail]
    split_ifs
    · exact (List.prefix_cons_inj c).mpr
        ((List.takeWhile_prefix _).trans (List.take_prefix _ _))
    · exact List.nil_prefix

lemma chars_cons_ascii {b : UInt8} (hb : b.toNat < 128) (rest : Bytes) :
    chars (b :: rest) = Char.ofNat b.toNat :: chars rest := by
  have htail : tail b rest = [] := by
    cases rest with
    | nil => rfl
    | cons c rest => simp [tail, followers_of_ascii hb]
  have hchar : charOf b [] = Char.ofNat b.toNat := if_pos (UInt8.lt_iff_toNat_lt.mpr hb)
  rw [chars, htail, hchar]
  rfl

/-- A byte string is read in two parts around an ASCII byte. -/
theorem chars_append_ascii {b : UInt8} (hb : b.toNat < 128) (front back : Bytes) :
    chars (front ++ b :: back) = chars front ++ Char.ofNat b.toNat :: chars back := by
  induction front using chars.induct with
  | case1 => rw [List.nil_append, chars_cons_ascii hb, chars, List.nil_append]
  | case2 lead rest ih =>
    have hlength := (tail_isInitial lead rest).length_le
    rw [List.cons_append, chars, tail_append lead hb, List.drop_append_of_le_length hlength, ih,
      chars, List.cons_append]

/-! ## ASCII characters in the name shown -/

/-- The second byte of a sequence excludes overlong forms, surrogates and what is too large. -/
lemma mayFollow_bounds {lead b : UInt8} (h : mayFollow lead b = true) :
    128 ≤ b.toNat ∧ b.toNat ≤ 191 ∧ (lead.toNat = 0xE0 → 160 ≤ b.toNat) ∧
      (lead.toNat = 0xED → b.toNat ≤ 159) ∧ (lead.toNat = 0xF0 → 144 ≤ b.toNat) ∧
      (lead.toNat = 0xF4 → b.toNat ≤ 143) := by
  unfold mayFollow isContinuation at h
  simp only [beq_iff_eq, ← UInt8.toNat_inj, UInt8.le_iff_toNat_le, UInt8.reduceToNat] at h
  split_ifs at h <;> simp only [Bool.and_eq_true, decide_eq_true_eq] at h <;> omega

lemma followers_bounds (lead : UInt8) : followers lead = 0 ∨
    (followers lead = 1 ∧ 0xC2 ≤ lead.toNat ∧ lead.toNat ≤ 0xDF) ∨
    (followers lead = 2 ∧ 0xE0 ≤ lead.toNat ∧ lead.toNat ≤ 0xEF) ∨
    (followers lead = 3 ∧ 0xF0 ≤ lead.toNat ∧ lead.toNat ≤ 0xF4) := by
  unfold followers
  simp only [UInt8.le_iff_toNat_le, UInt8.reduceToNat, Bool.and_eq_true, decide_eq_true_eq]
  split_ifs <;> omega

/-- The number of a whole sequence is that of a character beyond ASCII. -/
lemma sequence_bounds {lead b : UInt8} {more : Bytes} (h : mayFollow lead b = true)
    (hlength : (b :: more).length = followers lead) :
    let n := (b :: more).foldl (fun n b => n * 64 + b.toNat % 64) (leadBits lead)
    n.isValidChar ∧ 128 ≤ n := by
  have hb := mayFollow_bounds h
  unfold Nat.isValidChar
  rcases followers_bounds lead with hf | ⟨hf, hlead⟩ | ⟨hf, hlead⟩ | ⟨hf, hlead⟩
  · rw [hf] at hlength
    cases hlength
  · have hbits : leadBits lead = lead.toNat % 32 := by simp [leadBits, hf]
    rw [hf] at hlength
    match more, hlength with
    | [], _ =>
      simp only [List.foldl_cons, List.foldl_nil, hbits]
      omega
  · have hbits : leadBits lead = lead.toNat % 16 := by simp [leadBits, hf]
    rw [hf] at hlength
    match more, hlength with
    | [c], _ =>
      simp only [List.foldl_cons, List.foldl_nil, hbits]
      omega
  · have hbits : leadBits lead = lead.toNat % 8 := by simp [leadBits, hf]
    rw [hf] at hlength
    match more, hlength with
    | [c, d], _ =>
      simp only [List.foldl_cons, List.foldl_nil, hbits]
      omega

lemma mayFollow_head {lead b : UInt8} {rest more : Bytes} (h : tail lead rest = b :: more) :
    mayFollow lead b = true := by
  cases rest with
  | nil => cases h
  | cons c rest =>
    rw [tail] at h
    split_ifs at h with hc
    cases h
    exact (Bool.and_eq_true _ _ |>.mp hc).2

/-- Only an ASCII byte is shown as an ASCII character. -/
lemma charOf_not_ascii {lead : UInt8} (hlead : 128 ≤ lead.toNat) (rest : Bytes) :
    128 ≤ (charOf lead (tail lead rest)).toNat := by
  have hnot : ¬lead < 0x80 := by
    rw [UInt8.lt_iff_toNat_lt]
    exact Nat.not_lt.mpr hlead
  unfold charOf
  rw [if_neg hnot]
  split_ifs with hwhole
  · simp only [Bool.and_eq_true, decide_eq_true_eq] at hwhole
    cases hmore : tail lead rest with
    | nil =>
      rw [hmore] at hwhole
      exact absurd hwhole.2.symm hwhole.1
    | cons b more =>
      rw [hmore] at hwhole
      obtain ⟨hvalid, hle⟩ := sequence_bounds (mayFollow_head hmore) hwhole.2
      rw [Char.ofNat, dif_pos hvalid]
      exact hle
  · decide

lemma toNat_ofNat_ascii {b : UInt8} (hb : b.toNat < 128) :
    (Char.ofNat b.toNat).toNat = b.toNat := by
  rw [Char.ofNat, dif_pos (.inl (by omega))]
  rfl

/-- Where an ASCII character is shown there is an ASCII byte, and each side is shown alone. -/
theorem exists_ascii_split {n : Bytes} {c : Char} (hc : c.toNat < 128) {front back : List Char}
    (h : chars n = front ++ c :: back) : ∃ before after,
      n = before ++ charByte c :: after ∧ chars before = front ∧ chars after = back := by
  induction n using chars.induct generalizing front with
  | case1 =>
    rw [chars] at h
    cases front <;> cases h
  | case2 lead rest ih =>
    cases front with
    | nil =>
      have hlead : lead.toNat < 128 := by
        by_contra hlead
        rw [chars] at h
        have hshown := charOf_not_ascii (Nat.le_of_not_lt hlead) rest
        rw [(List.cons.inj h).1] at hshown
        omega
      rw [chars_cons_ascii hlead, List.nil_append] at h
      obtain ⟨rfl, hback⟩ := List.cons.inj h
      refine ⟨[], rest, ?_, chars.eq_1, hback⟩
      rw [charByte, toNat_ofNat_ascii hlead, UInt8.ofNat_toNat]
      rfl
    | cons d front =>
      rw [chars, List.cons_append] at h
      obtain ⟨hd, hmore⟩ := List.cons.inj h
      obtain ⟨before, after, hrest, hbefore, hafter⟩ := ih hmore
      -- the bytes of the first character are again what follows its lead byte
      have hsplit : rest = tail lead rest ++ before ++ charByte c :: after := by
        rw [List.append_assoc, ← hrest]
        exact (List.prefix_iff_eq_append.mp (tail_isInitial lead rest)).symm
      have htail : tail lead (tail lead rest ++ before) = tail lead rest := by
        have hbyte : (charByte c).toNat < 128 := by
          rw [charByte, UInt8.toNat_ofNat_of_lt' (Nat.lt_trans hc (by decide))]
          exact hc
        rw [← tail_append lead hbyte _ after, ← hsplit]
      refine ⟨lead :: (tail lead rest ++ before), after, ?_, ?_, hafter⟩
      · rw [List.cons_append, ← hsplit]
      · rw [chars, htail, List.drop_left, hd, hbefore]

/-! ## Groups in bytes -/

lemma isDigit_iff {c : Char} : c.isDigit = true ↔ 48 ≤ c.toNat ∧ c.toNat ≤ 57 := by
  unfold Char.isDigit
  simp only [Bool.and_eq_true, decide_eq_true_eq]
  exact Iff.rfl

/-- A byte string split around a parenthesised group of digits. -/
structure ByteGroup (name before digits after : Bytes) : Prop where
  split : name = before ++ 0x28 :: (digits ++ 0x29 :: after)
  nonempty : digits ≠ []
  allDigits : ∀ b ∈ digits, 0x30 ≤ b.toNat ∧ b.toNat ≤ 0x39

/-- The number that digits write. -/
def decimalNumber (digits : Bytes) : Nat :=
  digits.foldl (fun n b => 10 * n + (b.toNat - 0x30)) 0

lemma chars_of_ascii {bs : Bytes} (h : ∀ b ∈ bs, b.toNat < 128) :
    chars bs = bs.map fun b => Char.ofNat b.toNat := by
  induction bs with
  | nil => rw [chars, List.map_nil]
  | cons b bs ih =>
    rw [chars_cons_ascii (h b (List.mem_cons_self ..)), List.map_cons,
      ih fun c hc => h c (List.mem_cons_of_mem b hc)]

lemma bytes_of_ascii {bs : Bytes} (h : ∀ c ∈ chars bs, c.toNat < 128) :
    bs = (chars bs).map charByte := by
  generalize hcs : chars bs = cs at h ⊢
  induction cs generalizing bs with
  | nil =>
    cases bs with
    | nil => rfl
    | cons b bs =>
      rw [chars] at hcs
      cases hcs
  | cons c cs ih =>
    obtain ⟨before, after, rfl, hbefore, hafter⟩ :=
      exists_ascii_split (h c (List.mem_cons_self ..)) (show chars bs = [] ++ c :: cs from hcs)
    have hnil : before = [] := by
      cases before with
      | nil => rfl
      | cons b before =>
        rw [chars] at hbefore
        cases hbefore
    rw [hnil, List.nil_append, List.map_cons,
      ← ih hafter fun d hd => h d (List.mem_cons_of_mem c hd)]

section
variable {n before digits after : Bytes}

lemma ByteGroup.chars_digits (h : ByteGroup n before digits after) :
    chars digits = digits.map fun b => Char.ofNat b.toNat := by
  apply chars_of_ascii
  intro b hb
  have := h.allDigits b hb
  omega

/-- A group of bytes is shown as the same group, with what is around it shown around it. -/
lemma ByteGroup.groupSplit (h : ByteGroup n before digits after) :
    GroupSplit (lossy n) (lossy before) (lossy digits) (lossy after) := by
  have hchars : chars n = chars before ++ '(' :: (chars digits ++ ')' :: chars after) := by
    have hopening : (0x28 : UInt8).toNat < 128 := by decide
    have hclosing : (0x29 : UInt8).toNat < 128 := by decide
    rw [h.split, chars_append_ascii hopening, chars_append_ascii hclosing]
    rfl
  refine ⟨?_, ?_, ?_⟩
  · apply String.toList_inj.mp
    simp [lossy, hchars]
  · rw [ne_eq, ← String.toList_eq_nil_iff, lossy, String.toList_ofList, h.chars_digits,
      List.map_eq_nil_iff]
    exact h.nonempty
  · intro c hc
    rw [lossy, String.toList_ofList, h.chars_digits] at hc
    obtain ⟨b, hb, rfl⟩ := List.mem_map.mp hc
    have hdigit := h.allDigits b hb
    rw [isDigit_iff, toNat_ofNat_ascii (by omega)]
    exact hdigit

/-- Every group that is shown is one of the bytes. -/
lemma exists_byteGroup {front number back : String} (h : GroupSplit (lossy n) front number back) :
    ∃ before digits after, ByteGroup n before digits after ∧ lossy before = front ∧
      lossy digits = number ∧ lossy after = back := by
  have hchars : chars n = front.toList ++ '(' :: (number.toList ++ ')' :: back.toList) := by
    have htext := congrArg String.toList h.text
    simpa [lossy] using htext
  obtain ⟨before, rest, rfl, hbefore, hrest⟩ := exists_ascii_split (by decide) hchars
  obtain ⟨digits, after, rfl, hdigits, hafter⟩ := exists_ascii_split (by decide) hrest
  have hascii : digits = number.toList.map charByte := by
    rw [← hdigits]
    apply bytes_of_ascii
    intro c hc
    rw [hdigits] at hc
    have := toNat_of_isDigit (h.allDigits c hc)
    omega
  refine ⟨before, digits, after, ⟨rfl, ?_, ?_⟩, ?_, ?_, ?_⟩
  · rw [hascii, ne_eq, List.map_eq_nil_iff, String.toList_eq_nil_iff]
    exact h.nonempty
  · intro b hb
    rw [hascii] at hb
    obtain ⟨c, hc, rfl⟩ := List.mem_map.mp hb
    have hdigit := toNat_of_isDigit (h.allDigits c hc)
    rw [charByte, UInt8.toNat_ofNat_of_lt' (by change c.toNat < 256; omega)]
    exact hdigit
  · rw [lossy, hbefore, String.ofList_toList]
  · rw [lossy, hdigits, String.ofList_toList]
  · rw [lossy, hafter, String.ofList_toList]

/-- Of two groups, the one that comes first is shown first. -/
lemma ByteGroup.shown_before {before' digits' after' : Bytes} (h : ByteGroup n before digits after)
    (h' : ByteGroup n before' digits' after') (hlt : before.length < before'.length) :
    (lossy before).length < (lossy before').length := by
  have hsplit := h.split
  rw [h'.split] at hsplit
  rcases List.append_eq_append_iff.mp hsplit with ⟨mid, rfl, _⟩ | ⟨mid, rfl, hmid⟩
  · rw [List.length_append] at hlt
    omega
  · cases mid with
    | nil => simp at hlt
    | cons b mid =>
      obtain rfl : 0x28 = b := (List.cons.inj hmid).1
      have hascii : (0x28 : UInt8).toNat < 128 := by decide
      simp only [lossy, String.length_ofList, chars_append_ascii hascii, List.length_append,
        List.length_cons]
      omega

lemma ByteGroup.shown_before_iff {before' digits' after' : Bytes}
    (h : ByteGroup n before digits after) (h' : ByteGroup n before' digits' after') :
    before.length < before'.length ↔ (lossy before).length < (lossy before').length := by
  refine ⟨h.shown_before h', ?_⟩
  intro hshown
  rcases Nat.lt_trichotomy before.length before'.length with hlt | heq | hlt
  · exact hlt
  · obtain rfl := (List.append_inj (h.split.symm.trans h'.split) heq).1
    exact absurd hshown (Nat.lt_irrefl _)
  · exact absurd hshown (Nat.lt_asymm (h'.shown_before h hlt))

end

/-! ## Marks of bytes -/

lemma ofByte_eq_opening {b : UInt8} (h : Mark.ofByte b = .opening) : b = 0x28 := by
  unfold Mark.ofByte at h
  split_ifs at h with hb
  exact hb

lemma ofByte_eq_closing {b : UInt8} (h : Mark.ofByte b = .closing) : b = 0x29 := by
  unfold Mark.ofByte at h
  split_ifs at h with _ hb
  exact hb

lemma ofByte_eq_digit {b : UInt8} {d : Nat} : Mark.ofByte b = .digit d ↔
    (0x30 ≤ b.toNat ∧ b.toNat ≤ 0x39) ∧ b.toNat - 0x30 = d := by
  unfold Mark.ofByte
  simp only [← UInt8.toNat_inj, UInt8.le_iff_toNat_le, UInt8.reduceToNat]
  split_ifs with hopening hclosing hdigit
  · simp
    omega
  · simp
    omega
  · simp [hdigit]
  · simp [hdigit]

section
variable {n before digits after : Bytes}

lemma ByteGroup.markSplit (h : ByteGroup n before digits after) :
    MarkSplit (n.map .ofByte) (before.map .ofByte) (digits.map fun b => b.toNat - 0x30)
      (after.map .ofByte) := by
  have hdigits : digits.map Mark.ofByte = (digits.map fun b => b.toNat - 0x30).map .digit := by
    rw [List.map_map]
    apply List.map_congr_left
    intro b hb
    exact ofByte_eq_digit.mpr ⟨h.allDigits b hb, rfl⟩
  refine ⟨?_, by simpa using h.nonempty⟩
  rw [h.split, ← hdigits, List.map_append, List.map_cons, List.map_append, List.map_cons]
  rfl

lemma byteGroup_of_markSplit {front back : List Mark} {ds : List Nat}
    (h : MarkSplit (n.map .ofByte) front ds back) :
    ∃ before digits after, ByteGroup n before digits after ∧ before.length = front.length := by
  obtain ⟨bs, o, cs, e, as, rfl, rfl, ho, hcs, he⟩ := h.exists_split
  obtain rfl := ofByte_eq_opening ho
  obtain rfl := ofByte_eq_closing he
  refine ⟨bs, cs, as, ⟨rfl, ?_, ?_⟩, (List.length_map _).symm⟩
  · rintro rfl
    exact h.nonempty (List.map_eq_nil_iff.mp hcs.symm)
  · intro b hb
    have hmem : Mark.ofByte b ∈ ds.map Mark.digit := hcs ▸ List.mem_map_of_mem hb
    obtain ⟨d, _, hd⟩ := List.mem_map.mp hmem
    exact (ofByte_eq_digit.mp hd.symm).1

/-- No group of the bytes comes before this one. -/
def IsFirstGroup (n before : Bytes) : Prop :=
  ∀ before' digits' after', ByteGroup n before' digits' after' → before.length ≤ before'.length

lemma exists_first_group (h : ByteGroup n before digits after) :
    ∃ before digits after, ByteGroup n before digits after ∧ IsFirstGroup n before := by
  classical
  have hexists : ∃ k before digits after, ByteGroup n before digits after ∧ before.length = k :=
    ⟨_, _, _, _, h, rfl⟩
  obtain ⟨first, number, rest, hgroup, hlength⟩ := Nat.find_spec hexists
  refine ⟨first, number, rest, hgroup, ?_⟩
  intro before' digits' after' h'
  rw [hlength]
  exact Nat.find_min' hexists ⟨before', digits', after', h', rfl⟩

lemma decimalNumber_eq (digits : Bytes) :
    decimalNumber digits = digitsValue (digits.map fun b => b.toNat - 0x30) := by
  unfold decimalNumber digitsValue
  rw [List.foldl_map]
  simp only [Nat.mul_comm]

lemma sortKeyOf_bytes (h : ByteGroup n before digits after) (hfirst : IsFirstGroup n before) :
    sortKeyOf (n.map .ofByte) = min (decimalNumber digits) (2 ^ 64 - 1) := by
  have hnumber : pageNumber? (n.map .ofByte) = some (decimalNumber digits) := by
    rw [decimalNumber_eq]
    apply pageNumber?_of_first h.markSplit
    intro front ds back h'
    obtain ⟨before', digits', after', hgroup, hlength⟩ := byteGroup_of_markSplit h'
    rw [List.length_map, ← hlength]
    exact hfirst before' digits' after' hgroup
  unfold sortKeyOf
  rw [hnumber]
  rfl

lemma sortKeyOf_bytes_of_none (h : ∀ before digits after, ¬ByteGroup n before digits after) :
    sortKeyOf (n.map .ofByte) = 0 := by
  have hnumber : pageNumber? (n.map .ofByte) = none := by
    rw [pageNumber?_eq_none_iff]
    intro front ds back h'
    obtain ⟨before, digits, after, hgroup, _⟩ := byteGroup_of_markSplit h'
    exact h before digits after hgroup
  unfold sortKeyOf
  rw [hnumber]
  rfl

lemma sortKey_lossy_of_first (h : ByteGroup n before digits after)
    (hfirst : IsFirstGroup n before) :
    sortKey (lossy n) = min (decimalNumber digits) (2 ^ 64 - 1) := by
  have hvalue : Nat.ofDigitChars 10 (lossy digits).toList 0 = decimalNumber digits := by
    rw [lossy, String.toList_ofList, ← digitsValue_digits, decimalNumber_eq, h.chars_digits,
      List.map_map]
    congr 1
    apply List.map_congr_left
    intro b hb
    have hdigit := h.allDigits b hb
    rw [Function.comp_apply, toNat_ofNat_ascii (by omega)]
  rw [← hvalue]
  apply sortKey_of_group h.groupSplit
  intro front number back h'
  obtain ⟨before', digits', after', hgroup, rfl, _⟩ := exists_byteGroup h'
  rw [← Nat.not_lt, ← hgroup.shown_before_iff h, Nat.not_lt]
  exact hfirst before' digits' after' hgroup

/-- The search in the name shown and the search in the bytes find the same key. -/
theorem sortKey_lossy (n : Bytes) : sortKey (lossy n) = sortKeyOf (n.map .ofByte) := by
  by_cases hgroup : ∃ before digits after, ByteGroup n before digits after
  · obtain ⟨before, digits, after, h⟩ := hgroup
    obtain ⟨before, digits, after, h, hfirst⟩ := exists_first_group h
    rw [sortKey_lossy_of_first h hfirst, sortKeyOf_bytes h hfirst]
  · push Not at hgroup
    have hungrouped : Ungrouped (lossy n) := by
      intro front number back h
      obtain ⟨before, digits, after, h, _⟩ := exists_byteGroup h
      exact hgroup before digits after h
    rw [sortKey_of_ungrouped hungrouped, sortKeyOf_bytes_of_none hgroup]

end

/-- The key of an entry is found in the bytes of its file name, whether they are text or not. The
groups of digits in the bytes are those of the name shown, in the same order. -/
theorem sortKey_of_name_bytes {p : Path} {n : Name} (hname : Path.fileName? p = some n) :
    (ScanEntry.ofPath p).sortKey = sortKeyOf (n.map .ofByte) ∧
    (∀ before digits after, ByteGroup n before digits after → IsFirstGroup n before →
      (ScanEntry.ofPath p).sortKey = min (decimalNumber digits) (2 ^ 64 - 1)) ∧
    ((∀ before digits after, ¬ByteGroup n before digits after) →
      (ScanEntry.ofPath p).sortKey = 0) ∧
    (∀ before digits after, ByteGroup n before digits after →
      GroupSplit (ScanEntry.ofPath p).name (lossy before) (lossy digits) (lossy after)) ∧
    (∀ front number back, GroupSplit (ScanEntry.ofPath p).name front number back →
      ∃ before digits after, ByteGroup n before digits after ∧ lossy before = front ∧
        lossy digits = number ∧ lossy after = back) ∧
    ∀ before digits after before' digits' after', ByteGroup n before digits after →
      ByteGroup n before' digits' after' →
      (before.length < before'.length ↔ (lossy before).length < (lossy before').length) := by
  have hshown : shownName p = lossy n := by
    unfold shownName
    rw [hname]
  have hkey : (ScanEntry.ofPath p).sortKey = sortKeyOf (n.map .ofByte) := by
    rw [← sortKey_lossy, ← hshown]
    rfl
  have htext : (ScanEntry.ofPath p).name = lossy n := hshown
  rw [htext]
  refine ⟨hkey, ?_, ?_, ?_, ?_, ?_⟩
  · intro before digits after h hfirst
    rw [hkey, sortKeyOf_bytes h hfirst]
  · intro h
    rw [hkey, sortKeyOf_bytes_of_none h]
  · intro before digits after h
    exact h.groupSplit
  · intro front number back h
    exact exists_byteGroup h
  · intro before digits after before' digits' after' h h'
    exact h.shown_before_iff h'

/-- A group that is broken by the start of a longer sequence, then a whole one, then another such
start. -/
def brokenName : Name :=
  [0x28, 0x31, 0xE2, 0x82, 0x29] ++ ofText "(007)" ++ [0xF0, 0x9F] ++ ofText "(8).png"

theorem sortKey_of_name_bytes_broken_name :
    Path.fileName? (ofText "in (3)/" ++ brokenName) = some brokenName ∧
      ByteGroup brokenName [0x28, 0x31, 0xE2, 0x82, 0x29] (ofText "007")
        ([0xF0, 0x9F] ++ ofText "(8).png") ∧
      (ScanEntry.ofPath (ofText "in (3)/" ++ brokenName)).sortKey = 7 := by
  have hname : Path.fileName? (ofText "in (3)/" ++ brokenName) = some brokenName := by decide
  have hgroup : ByteGroup brokenName [0x28, 0x31, 0xE2, 0x82, 0x29] (ofText "007")
      ([0xF0, 0x9F] ++ ofText "(8).png") := by
    refine ⟨by decide, by decide, ?_⟩
    intro b hb
    have hdigits :
        (ofText "007").all (fun b => decide (0x30 ≤ b.toNat ∧ b.toNat ≤ 0x39)) = true := by
      decide
    exact of_decide_eq_true (List.all_eq_true.mp hdigits b hb)
  refine ⟨hname, hgroup, ?_⟩
  rw [(sortKey_of_name_bytes hname).1]
  decide

end ScanBinder.Proofs
