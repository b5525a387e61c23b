import Mathlib.Tactic.Common
import ScanBinder.Files.Arrange
import ScanBinder.Scan

/-!
# Page order

Names are compared character by character when they are sorted. UTF-8 keeps the order of
characters, so this is the order of the bytes of the names. Sorting by name and then, without
disturbing names of one key, by key puts entries in the order of key and name.
-/

namespace ScanBinder.Proofs
open FileTree

/-! ## Names by their bytes -/

lemma ofText_eq_flatMap (s : String) : Bytes.ofText s = s.toList.flatMap String.utf8EncodeChar := by
  unfold Bytes.ofText String.toUTF8
  rw [← String.utf8Encode_toList]
  simp [List.utf8Encode]

lemma nameLe_append_left (p xs ys : Name) : nameLe (p ++ xs) (p ++ ys) = nameLe xs ys := by
  induction p with
  | nil => rfl
  | cons b p ih => rw [List.cons_append, List.cons_append, nameLe, if_pos rfl, ih]

/-- The first bytes that differ decide. -/
lemma nameLe_cons_of_ne {a b : UInt8} (h : a ≠ b) (xs ys : Name) :
    nameLe (a :: xs) (b :: ys) = decide (a < b) := by
  rw [nameLe, if_neg h]

lemma nameLe_total (xs ys : Name) : nameLe xs ys = true ∨ nameLe ys xs = true := by
  induction xs generalizing ys with
  | nil => exact .inl rfl
  | cons a xs ih =>
    cases ys with
    | nil => exact .inr rfl
    | cons b ys =>
      by_cases h : a = b
      · subst h
        simpa only [nameLe, if_true] using ih ys
      · rw [nameLe_cons_of_ne h, nameLe_cons_of_ne (Ne.symm h), decide_eq_true_eq,
          decide_eq_true_eq]
        exact UInt8.lt_or_lt_of_ne h

lemma nameLe_trans {xs ys zs : Name} (h₁ : nameLe xs ys = true) (h₂ : nameLe ys zs = true) :
    nameLe xs zs = true := by
  induction xs generalizing ys zs with
  | nil => rfl
  | cons a xs ih =>
    cases ys with
    | nil => simp [nameLe] at h₁
    | cons b ys =>
      cases zs with
      | nil => simp [nameLe] at h₂
      | cons c zs =>
        by_cases hab : a = b
        · subst hab
          by_cases hac : a = c
          · subst hac
            simp only [nameLe, if_true] at h₁ h₂ ⊢
            exact ih h₁ h₂
          · rwa [nameLe_cons_of_ne hac] at h₂ ⊢
        · rw [nameLe_cons_of_ne hab, decide_eq_true_eq] at h₁
          by_cases hbc : b = c
          · subst hbc
            rwa [nameLe_cons_of_ne hab, decide_eq_true_eq]
          · rw [nameLe_cons_of_ne hbc, decide_eq_true_eq] at h₂
            have hac : a < c := UInt8.lt_trans h₁ h₂
            rw [nameLe_cons_of_ne (UInt8.ne_of_lt hac), decide_eq_true_eq]
            exact hac

/-- The first byte string comes before the second and is not the same. -/
def StrictlyBefore (xs ys : Bytes) : Prop :=
  nameLe xs ys = true ∧ nameLe ys xs = false

lemma strictlyBefore_of_lt {m n : Nat} (hm : m < n) (hn : n < 256) (xs ys : Bytes) :
    StrictlyBefore (UInt8.ofNat m :: xs) (UInt8.ofNat n :: ys) := by
  have hlt : UInt8.ofNat m < UInt8.ofNat n := by
    rw [UInt8.lt_iff_toNat_lt, UInt8.toNat_ofNat', UInt8.toNat_ofNat']
    omega
  have hne : UInt8.ofNat m ≠ UInt8.ofNat n := UInt8.ne_of_lt hlt
  constructor
  · rw [nameLe_cons_of_ne hne, decide_eq_true_eq]
    exact hlt
  · rw [nameLe_cons_of_ne (Ne.symm hne), decide_eq_false_iff_not]
    exact UInt8.lt_asymm hlt

lemma strictlyBefore_cons {m n : Nat} (hmn : m = n) {xs ys : Bytes} (h : StrictlyBefore xs ys) :
    StrictlyBefore (UInt8.ofNat m :: xs) (UInt8.ofNat n :: ys) := by
  subst hmn
  unfold StrictlyBefore
  rw [nameLe, nameLe, if_pos rfl, if_pos rfl]
  exact h

/-- Continuation bytes are the digits in base 64: of two numbers that agree above the last
digit, the smaller has the smaller last byte. The next two lemmas go on to more digits. -/
lemma strictlyBefore_last_digit {v w : Nat} (h : v < w) (hq : v / 64 = w / 64) (xs ys : Bytes) :
    StrictlyBefore (UInt8.ofNat (v % 64 + 128) :: xs) (UInt8.ofNat (w % 64 + 128) :: ys) :=
  strictlyBefore_of_lt (by omega) (by omega) xs ys

lemma strictlyBefore_two_digits {v w : Nat} (h : v < w) (hq : v / 4096 = w / 4096) (xs ys : Bytes) :
    StrictlyBefore (UInt8.ofNat (v / 64 % 64 + 128) :: UInt8.ofNat (v % 64 + 128) :: xs)
      (UInt8.ofNat (w / 64 % 64 + 128) :: UInt8.ofNat (w % 64 + 128) :: ys) := by
  by_cases hr : v / 64 = w / 64
  · exact strictlyBefore_cons (by omega) (strictlyBefore_last_digit h hr xs ys)
  · exact strictlyBefore_of_lt (by omega) (by omega) _ _

lemma strictlyBefore_three_digits {v w : Nat} (h : v < w) (hq : v / 262144 = w / 262144)
    (xs ys : Bytes) :
    StrictlyBefore
      (UInt8.ofNat (v / 4096 % 64 + 128) :: UInt8.ofNat (v / 64 % 64 + 128) ::
        UInt8.ofNat (v % 64 + 128) :: xs)
      (UInt8.ofNat (w / 4096 % 64 + 128) :: UInt8.ofNat (w / 64 % 64 + 128) ::
        UInt8.ofNat (w % 64 + 128) :: ys) := by
  by_cases hr : v / 4096 = w / 4096
  · exact strictlyBefore_cons (by omega) (strictlyBefore_two_digits h hr xs ys)
  · exact strictlyBefore_of_lt (by omega) (by omega) _ _

/-- A smaller character has smaller bytes, whatever follows. A longer form has the larger lead
byte; forms of one length agree in their lead bytes or differ there already. -/
lemma strictlyBefore_utf8EncodeChar {c d : Char} (h : c < d) (xs ys : Bytes) :
    StrictlyBefore (String.utf8EncodeChar c ++ xs) (String.utf8EncodeChar d ++ ys) := by
  have hlt : c.val.toNat < d.val.toNat := h
  have hmax : d.val.toNat < 1114112 := by
    have hd := d.valid
    simp only [UInt32.isValidChar, Nat.isValidChar] at hd
    omega
  unfold String.utf8EncodeChar
  generalize c.val.toNat = v at hlt ⊢
  generalize d.val.toNat = w at hlt hmax ⊢
  by_cases hv1 : v ≤ 0x7f
  · simp only [hv1, if_true]
    split_ifs
    all_goals exact strictlyBefore_of_lt (by omega) (by omega) _ _
  · have hw1 : ¬w ≤ 0x7f := by omega
    by_cases hv2 : v ≤ 0x7ff
    · simp only [hv1, hw1, hv2, if_true, if_false]
      by_cases hw2 : w ≤ 0x7ff
      · simp only [hw2, if_true]
        by_cases hq : v / 64 = w / 64
        · exact strictlyBefore_cons (by omega) (strictlyBefore_last_digit hlt hq _ _)
        · exact strictlyBefore_of_lt (by omega) (by omega) _ _
      · simp only [hw2, if_false]
        split_ifs
        all_goals exact strictlyBefore_of_lt (by omega) (by omega) _ _
    · have hw2 : ¬w ≤ 0x7ff := by omega
      by_cases hv3 : v ≤ 0xffff
      · simp only [hv1, hw1, hv2, hw2, hv3, if_true, if_false]
        by_cases hw3 : w ≤ 0xffff
        · simp only [hw3, if_true]
          by_cases hq : v / 4096 = w / 4096
          · exact strictlyBefore_cons (by omega) (strictlyBefore_two_digits hlt hq _ _)
          · exact strictlyBefore_of_lt (by omega) (by omega) _ _
        · simp only [hw3, if_false]
          exact strictlyBefore_of_lt (by omega) (by omega) _ _
      · have hw3 : ¬w ≤ 0xffff := by omega
        simp only [hv1, hw1, hv2, hw2, hv3, hw3, if_false]
        by_cases hq : v / 262144 = w / 262144
        · exact strictlyBefore_cons (by omega) (strictlyBefore_three_digits hlt hq _ _)
        · exact strictlyBefore_of_lt (by omega) (by omega) _ _

/-- The order of texts by characters is the order of their bytes. -/
theorem textLe_eq_nameLe (a b : String) :
    textLe a b = nameLe (Bytes.ofText a) (Bytes.ofText b) := by
  unfold textLe
  rw [ofText_eq_flatMap, ofText_eq_flatMap]
  generalize a.toList = cs
  generalize b.toList = ds
  induction cs generalizing ds with
  | nil => simp [nameLe]
  | cons c cs ih =>
    cases ds with
    | nil =>
      obtain ⟨x, xs, hx⟩ := List.exists_cons_of_ne_nil (String.utf8EncodeChar_ne_nil (c := c))
      simp [hx, nameLe]
    | cons d ds =>
      rw [List.flatMap_cons, List.flatMap_cons]
      by_cases h : c < d
      · rw [(strictlyBefore_utf8EncodeChar h _ _).1]
        simp [List.cons_lt_cons_iff, Char.not_lt.mp (Char.lt_asymm h), (Char.ne_of_lt h).symm]
      · by_cases h' : d < c
        · rw [(strictlyBefore_utf8EncodeChar h' _ _).2]
          simp [List.cons_lt_cons_iff, h']
        · have heq : c = d := Char.le_antisymm (Char.not_lt.mp h') (Char.not_lt.mp h)
          subst heq
          rw [nameLe_append_left, ← ih]
          simp

/-! ## Two stable sorts -/

/-- Sorting leaves elements that tie in the order they had. -/
lemma filter_mergeSort_of_tie {α : Type} {le : α → α → Bool}
    (htrans : ∀ a b c, le a b = true → le b c = true → le a c = true)
    (htotal : ∀ a b, (le a b || le b a) = true) (p : α → Bool)
    (htie : ∀ a b, p a = true → p b = true → le a b = true) (l : List α) :
    (l.mergeSort le).filter p = l.filter p := by
  have hpair : (l.filter p).Pairwise (fun a b => le a b = true) := by
    apply List.pairwise_of_forall_mem_list
    intro a ha b hb
    exact htie a b (List.mem_filter.mp ha).2 (List.mem_filter.mp hb).2
  have hsub := (List.sublist_mergeSort htrans htotal hpair List.filter_sublist).filter p
  have hlen := ((List.mergeSort_perm l le).filter p).length_eq
  rw [List.filter_filter, show (fun a => p a && p a) = p by funext a; simp] at hsub
  exact (hsub.eq_of_length hlen.symm).symm

lemma nameOrder_trans (a b c : ScanEntry) (h₁ : textLe a.name b.name = true)
    (h₂ : textLe b.name c.name = true) : textLe a.name c.name = true := by
  rw [textLe_eq_nameLe] at h₁ h₂ ⊢
  exact nameLe_trans h₁ h₂

lemma nameOrder_total (a b : ScanEntry) :
    (textLe a.name b.name || textLe b.name a.name) = true := by
  rw [textLe_eq_nameLe, textLe_eq_nameLe, Bool.or_eq_true]
  exact nameLe_total _ _

/-- The first entry has the smaller key, or the keys are the same and the bytes of its name
come first. -/
def InOrder (a b : ScanEntry) : Prop :=
  a.sortKey < b.sortKey ∨
    a.sortKey = b.sortKey ∧ nameLe (Bytes.ofText a.name) (Bytes.ofText b.name) = true

theorem inPageOrder_perm (entries : List ScanEntry) : (inPageOrder entries).Perm entries :=
  (List.mergeSort_perm _ _).trans (List.mergeSort_perm _ _)

/-- Entries in page order go up by key, and entries of one key by name. -/
theorem inPageOrder_pairwise (entries : List ScanEntry) :
    (inPageOrder entries).Pairwise InOrder := by
  let byName := entries.mergeSort fun a b => textLe a.name b.name
  have hname : byName.Pairwise (fun a b => textLe a.name b.name = true) :=
    List.pairwise_mergeSort nameOrder_trans nameOrder_total entries
  have htrans : ∀ a b c : ScanEntry, decide (a.sortKey ≤ b.sortKey) = true →
      decide (b.sortKey ≤ c.sortKey) = true → decide (a.sortKey ≤ c.sortKey) = true := by
    intro a b c hab hbc
    simp only [decide_eq_true_eq] at hab hbc ⊢
    omega
  have htotal : ∀ a b : ScanEntry,
      (decide (a.sortKey ≤ b.sortKey) || decide (b.sortKey ≤ a.sortKey)) = true := by
    intro a b
    simp only [Bool.or_eq_true, decide_eq_true_eq]
    omega
  rw [List.pairwise_iff_forall_sublist]
  intro a b hab
  have hkey : decide (a.sortKey ≤ b.sortKey) = true :=
    List.pairwise_iff_forall_sublist.mp (List.pairwise_mergeSort htrans htotal byName) hab
  rw [decide_eq_true_eq] at hkey
  by_cases heq : a.sortKey = b.sortKey
  · -- among the entries of this key the second sort has changed nothing
    have hkeep := filter_mergeSort_of_tie htrans htotal (fun e => decide (e.sortKey = a.sortKey))
      (by intro x y hx hy; simp only [decide_eq_true_eq] at hx hy ⊢; omega) byName
    have hsub : [a, b].Sublist byName := by
      have h := hab.filter (fun e => decide (e.sortKey = a.sortKey))
      rw [inPageOrder, hkeep] at h
      simp only [List.filter_cons, List.filter_nil, decide_true, heq, if_true] at h
      exact h.trans List.filter_sublist
    have hle := List.pairwise_iff_forall_sublist.mp hname hsub
    rw [textLe_eq_nameLe] at hle
    exact .inr ⟨heq, hle⟩
  · exact .inl (by omega)

end ScanBinder.Proofs
