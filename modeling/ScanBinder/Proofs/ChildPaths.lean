import Mathlib.Data.List.Forall2
import Mathlib.Data.List.TakeWhile
import Mathlib.Tactic.Common
import ScanBinder.Scan

/-!
# The paths of children

However a folder is written, the path of one of its children ends in the name of the child. So
the name alone decides whether the child is named like an image: there is a dot in it, not in
front, and one of six words follows the last dot, in capital or small letters.
-/

namespace ScanBinder.Proofs
open FileTree

/-- A name that a file system gives to an entry of a folder. -/
structure IsChildName (n : Name) : Prop where
  ne_nil : n ≠ []
  ne_here : n ≠ Path.here
  ne_above : n ≠ Path.above
  slashless : Path.slash ∉ n

/-! ## Last components -/

lemma pieces_of_slashless {n : Name} (h : Path.slash ∉ n) : Path.pieces n = [n] := by
  induction n with
  | nil => rfl
  | cons b n ih =>
    rw [List.mem_cons, not_or] at h
    rw [Path.pieces, if_neg (Ne.symm h.1), ih h.2]

lemma pieces_ne_nil (p : Path) : Path.pieces p ≠ [] := by
  cases p with
  | nil => exact List.cons_ne_nil _ _
  | cons b p =>
    rw [Path.pieces]
    split_ifs
    · exact List.cons_ne_nil _ _
    · split
      · exact List.cons_ne_nil _ _
      · exact List.cons_ne_nil _ _

lemma pieces_append_slash (p q : Path) :
    Path.pieces (p ++ Path.slash :: q) = Path.pieces p ++ Path.pieces q := by
  induction p with
  | nil => exact if_pos rfl
  | cons b p ih =>
    obtain ⟨first, more, hfirst⟩ := List.exists_cons_of_ne_nil (pieces_ne_nil p)
    rw [List.cons_append, Path.pieces, ih, Path.pieces, hfirst]
    by_cases hb : b = Path.slash
    · rw [if_pos hb, if_pos hb]
      rfl
    · rw [if_neg hb, if_neg hb]
      rfl

lemma IsChildName.isAbsolute_eq_false {n : Name} (hn : IsChildName n) :
    Path.isAbsolute n = false := by
  unfold Path.isAbsolute
  rw [decide_eq_false_iff_not]
  exact fun hhead => hn.slashless (List.mem_of_head? hhead)

/-- The components of a child's path are those of the folder, less a needless one at the end, and
the name. -/
lemma pieces_join (dir : Path) {n : Name} (hn : IsChildName n) :
    ∃ front last, (last = [] ∨ last = [[]]) ∧ Path.pieces dir = front ++ last ∧
      Path.pieces (Path.join dir n) = front ++ [n] := by
  have hpieces : Path.pieces n = [n] := pieces_of_slashless hn.slashless
  unfold Path.join
  rw [hn.isAbsolute_eq_false, if_neg Bool.false_ne_true]
  split_ifs with hdir
  · rcases hdir with rfl | hlast
    · exact ⟨[], [[]], .inr rfl, rfl, hpieces⟩
    · obtain ⟨above, rfl⟩ := List.getLast?_eq_some_iff.mp hlast
      refine ⟨Path.pieces above, [[]], .inr rfl, pieces_append_slash above [], ?_⟩
      rw [List.append_assoc, List.singleton_append, pieces_append_slash, hpieces]
  · refine ⟨Path.pieces dir, [], .inl rfl, (List.append_nil _).symm, ?_⟩
    rw [pieces_append_slash, hpieces]

theorem fileName?_join {dir : Path} {n : Name} (hn : IsChildName n) :
    Path.fileName? (Path.join dir n) = some n := by
  obtain ⟨front, _, _, _, hfront⟩ := pieces_join dir hn
  have hname : Path.isNaming n = true := by simp [Path.isNaming, hn.ne_nil, hn.ne_here]
  unfold Path.fileName?
  rw [hfront, List.filter_append, List.filter_cons_of_pos hname, List.filter_nil,
    List.getLast?_concat]
  exact if_neg hn.ne_above

lemma fileName?_childName {n : Name} (hn : IsChildName n) : Path.fileName? n = some n := by
  have hjoin : Path.join [] n = n := by
    unfold Path.join
    rw [hn.isAbsolute_eq_false, if_neg Bool.false_ne_true, if_pos (.inl rfl)]
    rfl
  rw [← hjoin, fileName?_join hn, hjoin]

/-! ## Extensions -/

lemma splitAtLastDot?_append (stem : Name) {e : Name} (he : Path.dot ∉ e) :
    Path.splitAtLastDot? (stem ++ Path.dot :: e) = some (stem, e) := by
  have hbehind : ∀ b ∈ e.reverse, decide (b ≠ Path.dot) = true := by
    intro b hb
    rw [decide_eq_true_eq]
    rintro rfl
    exact he (List.mem_reverse.mp hb)
  have hreverse : (stem ++ Path.dot :: e).reverse = e.reverse ++ Path.dot :: stem.reverse := by simp
  unfold Path.splitAtLastDot?
  rw [hreverse, List.dropWhile_append_of_pos hbehind, List.takeWhile_append_of_pos hbehind]
  simp

lemma splitAtLastDot?_of_not_mem {n : Name} (h : Path.dot ∉ n) : Path.splitAtLastDot? n = none := by
  have hnone : n.reverse.dropWhile (· ≠ Path.dot) = [] := by
    rw [List.dropWhile_eq_nil_iff]
    intro b hb
    rw [decide_eq_true_eq]
    rintro rfl
    exact h (List.mem_reverse.mp hb)
  unfold Path.splitAtLastDot?
  rw [hnone]

lemma exists_last_dot {n : Name} (h : Path.dot ∈ n) :
    ∃ stem e, n = stem ++ Path.dot :: e ∧ Path.dot ∉ e := by
  obtain ⟨before, after, hn, hbefore⟩ := List.eq_append_cons_of_mem (List.mem_reverse.mpr h)
  refine ⟨after.reverse, before.reverse, ?_, by simpa using hbefore⟩
  rw [← List.reverse_reverse n, hn]
  simp

lemma nameExtension?_eq_some {n e : Name} : Path.nameExtension? n = some e ↔
    ∃ stem, stem ≠ [] ∧ n = stem ++ Path.dot :: e ∧ Path.dot ∉ e := by
  unfold Path.nameExtension?
  constructor
  · intro h
    by_cases hdot : Path.dot ∈ n
    · obtain ⟨stem, e', rfl, he'⟩ := exists_last_dot hdot
      rw [splitAtLastDot?_append stem he'] at h
      cases stem with
      | nil => cases h
      | cons b stem =>
        cases h
        exact ⟨b :: stem, List.cons_ne_nil _ _, rfl, he'⟩
    · rw [splitAtLastDot?_of_not_mem hdot] at h
      cases h
  · rintro ⟨stem, hstem, rfl, he⟩
    rw [splitAtLastDot?_append stem he]
    cases stem with
    | nil => exact absurd rfl hstem
    | cons b stem => rfl

/-- The same byte, or the same letter of ASCII in capital and small. -/
def SameLetter (a b : UInt8) : Prop :=
  a = b ∨ (0x41 ≤ a ∧ a ≤ 0x5A) ∧ b = a + 0x20 ∨ (0x41 ≤ b ∧ b ≤ 0x5A) ∧ a = b + 0x20

/-- A dot after the first byte of a name has one of the six words behind it, and no other dot. -/
def HasImageExtension (n : Name) : Prop :=
  ∃ stem e, stem ≠ [] ∧ n = stem ++ Path.dot :: e ∧ Path.dot ∉ e ∧
    ∃ word ∈ ["jpg", "jpeg", "png", "gif", "bmp", "tiff"],
      List.Forall₂ SameLetter e (Bytes.ofText word)

lemma lowerByte_eq_iff {a b : UInt8} (hb : ¬(0x41 ≤ b ∧ b ≤ 0x5A)) :
    lowerByte a = b ↔ SameLetter a b := by
  unfold lowerByte SameLetter
  split_ifs with ha
  · constructor
    · intro h
      exact .inr (.inl ⟨ha, h.symm⟩)
    · rintro (rfl | ⟨_, h⟩ | ⟨h, _⟩)
      · exact absurd ha hb
      · exact h.symm
      · exact absurd h hb
  · constructor
    · exact .inl
    · rintro (h | ⟨h, _⟩ | ⟨h, _⟩)
      · exact h
      · exact absurd h ha
      · exact absurd h hb

/-- The words themselves are in small letters, so making an extension small compares it with them
in either case. -/
lemma map_lowerByte_eq_iff {e : Name} {word : String}
    (h : word ∈ ["jpg", "jpeg", "png", "gif", "bmp", "tiff"]) :
    e.map lowerByte = Bytes.ofText word ↔ List.Forall₂ SameLetter e (Bytes.ofText word) := by
  have hsmall : (Bytes.ofText word).all (fun b => decide ¬(0x41 ≤ b ∧ b ≤ 0x5A)) = true := by
    revert word
    decide
  simp only [List.all_eq_true, decide_eq_true_eq] at hsmall
  generalize Bytes.ofText word = bs at hsmall ⊢
  induction bs generalizing e with
  | nil => simp
  | cons b bs ih =>
    cases e with
    | nil => simp
    | cons a e =>
      rw [List.map_cons, List.cons.injEq, List.forall₂_cons]
      exact and_congr (lowerByte_eq_iff (hsmall b (List.mem_cons_self ..)))
        (ih fun c hc => hsmall c (List.mem_cons_of_mem _ hc))

lemma isImageFile_join_eq (dir : Path) {n : Name} (hn : IsChildName n) :
    isImageFile (Path.join dir n) = isImageFile n := by
  unfold isImageFile Path.lowerExtension? Path.extension?
  rw [fileName?_join hn, fileName?_childName hn]

/-- Whether a child is named like an image is seen from its name. -/
theorem isImageFile_join {dir : Path} {n : Name} (hn : IsChildName n) :
    isImageFile (Path.join dir n) = true ↔ HasImageExtension n := by
  have hlower : Path.lowerExtension? (Path.join dir n) =
      (Path.nameExtension? n).map (·.map lowerByte) := by
    unfold Path.lowerExtension? Path.extension?
    rw [fileName?_join hn, Option.bind_some]
  unfold isImageFile
  rw [hlower]
  constructor
  · intro h
    cases he : Path.nameExtension? n with
    | none =>
      rw [he] at h
      cases h
    | some e =>
      obtain ⟨stem, hstem, hsplit, hdot⟩ := nameExtension?_eq_some.mp he
      rw [he] at h
      obtain ⟨word, hword, hsame⟩ := List.mem_map.mp (List.contains_iff_mem.mp h)
      exact ⟨stem, e, hstem, hsplit, hdot, word, hword,
        (map_lowerByte_eq_iff hword).mp hsame.symm⟩
  · rintro ⟨stem, e, hstem, hsplit, hdot, word, hword, hsame⟩
    rw [nameExtension?_eq_some.mpr ⟨stem, hstem, hsplit, hdot⟩]
    apply List.contains_iff_mem.mpr
    exact List.mem_map.mpr ⟨word, hword, ((map_lowerByte_eq_iff hword).mpr hsame).symm⟩

end ScanBinder.Proofs
