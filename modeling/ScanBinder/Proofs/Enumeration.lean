import Mathlib.Data.List.Nodup
import ScanBinder.Proofs.Combining
import ScanBinder.Proofs.Scanning

/-!
# The order in which a folder is enumerated

Names are shown as text before they are compared, and byte strings that are not well formed
may show the same text. Such names tie in both sorts and keep the order of the enumeration. A
scan gives the same entries for every enumeration exactly if no two of its images show the
same name.
-/

namespace ScanBinder.Proofs
open FileTree

/-- The same tree with its entries enumerated in another order. -/
structure Reordered (t t' : FileTree) : Prop where
  current : t'.current = t.current
  entries : t'.entries.Perm t.entries

/-- What a file system sees to: a location has one entry, and there is no slash in a name. -/
structure ProperNames (t : FileTree) : Prop where
  distinct : (t.entries.map Prod.fst).Nodup
  slashless : ∀ x ∈ t.entries, ∀ n ∈ x.1, Path.slash ∉ n

/-! ## What does not depend on the order -/

/-- A walk in a tree with more entries is the same, unless it ends where the entry is one of them. -/
lemma walk_of_keeps {t t' : FileTree} (h : ∀ l e, t.get? l = some e → t'.get? l = some e)
    (links : Nat) (start : Location) (pieces : List Name) :
    t'.walk links start pieces = t.walk links start pieces ∨
      ∃ l, t.get? l = none ∧ t'.get? l ≠ none ∧ (t.walk links start pieces = .ok (.free l) ∨
        t.walk links start pieces = .error .notFound) := by
  induction links, start, pieces using FileTree.walk.induct t with
  | case1 links start =>
    left
    rw [FileTree.walk, FileTree.walk]
  | case2 links start n rest hn ih =>
    rw [FileTree.walk, if_pos hn, FileTree.walk, if_pos hn]
    exact ih
  | case3 links start rest hn ih =>
    rw [FileTree.walk, if_neg hn, if_pos rfl, FileTree.walk, if_neg hn, if_pos rfl]
    exact ih
  | case4 links start n rest hn ha hlong =>
    left
    rw [FileTree.walk, if_neg hn, if_neg ha, if_pos hlong, FileTree.walk, if_neg hn, if_neg ha,
      if_pos hlong]
  | case5 links start n hn ha hlong next hnext =>
    rw [walk_name hn ha hlong, walk_name hn ha hlong, show t.get? (start ++ [n]) = _ from hnext]
    by_cases hnew : t'.get? (start ++ [n]) = none
    · left
      rw [hnew]
    · exact .inr ⟨next, hnext, hnew, .inl (if_pos rfl)⟩
  | case6 links start n rest hn ha hlong next hnext hrest =>
    rw [walk_name hn ha hlong, walk_name hn ha hlong, show t.get? (start ++ [n]) = _ from hnext]
    by_cases hnew : t'.get? (start ++ [n]) = none
    · left
      rw [hnew]
    · exact .inr ⟨next, hnext, hnew, .inr (if_neg hrest)⟩
  | case7 links start n rest hn ha hlong next hnext ih =>
    rw [walk_name hn ha hlong, walk_name hn ha hlong, h _ _ hnext,
      show t.get? (start ++ [n]) = _ from hnext]
    exact ih
  | case8 links start n hn ha hlong next content hnext =>
    left
    rw [walk_name hn ha hlong, walk_name hn ha hlong, h _ _ hnext,
      show t.get? (start ++ [n]) = _ from hnext]
  | case9 links start n rest hn ha hlong next content hnext hrest =>
    left
    rw [walk_name hn ha hlong, walk_name hn ha hlong, h _ _ hnext,
      show t.get? (start ++ [n]) = _ from hnext]
  | case10 start n rest hn ha hlong next target hnext =>
    left
    rw [walk_name hn ha hlong, walk_name hn ha hlong, h _ _ hnext,
      show t.get? (start ++ [n]) = _ from hnext]
  | case11 start n rest hn ha hlong next target hnext links ih =>
    rw [walk_name hn ha hlong, walk_name hn ha hlong, h _ _ hnext,
      show t.get? (start ++ [n]) = _ from hnext]
    exact ih

lemma walk_of_get?_eq {t t' : FileTree} (h : ∀ l, t'.get? l = t.get? l) (links : Nat)
    (start : Location) (pieces : List Name) :
    t'.walk links start pieces = t.walk links start pieces := by
  refine (walk_of_keeps (fun l e he => (h l).trans he) links start pieces).resolve_right ?_
  rintro ⟨l, hl, hl', _⟩
  exact hl' ((h l).trans hl)

section
variable {t t' : FileTree}

lemma Reordered.get?_eq (h : Reordered t t') (hproper : ProperNames t) (l : Location) :
    t'.get? l = t.get? l := by
  have hdistinct : (t'.entries.map Prod.fst).Nodup :=
    (h.entries.map Prod.fst).nodup_iff.mpr hproper.distinct
  unfold FileTree.get?
  congr 1
  cases hl : t.entries.lookup l with
  | some e =>
    obtain ⟨before, after, hentries, _⟩ := List.lookup_eq_some_iff.mp hl
    exact lookup_of_mem hdistinct (h.entries.mem_iff.mpr (by simp [hentries]))
  | none =>
    rw [List.lookup_eq_none_iff] at hl ⊢
    intro x hx
    exact hl x (h.entries.mem_iff.mp hx)

lemma Reordered.find_eq (h : Reordered t t') (hproper : ProperNames t) (p : Path) :
    t'.find p = t.find p := by
  unfold FileTree.find
  rw [h.current, walk_of_get?_eq (h.get?_eq hproper)]

lemma Reordered.lists_eq (h : Reordered t t') (hproper : ProperNames t) (dir : Path) :
    lists t' dir = lists t dir := by
  funext n
  unfold lists FileTree.isFolder FileTree.lookup
  rw [h.find_eq hproper]

lemma Reordered.names_perm (h : Reordered t t') (loc : Location) :
    (t'.names loc).Perm (t.names loc) :=
  h.entries.filterMap _

lemma Reordered.listed_perm (h : Reordered t t') (hproper : ProperNames t) (dir : Path)
    (loc : Location) : (listed t' dir (t'.names loc)).Perm (listed t dir (t.names loc)) := by
  unfold listed
  rw [h.lists_eq hproper]
  exact ((h.names_perm loc).filter _).map _

end

/-! ## Names that tie -/

lemma nameLe_antisymm {xs ys : Name} (h : nameLe xs ys = true) (h' : nameLe ys xs = true) :
    xs = ys := by
  induction xs generalizing ys with
  | nil =>
    cases ys with
    | nil => rfl
    | cons b ys => simp [nameLe] at h'
  | cons a xs ih =>
    cases ys with
    | nil => simp [nameLe] at h
    | cons b ys =>
      by_cases hab : a = b
      · subst hab
        rw [nameLe, if_pos rfl] at h h'
        rw [ih h h']
      · rw [nameLe_cons_of_ne hab, decide_eq_true_eq] at h
        rw [nameLe_cons_of_ne (Ne.symm hab), decide_eq_true_eq] at h'
        exact absurd h' (UInt8.lt_asymm h)

/-- Entries that come before one another show the same name. -/
lemma name_eq_of_inOrder {a b : ScanEntry} (h : InOrder a b) (h' : InOrder b a) :
    a.name = b.name := by
  rcases h with hkey | ⟨hkey, hname⟩
  · rcases h' with hkey' | ⟨hkey', _⟩
    · omega
    · omega
  · rcases h' with hkey' | ⟨_, hname'⟩
    · omega
    · exact ofText_injective (nameLe_antisymm hname hname')

/-- Entries that show different names have one page order. -/
lemma inPageOrder_of_perm {l l' : List ScanEntry} (hperm : l'.Perm l)
    (hnames : ∀ a ∈ l, ∀ b ∈ l, a.name = b.name → a = b) : inPageOrder l' = inPageOrder l := by
  have hperm' : (inPageOrder l').Perm (inPageOrder l) :=
    (inPageOrder_perm l').trans (hperm.trans (inPageOrder_perm l).symm)
  refine hperm'.eq_of_pairwise ?_ (inPageOrder_pairwise l') (inPageOrder_pairwise l)
  intro a b ha hb hab hba
  have ha' : a ∈ l := hperm.mem_iff.mp ((inPageOrder_perm l').mem_iff.mp ha)
  have hb' : b ∈ l := (inPageOrder_perm l).mem_iff.mp hb
  exact hnames a ha' b hb' (name_eq_of_inOrder hab hba)

/-- Entries with one name and one key keep the order they are given in. -/
lemma filter_inPageOrder (name : String) (key : Nat) (l : List ScanEntry) :
    (inPageOrder l).filter (fun e => decide (e.name = name ∧ e.sortKey = key)) =
      l.filter (fun e => decide (e.name = name ∧ e.sortKey = key)) := by
  have hkey : ∀ a b : ScanEntry, decide (a.name = name ∧ a.sortKey = key) = true →
      decide (b.name = name ∧ b.sortKey = key) = true → decide (a.sortKey ≤ b.sortKey) = true := by
    intro a b ha hb
    simp only [decide_eq_true_eq] at ha hb ⊢
    omega
  have hname : ∀ a b : ScanEntry, decide (a.name = name ∧ a.sortKey = key) = true →
      decide (b.name = name ∧ b.sortKey = key) = true → textLe a.name b.name = true := by
    intro a b ha hb
    simp only [decide_eq_true_eq] at ha hb
    simp [textLe, ha.1, hb.1]
  unfold inPageOrder
  rw [filter_mergeSort_of_tie (by simp only [decide_eq_true_eq]; omega)
      (by simp only [Bool.or_eq_true, decide_eq_true_eq]; omega) _ hkey,
    filter_mergeSort_of_tie nameOrder_trans nameOrder_total _ hname]

/-- A list without repetitions that reads the same from both ends has one member at most. -/
lemma eq_of_reverse_eq {α : Type} {l : List α} (hnodup : l.Nodup) (h : l.reverse = l) {a b : α}
    (ha : a ∈ l) (hb : b ∈ l) : a = b := by
  have hends : l.head? = l.getLast? := by rw [← List.head?_reverse, h]
  cases l with
  | nil => exact (List.not_mem_nil ha).elim
  | cons x l =>
    cases l with
    | nil => rw [List.mem_singleton.mp ha, List.mem_singleton.mp hb]
    | cons y l =>
      rw [List.head?_cons, List.getLast?_cons_cons] at hends
      exact absurd (List.mem_of_getLast? hends.symm) (List.nodup_cons.mp hnodup).1

/-! ## When scans agree -/

lemma names_reverse (entries : List (Location × Entry)) (current loc : Location) :
    (FileTree.mk entries.reverse current).names loc =
      ((FileTree.mk entries current).names loc).reverse :=
  List.filterMap_reverse

lemma nodup_names {t : FileTree} (h : ProperNames t) (loc : Location) : (t.names loc).Nodup := by
  have hdistinct := h.distinct
  unfold FileTree.names
  rw [List.Nodup, List.pairwise_map] at hdistinct
  refine hdistinct.filterMap _ ?_
  intro x y hxy n hn m hm hnm
  subst hnm
  exact hxy ((location_of_mem_names hn).trans (location_of_mem_names hm).symm)

lemma isAbsolute_of_mem_names {t : FileTree} (h : ProperNames t) {loc : Location} {n : Name}
    (hn : n ∈ t.names loc) : Path.isAbsolute n = false := by
  unfold FileTree.names at hn
  obtain ⟨x, hx, hlast⟩ := List.mem_filterMap.mp hn
  have hmem : n ∈ x.1 := by
    rw [location_of_mem_names hlast]
    simp
  have hslash := h.slashless x hx n hmem
  unfold Path.isAbsolute
  rw [decide_eq_false_iff_not]
  intro hhead
  exact hslash (List.mem_of_head? hhead)

/-- Different children have different paths. -/
lemma join_injective {dir : Path} {m n : Name} (hm : Path.isAbsolute m = false)
    (hn : Path.isAbsolute n = false) (h : Path.join dir m = Path.join dir n) : m = n := by
  unfold Path.join at h
  simp only [hm, hn, Bool.false_eq_true, if_false] at h
  split_ifs at h
  · exact List.append_cancel_left h
  · exact (List.cons.inj (List.append_cancel_left h)).2

lemma nodup_listed {t : FileTree} (h : ProperNames t) (dir : Path) (loc : Location) :
    (listed t dir (t.names loc)).Nodup := by
  unfold listed
  refine List.Nodup.map_on ?_ ((nodup_names h loc).filter _)
  intro m hm n hn hmn
  exact join_injective (isAbsolute_of_mem_names h (List.mem_filter.mp hm).1)
    (isAbsolute_of_mem_names h (List.mem_filter.mp hn).1) (congrArg ScanEntry.path hmn)

/-- The images of a folder are found in the same order for every enumeration of the tree
exactly if no two of them show the same name. -/
theorem findImages_any_enumeration_iff {t : FileTree} (h : ProperNames t) {dir : Path}
    {loc : Location} (hdir : t.find dir = .ok (.taken loc .folder)) :
    (∀ t', Reordered t t' → t'.findImages dir = t.findImages dir) ↔
      ∀ m ∈ t.names loc, ∀ n ∈ t.names loc, lists t dir m = true → lists t dir n = true →
        shownName (Path.join dir m) = shownName (Path.join dir n) → m = n := by
  have hscan : ∀ t', Reordered t t' →
      t'.findImages dir = .ok (inPageOrder (listed t' dir (t'.names loc))) :=
    fun t' ht' => findImages_eq_listed ((ht'.find_eq h dir).trans hdir)
  constructor
  · -- Two images with one name are a tie, which comes out the other way round when the tree is
    -- enumerated backwards.
    intro hsame m hm n hn hlm hln hname
    let back : FileTree := ⟨t.entries.reverse, t.current⟩
    have hback : Reordered t back := ⟨rfl, List.reverse_perm _⟩
    have hlisted : listed back dir (back.names loc) =
        (listed t dir (t.names loc)).reverse := by
      unfold listed
      rw [hback.lists_eq h, names_reverse, List.filter_reverse, List.map_reverse]
    have hscans := hsame back hback
    rw [hscan back hback, findImages_eq_listed hdir, hlisted] at hscans
    have hties := congrArg (List.filter fun e => decide (e.name = (childEntry dir m).name ∧
      e.sortKey = (childEntry dir m).sortKey)) (Except.ok.inj hscans)
    rw [filter_inPageOrder, filter_inPageOrder, List.filter_reverse] at hties
    have hmem : ∀ k ∈ t.names loc, lists t dir k = true →
        shownName (Path.join dir m) = shownName (Path.join dir k) →
        childEntry dir k ∈ (listed t dir (t.names loc)).filter fun e =>
          decide (e.name = (childEntry dir m).name ∧ e.sortKey = (childEntry dir m).sortKey) := by
      intro k hk hlk hshown
      rw [List.mem_filter, decide_eq_true_eq]
      refine ⟨List.mem_map_of_mem (List.mem_filter.mpr ⟨hk, hlk⟩), ?_⟩
      simp [childEntry, ScanEntry.ofPath, hshown]
    have hentries : childEntry dir m = childEntry dir n :=
      eq_of_reverse_eq ((nodup_listed h dir loc).filter _) hties (hmem m hm hlm rfl)
        (hmem n hn hln hname)
    exact join_injective (isAbsolute_of_mem_names h hm) (isAbsolute_of_mem_names h hn)
      (congrArg ScanEntry.path hentries)
  · intro hnames t' ht'
    rw [hscan t' ht', findImages_eq_listed hdir, inPageOrder_of_perm (ht'.listed_perm h dir loc)]
    intro a ha b hb hab
    obtain ⟨m, hm, rfl⟩ := List.mem_map.mp ha
    obtain ⟨n, hn, rfl⟩ := List.mem_map.mp hb
    rw [List.mem_filter] at hm hn
    rw [hnames m hm.1 n hn.1 hm.2 hn.2 hab]

lemma scans_properNames : ProperNames scans := by
  refine ⟨by decide, ?_⟩
  unfold Path.slash
  decide

theorem findImages_any_enumeration_three_scans :
    ProperNames scans ∧ scans.find Path.here = .ok (.taken [] .folder) ∧
      ∀ t', Reordered scans t' → t'.findImages Path.here =
        .ok [scan "Scan (2).bmp" 2, scan "Scan (7).png" 7, scan "Scan (10).bmp" 10] := by
  have hnames : ∀ m ∈ scans.names [], ∀ n ∈ scans.names [],
      shownName (Path.join Path.here m) = shownName (Path.join Path.here n) → m = n := by
    decide +kernel
  refine ⟨scans_properNames, find_here scans, ?_⟩
  intro t' ht'
  rw [(findImages_any_enumeration_iff scans_properNames (find_here scans)).mpr
    (fun m hm n hn _ _ hmn => hnames m hm n hn hmn) t' ht']
  exact scans_findImages

/-! ## Names that show the same text -/

lemma inPageOrder_of_tie {l : List ScanEntry} {name : String} {key : Nat}
    (h : ∀ e ∈ l, e.name = name ∧ e.sortKey = key) : inPageOrder l = l := by
  have hkeep := filter_inPageOrder name key l
  rwa [List.filter_eq_self.mpr (fun e he => decide_eq_true (h e he)), List.filter_eq_self.mpr
    (fun e he => decide_eq_true (h e ((inPageOrder_perm l).mem_iff.mp he)))] at hkeep

/-- A name with a byte in it that is not well formed. -/
def tornName (b : UInt8) : Name :=
  0x61 :: b :: Bytes.ofText ".png"

/-- A folder of empty files with such names, in the order of the bytes given. -/
def tornScans (bs : List UInt8) : FileTree :=
  ⟨bs.map fun b => ([tornName b], .file []), []⟩

lemma tornScans_lists {b : UInt8} (hb : b = 0xFE ∨ b = 0xFF) (bs : List UInt8) :
    lists (tornScans bs) Path.here (tornName b) = true := by
  have hname : IsPlain (tornName b) ∧ isImageFile (Path.join Path.here (tornName b)) = true := by
    rcases hb with rfl | rfl
    · decide
    · decide
  have hfile : ∀ e, (tornScans bs).get? [tornName b] = some e → e = .file [] := by
    intro e he
    unfold FileTree.get? at he
    rw [if_neg (List.cons_ne_nil _ _)] at he
    obtain ⟨before, after, hentries, _⟩ := List.lookup_eq_some_iff.mp he
    have hmem : ([tornName b], e) ∈ (tornScans bs).entries := by simp [hentries]
    simp only [tornScans, List.mem_map, Prod.mk.injEq] at hmem
    obtain ⟨_, _, _, rfl⟩ := hmem
    rfl
  unfold lists FileTree.isFolder FileTree.lookup
  rw [hname.2, find_child hname.1, walk_child hname.1]
  cases hget : (tornScans bs).get? ((tornScans bs).current ++ [tornName b]) with
  | none => rfl
  | some e =>
    obtain rfl := hfile e hget
    rfl

/-- Such files are found in the order in which they are enumerated. -/
lemma tornScans_findImages {bs : List UInt8} (h : ∀ b ∈ bs, b = 0xFE ∨ b = 0xFF) :
    (tornScans bs).findImages Path.here =
      .ok (bs.map fun b => childEntry Path.here (tornName b)) := by
  have hnames : (tornScans bs).names [] = bs.map tornName := by
    simp [FileTree.names, tornScans, List.filterMap_map, Function.comp_def]
  have hlisted : listed (tornScans bs) Path.here ((tornScans bs).names []) =
      bs.map fun b => childEntry Path.here (tornName b) := by
    unfold listed
    rw [hnames, List.filter_eq_self.mpr, List.map_map]
    · rfl
    · rw [List.forall_mem_map]
      exact fun b hb => tornScans_lists (h b hb) bs
  have hroot : (tornScans bs).find Path.here = .ok (.taken [] .folder) := find_here (tornScans bs)
  have htie : ∀ e ∈ bs.map fun b => childEntry Path.here (tornName b),
      e.name = "a�.png" ∧ e.sortKey = 0 := by
    rw [List.forall_mem_map]
    intro b hb
    rcases h b hb with rfl | rfl
    · decide +kernel
    · decide +kernel
  rw [findImages_eq_listed hroot, hlisted, inPageOrder_of_tie htie]

/-- The names `a\xFE.png` and `a\xFF.png` are different, but images with these names are
found in the order of the enumeration. -/
theorem findImages_depends_on_enumeration :
    ProperNames (tornScans [0xFE, 0xFF]) ∧
      Reordered (tornScans [0xFE, 0xFF]) (tornScans [0xFF, 0xFE]) ∧
      (tornScans [0xFF, 0xFE]).findImages Path.here ≠
        (tornScans [0xFE, 0xFF]).findImages Path.here := by
  refine ⟨⟨by decide, ?_⟩, ⟨rfl, .swap _ _ _⟩, ?_⟩
  · unfold Path.slash
    decide
  · rw [tornScans_findImages (by simp), tornScans_findImages (by simp)]
    decide

end ScanBinder.Proofs
