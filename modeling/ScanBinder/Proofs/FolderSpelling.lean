import ScanBinder.Proofs.ScanOrder

/-!
# Spellings of a folder

The name of a child alone says whether it is named like an image, how it is shown and what its key
is. So the way a folder is written shows in a scan only in the paths of the entries, as long as the
children that are folders are found to be folders. This is so for two paths of one folder, unless
the path of a child is too long or leads over too many links.
-/

namespace ScanBinder.Proofs
open FileTree

/-! ## What the name of a child says -/

lemma shownName_join (dir : Path) {n : Name} (hn : IsChildName n) :
    shownName (Path.join dir n) = shownName n := by
  unfold shownName
  rw [fileName?_join hn, fileName?_childName hn]

/-- The entry of a child: its name and key come from its name alone. -/
def namedEntry (dir : Path) (n : Name) : ScanEntry :=
  ⟨Path.join dir n, (ScanEntry.ofPath n).name, (ScanEntry.ofPath n).sortKey⟩

lemma childEntry_eq (dir : Path) {n : Name} (hn : IsChildName n) :
    childEntry dir n = namedEntry dir n := by
  unfold childEntry namedEntry ScanEntry.ofPath
  rw [shownName_join dir hn]

/-- Names in the order of their keys, and of their texts where the keys are the same. -/
def namesInOrder (names : List Name) : List Name :=
  (names.mergeSort fun m n => textLe (shownName m) (shownName n)).mergeSort fun m n =>
    sortKey (shownName m) ≤ sortKey (shownName n)

/-- Sorting entries is sorting the names of the children. -/
lemma inPageOrder_namedEntry (dir : Path) (names : List Name) :
    inPageOrder (names.map (namedEntry dir)) = (namesInOrder names).map (namedEntry dir) := by
  have hname : (names.mergeSort fun m n => textLe (shownName m) (shownName n)).map
      (namedEntry dir) = (names.map (namedEntry dir)).mergeSort fun a b => textLe a.name b.name :=
    List.map_mergeSort fun _ _ _ _ => rfl
  unfold inPageOrder
  rw [← hname]
  symm
  apply List.map_mergeSort
  intro m _ n _
  rfl

/-! ## Walks through a folder -/

/-- A walk over the pieces goes into a folder with some links left, or whatever comes behind them
fails in one way. -/
def WalksOn (t : FileTree) (links : Nat) (start : Location) (pieces : List Name) : Prop :=
  (∃ left loc, ∀ rest, t.walk links start (pieces ++ rest) = t.walk left loc rest) ∨
    (∀ loc, t.walk links start pieces ≠ .ok (.taken loc .folder)) ∧
      ∃ e, ∀ rest, rest ≠ [] → t.walk links start (pieces ++ rest) = .error e

section
variable {t : FileTree}

lemma WalksOn.of_step {links links' : Nat} {start start' : Location} {pieces pieces' : List Name}
    (hstep : ∀ rest, t.walk links start (pieces ++ rest) = t.walk links' start' (pieces' ++ rest))
    (h : WalksOn t links' start' pieces') : WalksOn t links start pieces := by
  have hpieces := hstep []
  rw [List.append_nil, List.append_nil] at hpieces
  unfold WalksOn
  simp only [hstep, hpieces]
  exact h

lemma WalksOn.of_end {links : Nat} {start : Location} {n : Name} {more : List Name} {e : PathError}
    (hnot : ∀ loc, t.walk links start (n :: more) ≠ .ok (.taken loc .folder))
    (hfails : ∀ rest, rest ≠ [] → t.walk links start (n :: rest) = .error e) :
    WalksOn t links start (n :: more) := by
  refine .inr ⟨hnot, e, ?_⟩
  intro rest hrest
  exact hfails _ (List.append_ne_nil_of_right_ne_nil more hrest)

lemma walksOn (links : Nat) (start : Location) (pieces : List Name) :
    WalksOn t links start pieces := by
  induction links, start, pieces using FileTree.walk.induct t with
  | case1 links start => exact .inl ⟨links, start, fun rest => rfl⟩
  | case2 links start n more hn ih =>
    refine ih.of_step fun rest => ?_
    rw [List.cons_append, FileTree.walk, if_pos hn]
  | case3 links start more hn ih =>
    refine ih.of_step fun rest => ?_
    rw [List.cons_append, FileTree.walk, if_neg hn, if_pos rfl]
  | case4 links start n more hn ha hlong =>
    have hfails : ∀ rest, t.walk links start (n :: rest) = .error .nameTooLong := by
      intro rest
      rw [FileTree.walk, if_neg hn, if_neg ha, if_pos hlong]
    exact .of_end (by simp [hfails]) fun rest _ => hfails rest
  | case5 links start n hn ha hlong next hnext =>
    refine .of_end (e := .notFound) ?_ fun rest hrest => ?_
    · rw [walk_name hn ha hlong, show t.get? (start ++ [n]) = _ from hnext]
      simp
    · rw [walk_name hn ha hlong, show t.get? (start ++ [n]) = _ from hnext]
      exact if_neg hrest
  | case6 links start n more hn ha hlong next hnext hmore =>
    refine .of_end (e := .notFound) ?_ fun rest hrest => ?_
    · rw [walk_name hn ha hlong, show t.get? (start ++ [n]) = _ from hnext]
      simp [hmore]
    · rw [walk_name hn ha hlong, show t.get? (start ++ [n]) = _ from hnext]
      exact if_neg hrest
  | case7 links start n more hn ha hlong next hnext ih =>
    refine ih.of_step fun rest => ?_
    rw [List.cons_append, walk_name hn ha hlong, show t.get? (start ++ [n]) = _ from hnext]
  | case8 links start n hn ha hlong next content hnext =>
    refine .of_end (e := .notDirectory) ?_ fun rest hrest => ?_
    · rw [walk_name hn ha hlong, show t.get? (start ++ [n]) = _ from hnext]
      simp
    · rw [walk_name hn ha hlong, show t.get? (start ++ [n]) = _ from hnext]
      exact if_neg hrest
  | case9 links start n more hn ha hlong next content hnext hmore =>
    refine .of_end (e := .notDirectory) ?_ fun rest hrest => ?_
    · rw [walk_name hn ha hlong, show t.get? (start ++ [n]) = _ from hnext]
      simp [hmore]
    · rw [walk_name hn ha hlong, show t.get? (start ++ [n]) = _ from hnext]
      exact if_neg hrest
  | case10 start n more hn ha hlong next target hnext =>
    have hfails : ∀ rest, t.walk 0 start (n :: rest) = .error .tooManyLinks := by
      intro rest
      rw [walk_name hn ha hlong, show t.get? (start ++ [n]) = _ from hnext]
    exact .of_end (by simp [hfails]) fun rest _ => hfails rest
  | case11 start n more hn ha hlong next target hnext links ih =>
    refine ih.of_step fun rest => ?_
    rw [List.cons_append, walk_name hn ha hlong, show t.get? (start ++ [n]) = _ from hnext,
      List.append_assoc]
    rfl

/-- A walk into a folder can be gone on with, also if it had a needless piece at its end. -/
lemma exists_walk_on {links : Nat} {start loc : Location} {front last : List Name}
    (hlast : last = [] ∨ last = [[]])
    (h : t.walk links start (front ++ last) = .ok (.taken loc .folder)) :
    ∃ left, ∀ rest, t.walk links start (front ++ rest) = t.walk left loc rest := by
  rcases walksOn (t := t) links start front with ⟨left, there, hon⟩ | ⟨hnot, e, hfails⟩
  · have hthere : t.walk left there last = .ok (.taken there .folder) := by
      rcases hlast with rfl | rfl
      · rw [FileTree.walk]
      · rw [FileTree.walk, if_pos (.inl rfl), FileTree.walk]
    rw [hon, hthere] at h
    cases h
    exact ⟨left, hon⟩
  · rcases hlast with rfl | rfl
    · rw [List.append_nil] at h
      exact absurd h (hnot loc)
    · rw [hfails _ (List.cons_ne_nil _ _)] at h
      cases h

/-- More links or fewer make a walk end elsewhere only if there are too few. -/
lemma walk_of_links {links : Nat} {start : Location} {pieces : List Name} {place : Place}
    (h : t.walk links start pieces = .ok place) (links' : Nat) :
    t.walk links' start pieces = .ok place ∨
      t.walk links' start pieces = .error .tooManyLinks := by
  revert links'
  fun_induction FileTree.walk t links start pieces with
  | case1 =>
    intro links'
    exact .inl (by rw [FileTree.walk, h])
  | case2 links start n more hn ih =>
    intro links'
    rw [FileTree.walk, if_pos hn]
    exact ih h links'
  | case3 links start more hn ih =>
    intro links'
    rw [FileTree.walk, if_neg hn, if_pos rfl]
    exact ih h links'
  | case4 => cases h
  | case5 links start n hn ha hlong next hnext =>
    intro links'
    rw [walk_name hn ha hlong, show t.get? (start ++ [n]) = _ from hnext]
    exact .inl h
  | case6 => cases h
  | case7 links start n more hn ha hlong next hnext ih =>
    intro links'
    rw [walk_name hn ha hlong, show t.get? (start ++ [n]) = _ from hnext]
    exact ih h links'
  | case8 links start n hn ha hlong next content hnext =>
    intro links'
    rw [walk_name hn ha hlong, show t.get? (start ++ [n]) = _ from hnext]
    exact .inl h
  | case9 => cases h
  | case10 => cases h
  | case11 start n more hn ha hlong next target hnext links ih =>
    intro links'
    rw [walk_name hn ha hlong, show t.get? (start ++ [n]) = _ from hnext]
    cases links' with
    | zero => exact .inr rfl
    | succ links' => exact ih h links'

end

/-! ## Paths of children -/

/-- What comes behind the folder in the path of a child. -/
lemma exists_join_eq (dir : Path) {n : Name} (hn : IsChildName n) :
    ∃ between, (between = [] ∨ between = [Path.slash]) ∧ Path.join dir n = dir ++ between ++ n := by
  unfold Path.join
  rw [hn.isAbsolute_eq_false, if_neg Bool.false_ne_true]
  split_ifs
  · exact ⟨[], .inl rfl, by simp⟩
  · exact ⟨[Path.slash], .inr rfl, by simp⟩

/-- The path of a child is refused as it is written, or leads on from the folder. -/
lemma find_join {t : FileTree} {dir : Path} {loc : Location} {n : Name}
    (hdir : t.find dir = .ok (.taken loc .folder)) (hn : IsChildName n) :
    ∃ left, t.find (Path.join dir n) =
      if n.contains 0 then .error .nulInPath
      else if pathLimit < (Path.join dir n).length then .error .nameTooLong
      else t.walk left loc [n] := by
  unfold FileTree.find at hdir
  generalize hstart : (if Path.isAbsolute dir = true then [] else t.current) = start at hdir
  split_ifs at hdir with hnil hzero hlong
  obtain ⟨front, last, hlast, hpieces, hchild⟩ := pieces_join dir hn
  obtain ⟨between, hbetween, hjoin⟩ := exists_join_eq dir hn
  rw [hpieces] at hdir
  obtain ⟨left, hon⟩ := exists_walk_on hlast hdir
  have hempty : Path.join dir n ≠ [] := by simp [hjoin, hnil]
  have hnul : (Path.join dir n).contains 0 = n.contains 0 := by
    rw [Bool.eq_iff_iff, List.contains_iff_mem, List.contains_iff_mem, hjoin]
    rw [List.contains_iff_mem] at hzero
    rcases hbetween with rfl | rfl
    · simp [hzero]
    · simp [hzero, Path.slash]
  have habsolute : Path.isAbsolute (Path.join dir n) = Path.isAbsolute dir := by
    unfold Path.isAbsolute
    rw [hjoin, List.append_assoc, List.head?_append_of_ne_nil _ hnil]
  refine ⟨left, ?_⟩
  unfold FileTree.find
  rw [if_neg hempty, hnul, habsolute, hstart, hchild, hon]

/-! ## Two ways to write a folder -/

/-- A scan lists a child by its name if it is named like an image and does not lead to a folder. -/
def listedNames (t : FileTree) (dir : Path) (names : List Name) : List Name :=
  names.filter fun n => isImageFile n && !t.isFolder (Path.join dir n)

lemma findImages_eq_named {t : FileTree} {dir : Path} {loc : Location}
    (hdir : t.find dir = .ok (.taken loc .folder)) (hnames : ∀ n ∈ t.names loc, IsChildName n) :
    t.findImages dir =
      .ok ((namesInOrder (listedNames t dir (t.names loc))).map (namedEntry dir)) := by
  have hlists : (t.names loc).filter (lists t dir) = listedNames t dir (t.names loc) := by
    apply List.filter_congr
    intro n hn
    unfold lists
    rw [isImageFile_join_eq dir (hnames n hn)]
  have hentries : (listedNames t dir (t.names loc)).map (childEntry dir) =
      (listedNames t dir (t.names loc)).map (namedEntry dir) := by
    apply List.map_congr_left
    intro n hn
    exact childEntry_eq dir (hnames n (List.mem_filter.mp hn).1)
  rw [findImages_eq_listed hdir, listed, hlists, hentries, inPageOrder_namedEntry]

/-- Two scans show the same names and keys in the same order: those of the children that are
listed. Only the folders in the paths differ. -/
def SameScan (t t' : FileTree) (dir dir' : Path) (names : List Name) : Prop :=
  ∃ shown : List Name, shown.Perm (listedNames t dir names) ∧
    t.findImages dir = .ok (shown.map (namedEntry dir)) ∧
    t'.findImages dir' = .ok (shown.map (namedEntry dir'))

lemma namesInOrder_perm (names : List Name) : (namesInOrder names).Perm names :=
  (List.mergeSort_perm _ _).trans (List.mergeSort_perm _ _)

lemma sameScan_of_isFolder_eq {t t' : FileTree} {dir dir' : Path} {loc loc' : Location}
    (hdir : t.find dir = .ok (.taken loc .folder))
    (hdir' : t'.find dir' = .ok (.taken loc' .folder))
    (hsame : t'.names loc' = t.names loc) (hnames : ∀ n ∈ t.names loc, IsChildName n)
    (hfolder : ∀ n ∈ t.names loc, isImageFile n = true →
      t'.isFolder (Path.join dir' n) = t.isFolder (Path.join dir n)) :
    SameScan t t' dir dir' (t.names loc) := by
  have hlisted : listedNames t' dir' (t.names loc) = listedNames t dir (t.names loc) := by
    apply List.filter_congr
    intro n hn
    cases himage : isImageFile n with
    | false => rfl
    | true => rw [hfolder n hn himage]
  refine ⟨_, namesInOrder_perm _, findImages_eq_named hdir hnames, ?_⟩
  rw [findImages_eq_named hdir' (by rwa [hsame]), hsame, hlisted]

/-- A child leads to a folder by its path in `dir`, and its path in `dir'` is refused: it is too
long, or leads over too many links. -/
def FolderOnlyThrough (t : FileTree) (dir dir' : Path) (n : Name) : Prop :=
  LeadsToFolder t (Path.join dir n) ∧
    (pathLimit < (Path.join dir' n).length ∨ t.find (Path.join dir' n) = .error .tooManyLinks)

lemma leadsToFolder_join {t : FileTree} {dir dir' : Path} {loc : Location} {n : Name}
    (hdir : t.find dir = .ok (.taken loc .folder)) (hdir' : t.find dir' = .ok (.taken loc .folder))
    (hn : IsChildName n) (h : LeadsToFolder t (Path.join dir n)) :
    LeadsToFolder t (Path.join dir' n) ∨ FolderOnlyThrough t dir dir' n := by
  obtain ⟨left, hfind⟩ := find_join hdir hn
  obtain ⟨left', hfind'⟩ := find_join hdir' hn
  obtain ⟨there, hthere⟩ := id h
  rw [hfind] at hthere
  split_ifs at hthere with hnul hlong
  rw [if_neg hnul] at hfind'
  by_cases hlong' : pathLimit < (Path.join dir' n).length
  · exact .inr ⟨h, .inl hlong'⟩
  · rw [if_neg hlong'] at hfind'
    rcases walk_of_links hthere left' with hwalk | hwalk
    · exact .inl ⟨there, hfind'.trans hwalk⟩
    · exact .inr ⟨h, .inr (hfind'.trans hwalk)⟩

/-- A child of a folder is named like an image or not, is shown and has its key by its name alone,
however the folder is written. So scans of two folders with the same children in the same order
differ only in the folders of their paths, and two paths of one folder give the same scan unless
the path of a child that is a folder is refused. -/
theorem findImages_any_spelling :
    (∀ (dir : Path) (n : Name), IsChildName n →
      isImageFile (Path.join dir n) = isImageFile n ∧
      (ScanEntry.ofPath (Path.join dir n)).name = (ScanEntry.ofPath n).name ∧
      (ScanEntry.ofPath (Path.join dir n)).sortKey = (ScanEntry.ofPath n).sortKey) ∧
    (∀ (t t' : FileTree) (dir dir' : Path) (loc loc' : Location),
      t.find dir = .ok (.taken loc .folder) → t'.find dir' = .ok (.taken loc' .folder) →
      t'.names loc' = t.names loc → (∀ n ∈ t.names loc, IsChildName n) →
      (∀ n ∈ t.names loc, isImageFile n = true →
        (LeadsToFolder t' (Path.join dir' n) ↔ LeadsToFolder t (Path.join dir n))) →
      SameScan t t' dir dir' (t.names loc)) ∧
    (∀ (t : FileTree) (dir dir' : Path) (loc : Location),
      t.find dir = .ok (.taken loc .folder) → t.find dir' = .ok (.taken loc .folder) →
      (∀ n ∈ t.names loc, IsChildName n) →
      SameScan t t dir dir' (t.names loc) ∨
      ∃ n ∈ t.names loc, isImageFile n = true ∧
        (FolderOnlyThrough t dir dir' n ∨ FolderOnlyThrough t dir' dir n)) := by
  refine ⟨?_, ?_, ?_⟩
  · intro dir n hn
    have hname : (childEntry dir n).name = (namedEntry dir n).name := by rw [childEntry_eq dir hn]
    have hkey : (childEntry dir n).sortKey = (namedEntry dir n).sortKey := by
      rw [childEntry_eq dir hn]
    exact ⟨isImageFile_join_eq dir hn, hname, hkey⟩
  · intro t t' dir dir' loc loc' hdir hdir' hsame hnames hfolder
    refine sameScan_of_isFolder_eq hdir hdir' hsame hnames ?_
    intro n hn himage
    rw [Bool.eq_iff_iff, isFolder_iff, isFolder_iff]
    exact hfolder n hn himage
  · intro t dir dir' loc hdir hdir' hnames
    by_contra hnot
    rw [not_or, not_exists] at hnot
    obtain ⟨hdiffer, hrefused⟩ := hnot
    refine hdiffer (sameScan_of_isFolder_eq hdir hdir' rfl hnames ?_)
    intro n hn himage
    rw [Bool.eq_iff_iff, isFolder_iff, isFolder_iff]
    constructor
    · intro h
      rcases leadsToFolder_join hdir' hdir (hnames n hn) h with hlead | honly
      · exact hlead
      · exact absurd ⟨hn, himage, .inr honly⟩ (hrefused n)
    · intro h
      rcases leadsToFolder_join hdir hdir' (hnames n hn) h with hlead | honly
      · exact hlead
      · exact absurd ⟨hn, himage, .inl honly⟩ (hrefused n)

/-- With dots that leave room for it, a child is found as it is without. -/
lemma find_dots_short {t : FileTree} {k : Nat} {n : Name} (hn : IsPlain n)
    (hroom : 2 * k + 2 + n.length ≤ pathLimit) :
    t.find (Path.join (dots k) n) = t.find (Path.join Path.here n) := by
  rw [find_dots_child hn, if_neg (by omega), find_child hn]

lemma not_folderOnlyThrough {t : FileTree} {dir dir' : Path} {n : Name}
    (hfind : t.find (Path.join dir' n) = t.find (Path.join dir n))
    (hlength : (Path.join dir' n).length ≤ pathLimit) : ¬FolderOnlyThrough t dir dir' n := by
  rintro ⟨⟨loc, hloc⟩, hlong | hlinks⟩
  · omega
  · rw [hfind, hloc] at hlinks
    cases hlinks

theorem findImages_any_spelling_dots :
    SameScan drawer drawer Path.here (dots 3) (drawer.names []) ∧
      ∃ entries, scans.findImages (dots 3) = .ok entries ∧
        entries.map (fun e => (e.name, e.sortKey)) =
          [("Scan (2).bmp", 2), ("Scan (7).png", 7), ("Scan (10).bmp", 10)] := by
  obtain ⟨-, hfolders, hspellings⟩ := findImages_any_spelling
  constructor
  · have hplain : ∀ n ∈ drawer.names [], IsPlain n ∧ 2 * 3 + 2 + n.length ≤ pathLimit ∧
        (Path.join Path.here n).length ≤ pathLimit ∧ (Path.join (dots 3) n).length ≤ pathLimit := by
      decide
    rcases hspellings drawer Path.here (dots 3) [] (find_here drawer) (find_dots drawer (by decide))
      fun n hn => (hplain n hn).1.isChildName with hsame | ⟨n, hn, -, hrefused⟩
    · exact hsame
    · obtain ⟨hn, hroom, hlength, hlength'⟩ := hplain n hn
      rcases hrefused with hrefused | hrefused
      · exact absurd hrefused (not_folderOnlyThrough (find_dots_short hn hroom) hlength')
      · exact absurd hrefused (not_folderOnlyThrough (find_dots_short hn hroom).symm hlength)
  · have hplain : ∀ n ∈ scans.names [], IsPlain n ∧ 2 * 3 + 2 + n.length ≤ pathLimit := by decide
    obtain ⟨shown, -, hhere, hdots⟩ := hfolders scans scans Path.here (dots 3) [] []
      (find_here scans) (find_dots scans (by decide)) rfl (fun n hn => (hplain n hn).1.isChildName)
      fun n hn _ => by
        rw [LeadsToFolder, LeadsToFolder, find_dots_short (hplain n hn).1 (hplain n hn).2]
    have hentries := Except.ok.inj (hhere.symm.trans scans_findImages)
    refine ⟨_, hdots, ?_⟩
    calc (shown.map (namedEntry (dots 3))).map (fun e => (e.name, e.sortKey))
        = (shown.map (namedEntry Path.here)).map (fun e => (e.name, e.sortKey)) := by
          rw [List.map_map, List.map_map]
          rfl
      _ = [("Scan (2).bmp", 2), ("Scan (7).png", 7), ("Scan (10).bmp", 10)] := by
          rw [hentries]
          rfl

/-- A folder with the name of an image. -/
def shelf : FileTree :=
  ⟨[([Bytes.ofText "a.png"], .folder)], []⟩

/-- The folder in it is not listed, but with so many dots in front its path is too long to see
that it is a folder. -/
theorem findImages_long_spelling_differs :
    shelf.find Path.here = .ok (.taken [] .folder) ∧
      shelf.find (dots 2047) = .ok (.taken [] .folder) ∧
      shelf.findImages Path.here = .ok [] ∧
      shelf.findImages (dots 2047) = .ok [namedEntry (dots 2047) (Bytes.ofText "a.png")] := by
  have hplain : IsPlain (Bytes.ofText "a.png") := by decide
  have hchild : ∀ n ∈ shelf.names [], IsChildName n := by
    intro n hn
    rw [List.mem_singleton.mp hn]
    exact hplain.isChildName
  have hseen : shelf.isFolder (Path.join Path.here (Bytes.ofText "a.png")) = true := by
    rw [isFolder_iff]
    exact ⟨_, (find_child hplain).trans (walk_child hplain)⟩
  have hunseen : shelf.isFolder (Path.join (dots 2047) (Bytes.ofText "a.png")) = false := by
    unfold FileTree.isFolder FileTree.lookup
    rw [find_dots_child hplain, if_pos (by decide)]
  have hhere : shelf.find Path.here = .ok (.taken [] .folder) := find_here shelf
  have hdots : shelf.find (dots 2047) = .ok (.taken [] .folder) := find_dots shelf (by decide)
  refine ⟨hhere, hdots, ?_, ?_⟩
  · have hlisted : listedNames shelf Path.here (shelf.names []) = [] := by
      change List.filter _ [Bytes.ofText "a.png"] = []
      rw [List.filter_cons_of_neg (by simp [hseen]), List.filter_nil]
    rw [findImages_eq_named hhere hchild, hlisted]
    simp [namesInOrder]
  · have hlisted : listedNames shelf (dots 2047) (shelf.names []) = [Bytes.ofText "a.png"] := by
      have himage : isImageFile (Bytes.ofText "a.png") = true := by decide
      change List.filter _ [Bytes.ofText "a.png"] = [Bytes.ofText "a.png"]
      rw [List.filter_cons_of_pos (by simp [hunseen, himage]), List.filter_nil]
    rw [findImages_eq_named hdots hchild, hlisted]
    simp [namesInOrder]

end ScanBinder.Proofs
