import ScanBinder.Proofs.ChildPaths
import ScanBinder.Proofs.Outcomes
import ScanBinder.Proofs.TreeWrites

/-!
# Which images a scan lists

A child of a folder is listed if its name has an image extension and its path does not lead to
a folder. A scan is the listed children in page order, so two trees give the same scan if they
agree on what is listed and enumerate the listed children in the same order.
-/

namespace ScanBinder.Proofs
open FileTree

/-- Whether a scan of the folder at the path `dir` lists the child `n`. -/
def lists (t : FileTree) (dir : Path) (n : Name) : Bool :=
  isImageFile (Path.join dir n) && !t.isFolder (Path.join dir n)

lemma lists_eq_true {t : FileTree} {dir : Path} {n : Name} : lists t dir n = true ↔
    isImageFile (Path.join dir n) = true ∧ ¬LeadsToFolder t (Path.join dir n) := by
  unfold lists
  rw [Bool.and_eq_true, Bool.not_eq_true', ← Bool.not_eq_true, isFolder_iff]

/-- The entry of a child. -/
def childEntry (dir : Path) (n : Name) : ScanEntry :=
  .ofPath (Path.join dir n)

@[simp] lemma childEntry_path (dir : Path) (n : Name) :
    (childEntry dir n).path = Path.join dir n :=
  rfl

/-- The entries of the listed children, as they are enumerated. -/
def listed (t : FileTree) (dir : Path) (names : List Name) : List ScanEntry :=
  (names.filter (lists t dir)).map (childEntry dir)

lemma findImages_eq_listed {t : FileTree} {dir : Path} {loc : Location}
    (h : t.find dir = .ok (.taken loc .folder)) :
    t.findImages dir = .ok (inPageOrder (listed t dir (t.names loc))) := by
  have hfilter : (imageNamed dir (t.names loc)).filter (fun p => !t.isFolder p) =
      ((t.names loc).filter (lists t dir)).map (Path.join dir) := by
    unfold FileTree.imageNamed
    rw [List.filter_filter, List.filter_map]
    congr 2
    funext n
    exact Bool.and_comm _ _
  rw [findImages_of_folder h]
  simp only [FileTree.listingOf, hfilter, List.map_map]
  rfl

lemma mem_findImages {t : FileTree} {dir : Path} {loc : Location} {entries : List ScanEntry}
    (hloc : t.find dir = .ok (.taken loc .folder)) (h : t.findImages dir = .ok entries)
    {e : ScanEntry} :
    e ∈ entries ↔ ∃ n ∈ t.names loc, lists t dir n = true ∧ childEntry dir n = e := by
  rw [findImages_eq_listed hloc] at h
  cases h
  rw [(inPageOrder_perm _).mem_iff, listed, List.mem_map]
  simp only [List.mem_filter, and_assoc]

lemma exists_entries_of_lists {t : FileTree} {dir : Path} {loc : Location}
    (hloc : t.find dir = .ok (.taken loc .folder))
    (hall : ∀ n ∈ t.names loc, lists t dir n = true) :
    ∃ entries, t.findImages dir = .ok entries ∧
      ∀ e, e ∈ entries ↔ ∃ n ∈ t.names loc, e = childEntry dir n := by
  have hfound := findImages_eq_listed hloc
  refine ⟨_, hfound, fun e => (mem_findImages hloc hfound).trans ?_⟩
  constructor
  · rintro ⟨n, hn, _, rfl⟩
    exact ⟨n, hn, rfl⟩
  · rintro ⟨n, hn, rfl⟩
    exact ⟨n, hn, hall n hn, rfl⟩

/-! ## Children of the current folder -/

/-- A name that one component of a path can be. -/
def IsPlain (n : Name) : Prop :=
  n ≠ [] ∧ n ≠ Path.here ∧ n ≠ Path.above ∧ Path.slash ∉ n ∧ 0 ∉ n ∧ n.length ≤ nameLimit

instance : DecidablePred IsPlain :=
  fun n => inferInstanceAs (Decidable (n ≠ [] ∧ n ≠ Path.here ∧ n ≠ Path.above ∧
    Path.slash ∉ n ∧ 0 ∉ n ∧ n.length ≤ nameLimit))

lemma IsPlain.isChildName {n : Name} (h : IsPlain n) : IsChildName n :=
  ⟨h.1, h.2.1, h.2.2.1, h.2.2.2.1⟩

/-- The current folder, written with a number of needless components. -/
def dots : Nat → Path
  | 0 => Path.here
  | k + 1 => Path.dot :: Path.slash :: dots k

lemma length_dots (k : Nat) : (dots k).length = 2 * k + 1 := by
  induction k with
  | zero => rfl
  | succ k ih =>
    rw [dots, List.length_cons, List.length_cons, ih]
    omega

lemma dots_ne_nil (k : Nat) : dots k ≠ [] :=
  List.ne_nil_of_length_pos (by rw [length_dots]; omega)

lemma mem_dots {b : UInt8} {k : Nat} (h : b ∈ dots k) : b = Path.dot ∨ b = Path.slash := by
  induction k with
  | zero => exact .inl (List.mem_singleton.mp h)
  | succ k ih =>
    rw [dots, List.mem_cons, List.mem_cons] at h
    rcases h with h | h | h
    · exact .inl h
    · exact .inr h
    · exact ih h

lemma getLast?_dots (k : Nat) : (dots k).getLast? = some Path.dot := by
  induction k with
  | zero => rfl
  | succ k ih =>
    rw [dots, List.getLast?_cons_of_ne_nil (List.cons_ne_nil _ _),
      List.getLast?_cons_of_ne_nil (dots_ne_nil k), ih]

lemma isAbsolute_dots_append (k : Nat) (p : Path) : Path.isAbsolute (dots k ++ p) = false := by
  cases k with
  | zero => rfl
  | succ k => rfl

lemma pieces_dots (k : Nat) : Path.pieces (dots k) = List.replicate (k + 1) Path.here := by
  induction k with
  | zero => rfl
  | succ k ih =>
    have hfirst : Path.pieces (dots (k + 1)) = Path.pieces Path.here ++ Path.pieces (dots k) :=
      pieces_append_slash Path.here (dots k)
    rw [hfirst, ih]
    rfl

lemma pieces_dots_append (k : Nat) (p : Path) :
    Path.pieces (dots k ++ Path.slash :: p) =
      List.replicate (k + 1) Path.here ++ Path.pieces p := by
  rw [pieces_append_slash, pieces_dots]

lemma walk_replicate_here (t : FileTree) (links : Nat) (start : Location) (k : Nat)
    (rest : List Name) :
    t.walk links start (List.replicate k Path.here ++ rest) = t.walk links start rest := by
  induction k with
  | zero => rfl
  | succ k ih => rw [List.replicate_succ, List.cons_append, FileTree.walk, if_pos (.inr rfl), ih]

/-- The current folder is found unless its path is too long. -/
lemma find_dots (t : FileTree) {k : Nat} (hk : 2 * k + 1 ≤ pathLimit) :
    t.find (dots k) = .ok (.taken t.current .folder) := by
  have hzero : ¬(dots k).contains 0 = true := by
    rw [List.contains_iff_mem]
    intro hmem
    rcases mem_dots hmem with h | h
    · exact absurd h (by decide)
    · exact absurd h (by decide)
  have hrelative := isAbsolute_dots_append k []
  rw [List.append_nil] at hrelative
  unfold FileTree.find
  rw [if_neg (dots_ne_nil k), if_neg hzero, if_neg (by rw [length_dots]; omega), hrelative,
    if_neg Bool.false_ne_true, pieces_dots, ← List.append_nil (List.replicate _ _),
    walk_replicate_here, FileTree.walk]

lemma find_here (t : FileTree) : t.find Path.here = .ok (.taken t.current .folder) :=
  find_dots t (show 2 * 0 + 1 ≤ pathLimit by decide)

lemma join_dots (k : Nat) {n : Name} (hn : IsPlain n) :
    Path.join (dots k) n = dots k ++ Path.slash :: n := by
  unfold Path.join
  rw [hn.isChildName.isAbsolute_eq_false, if_neg Bool.false_ne_true, if_neg]
  rw [getLast?_dots]
  simp only [dots_ne_nil, false_or]
  decide

/-- A child of the current folder is found in one step, unless its path is too long. -/
lemma find_dots_child {t : FileTree} {k : Nat} {n : Name} (hn : IsPlain n) :
    t.find (Path.join (dots k) n) =
      if pathLimit < 2 * k + 2 + n.length then .error .nameTooLong
      else t.walk linkLimit t.current [n] := by
  have ⟨_, _, _, hslash, hnul, _⟩ := hn
  have hzero : ¬(dots k ++ Path.slash :: n).contains 0 = true := by
    rw [List.contains_iff_mem, List.mem_append, List.mem_cons]
    rintro (h | h | h)
    · rcases mem_dots h with h | h
      · exact absurd h (by decide)
      · exact absurd h (by decide)
    · exact absurd h (by decide)
    · exact hnul h
  have hlength : (dots k ++ Path.slash :: n).length = 2 * k + 2 + n.length := by
    rw [List.length_append, length_dots, List.length_cons]
    omega
  rw [join_dots k hn]
  unfold FileTree.find
  rw [if_neg (List.append_ne_nil_of_left_ne_nil (dots_ne_nil k) _), if_neg hzero, hlength,
    isAbsolute_dots_append, if_neg Bool.false_ne_true, pieces_dots_append,
    pieces_of_slashless hslash, walk_replicate_here]

lemma find_child {t : FileTree} {n : Name} (hn : IsPlain n) :
    t.find (Path.join Path.here n) = t.walk linkLimit t.current [n] := by
  have hlong : ¬pathLimit < 2 * 0 + 2 + n.length := by
    have hlimit := hn.2.2.2.2.2
    unfold nameLimit at hlimit
    unfold pathLimit
    omega
  have hchild : t.find (Path.join (dots 0) n) = _ := find_dots_child hn
  exact hchild.trans (if_neg hlong)

lemma walk_child {t : FileTree} {n : Name} (hn : IsPlain n) {links : Nat} {start : Location} :
    t.walk links start [n] =
      match t.get? (start ++ [n]) with
      | none => .ok (.free (start ++ [n]))
      | some .folder => .ok (.taken (start ++ [n]) .folder)
      | some (.file content) => .ok (.taken (start ++ [n]) (.file content))
      | some (.link target) =>
        match links with
        | 0 => .error .tooManyLinks
        | links + 1 =>
          t.walk links (if Path.isAbsolute target then [] else start) (Path.pieces target) := by
  obtain ⟨hempty, hhere, habove, hslash, hnul, hlong⟩ := hn
  rw [walk_name (by simp [hempty, hhere]) habove (by omega)]
  cases t.get? (start ++ [n]) with
  | none => rfl
  | some e =>
    cases e with
    | folder => exact FileTree.walk.eq_1 ..
    | file content => rfl
    | link target =>
      cases links with
      | zero => rfl
      | succ links => exact congrArg _ (List.append_nil _)

lemma find_child_file {t : FileTree} {n : Name} {content : Bytes} (hn : IsPlain n)
    (h : t.get? (t.current ++ [n]) = some (.file content)) :
    t.find (Path.join Path.here n) = .ok (.taken (t.current ++ [n]) (.file content)) := by
  rw [find_child hn, walk_child hn, h]

/-- A link to another child is followed in one step more. -/
lemma find_child_link {t : FileTree} {n target : Name} (hn : IsPlain n) (htarget : IsPlain target)
    (h : t.get? (t.current ++ [n]) = some (.link target)) :
    t.find (Path.join Path.here n) = t.walk (linkLimit - 1) t.current [target] := by
  rw [find_child hn, walk_child hn, h]
  change t.walk (linkLimit - 1) (if Path.isAbsolute target = true then [] else t.current)
    (Path.pieces target) = _
  rw [htarget.isChildName.isAbsolute_eq_false, if_neg Bool.false_ne_true,
    pieces_of_slashless htarget.2.2.2.1]

lemma lists_child {t : FileTree} {k : Nat} {n : Name} (hn : IsPlain n)
    (himage : isImageFile (Path.join Path.here n) = true) {r : Except PathError Place}
    (hfind : t.find (childEntry (dots k) n).path = r) (hr : ∀ l, r ≠ .ok (.taken l .folder)) :
    lists t (dots k) n = true := by
  have hfolder : t.isFolder (Path.join (dots k) n) = false := by
    rw [← Bool.not_eq_true, isFolder_iff]
    rintro ⟨l, hl⟩
    exact hr l (hfind.symm.trans hl)
  unfold lists
  rw [isImageFile_join_eq _ hn.isChildName, ← isImageFile_join_eq Path.here hn.isChildName,
    himage, hfolder]
  rfl

lemma writeLocation_child {t : FileTree} {n : Name} (hn : IsPlain n)
    (hfree : t.get? (t.current ++ [n]) = none) :
    t.writeLocation (Path.join Path.here n) = .ok (t.current ++ [n]) := by
  refine writeLocation_eq_ok.mpr (.inl ?_)
  rw [find_child hn, walk_child hn, hfree]

/-! ## After a file was written -/

lemma location_of_mem_names {loc l : Location} {n : Name}
    (h : (if l.dropLast = loc then l.getLast? else none) = some n) : l = loc ++ [n] := by
  split_ifs at h with hl
  rw [← hl]
  exact (List.dropLast_append_getLast? n h).symm

lemma mem_names_of_get? {t : FileTree} {loc : Location} {n : Name} {e : Entry}
    (h : t.get? (loc ++ [n]) = some e) : n ∈ t.names loc := by
  unfold FileTree.get? at h
  rw [if_neg (by simp)] at h
  obtain ⟨before, after, hentries, _⟩ := List.lookup_eq_some_iff.mp h
  unfold FileTree.names
  rw [List.mem_filterMap]
  exact ⟨(loc ++ [n], e), by simp [hentries], by simp⟩

/-- The names in a folder other than the one at `loc` do not depend on what stands there. -/
lemma names_of_sameElsewhere {t t' : FileTree} {loc : Location} (h : SameElsewhere loc t t')
    (dir : Location) :
    (t'.names dir).filter (fun n => decide (dir ++ [n] ≠ loc)) =
      (t.names dir).filter (fun n => decide (dir ++ [n] ≠ loc)) := by
  have hnames : ∀ s : FileTree, (s.names dir).filter (fun n => decide (dir ++ [n] ≠ loc)) =
      (s.entries.filter fun x => decide (x.1 ≠ loc)).filterMap fun x =>
        if x.1.dropLast = dir then x.1.getLast? else none := by
    intro s
    unfold FileTree.names
    rw [List.filter_filterMap, List.filterMap_filter]
    congr 1
    funext x
    cases hx : (if x.1.dropLast = dir then x.1.getLast? else none) with
    | none => simp [hx]
    | some n => simp [Option.filter_some, location_of_mem_names hx]
  rw [hnames, hnames, h.entries]

section
variable {t t' : FileTree} {loc : Location} {content : Bytes}

lemma isFolder_of_writtenAt (h : WrittenAt loc content t t') (p : Path) :
    t'.isFolder p = t.isFolder p := by
  have hafter := find_afterWrite h p
  unfold FileTree.isFolder FileTree.lookup
  generalize t.find p = r at hafter ⊢
  generalize t'.find p = r' at hafter ⊢
  cases hafter with
  | untouched => rfl
  | written hr =>
    rcases hr with rfl | ⟨old, rfl⟩
    · rfl
    · rfl
  | blocked => rfl

lemma find_folder_of_writtenAt (h : WrittenAt loc content t t') {p : Path} {dir : Location}
    (hp : t.find p = .ok (.taken dir .folder)) : t'.find p = .ok (.taken dir .folder) := by
  have hafter := find_afterWrite h p
  rw [hp] at hafter
  generalize t'.find p = r' at hafter ⊢
  cases hafter with
  | untouched => rfl
  | written hr => simp at hr

/-- A scan that does not list the written file is the same as before. -/
theorem findImages_of_writtenAt (h : WrittenAt loc content t t') {dir : Path} {dirLoc : Location}
    (hdir : t.find dir = .ok (.taken dirLoc .folder))
    (hnot : ∀ n, dirLoc ++ [n] = loc → lists t' dir n = false) :
    t'.findImages dir = t.findImages dir := by
  have hlists : lists t' dir = lists t dir := by
    funext n
    unfold lists
    rw [isFolder_of_writtenAt h]
  have hdrop : ∀ s : FileTree, (s.names dirLoc).filter (lists t' dir) =
      ((s.names dirLoc).filter fun n => decide (dirLoc ++ [n] ≠ loc)).filter (lists t' dir) := by
    intro s
    rw [List.filter_filter]
    apply List.filter_congr
    intro n _
    by_cases hn : dirLoc ++ [n] = loc
    · simp [hnot n hn]
    · simp [hn]
  rw [findImages_eq_listed (find_folder_of_writtenAt h hdir), findImages_eq_listed hdir]
  unfold listed
  rw [← hlists, hdrop t, hdrop t', names_of_sameElsewhere h.toSameElsewhere]

end

end ScanBinder.Proofs
