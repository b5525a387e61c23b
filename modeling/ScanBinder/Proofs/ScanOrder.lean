import ScanBinder.Proofs.ChildPaths
import ScanBinder.Proofs.Enumeration

/-!
# Scans are sorted stably

Sorting by name and then by key is one stable sort by the pair of both. A list in this order is
known by its entries and by the order of those that tie, so a part of the entries is sorted as it
stands in the whole.
-/

namespace ScanBinder.Proofs
open FileTree

/-! ## The order of key and name -/

instance : DecidableRel InOrder :=
  fun a b => inferInstanceAs (Decidable (a.sortKey < b.sortKey ∨ a.sortKey = b.sortKey ∧
    nameLe (Bytes.ofText a.name) (Bytes.ofText b.name) = true))

/-- The first entry has the smaller key, or the keys are the same and the bytes of its name come
first and are others. -/
def StrictlyInOrder (a b : ScanEntry) : Prop :=
  a.sortKey < b.sortKey ∨
    a.sortKey = b.sortKey ∧ StrictlyBefore (Bytes.ofText a.name) (Bytes.ofText b.name)

instance : DecidableRel StrictlyInOrder :=
  fun a b => inferInstanceAs (Decidable (a.sortKey < b.sortKey ∨ a.sortKey = b.sortKey ∧
    nameLe (Bytes.ofText a.name) (Bytes.ofText b.name) = true ∧
      nameLe (Bytes.ofText b.name) (Bytes.ofText a.name) = false))

/-- Whether an entry has the key and the name of another. -/
def tiesWith (a e : ScanEntry) : Bool :=
  decide (e.name = a.name ∧ e.sortKey = a.sortKey)

lemma inOrder_trans {a b c : ScanEntry} (hab : InOrder a b) (hbc : InOrder b c) : InOrder a c := by
  rcases hab with hab | ⟨hab, hname⟩
  · rcases hbc with hbc | ⟨hbc, _⟩
    · exact .inl (hab.trans hbc)
    · exact .inl (hbc ▸ hab)
  · rcases hbc with hbc | ⟨hbc, hname'⟩
    · exact .inl (hab ▸ hbc)
    · exact .inr ⟨hab.trans hbc, nameLe_trans hname hname'⟩

lemma inOrder_total (a b : ScanEntry) : InOrder a b ∨ InOrder b a := by
  rcases Nat.lt_trichotomy a.sortKey b.sortKey with hkey | hkey | hkey
  · exact .inl (.inl hkey)
  · rcases nameLe_total (Bytes.ofText a.name) (Bytes.ofText b.name) with hname | hname
    · exact .inl (.inr ⟨hkey, hname⟩)
    · exact .inr (.inr ⟨hkey.symm, hname⟩)
  · exact .inr (.inl hkey)

lemma tiesWith_self (a : ScanEntry) : tiesWith a a = true :=
  decide_eq_true ⟨rfl, rfl⟩

lemma tiesWith_iff {a e : ScanEntry} : tiesWith a e = true ↔ InOrder a e ∧ InOrder e a := by
  unfold tiesWith
  rw [decide_eq_true_eq]
  constructor
  · rintro ⟨hname, hkey⟩
    have hrefl : nameLe (Bytes.ofText a.name) (Bytes.ofText a.name) = true :=
      (nameLe_total _ _).elim id id
    exact ⟨.inr ⟨hkey.symm, hname ▸ hrefl⟩, .inr ⟨hkey, hname ▸ hrefl⟩⟩
  · rintro ⟨hae, hea⟩
    refine ⟨(name_eq_of_inOrder hae hea).symm, ?_⟩
    rcases hae with hkey | ⟨hkey, _⟩
    · rcases hea with hkey' | ⟨hkey', _⟩
      · omega
      · omega
    · exact hkey.symm

lemma tiesWith_eq {a b : ScanEntry} (h : tiesWith a b = true) : tiesWith b = tiesWith a := by
  obtain ⟨hname, hkey⟩ := of_decide_eq_true h
  funext e
  unfold tiesWith
  rw [hname, hkey]

/-- Behind an entry that comes after a tie without being one there are no more of them. -/
lemma filter_tiesWith_eq_nil {a b c : ScanEntry} {s : List ScanEntry}
    (hs : (a :: s).Pairwise InOrder) (hba : InOrder b a) (hcb : tiesWith c b = true)
    (hca : tiesWith c a = false) : (a :: s).filter (tiesWith c) = [] := by
  rw [List.filter_eq_nil_iff]
  intro x hx hcx
  have hax : InOrder a x := by
    rcases List.mem_cons.mp hx with rfl | hx
    · exact (tiesWith_iff.mp (tiesWith_self x)).1
    · exact (List.pairwise_cons.mp hs).1 x hx
  have hxb : InOrder x b := by
    rw [← tiesWith_eq hcx, tiesWith_iff] at hcb
    exact hcb.1
  have htie : tiesWith b a = true := tiesWith_iff.mpr ⟨hba, inOrder_trans hax hxb⟩
  rw [tiesWith_eq hcb, hca] at htie
  cases htie

/-- A sorted list is part of another if its ties are, one by one. -/
lemma sublist_of_ties {s s' : List ScanEntry} (hs : s.Pairwise InOrder) (hs' : s'.Pairwise InOrder)
    (h : ∀ a, (s.filter (tiesWith a)).Sublist (s'.filter (tiesWith a))) : s.Sublist s' := by
  induction s' generalizing s with
  | nil =>
    cases s with
    | nil => exact List.Sublist.refl _
    | cons a s =>
      have hnone := h a
      rw [List.filter_cons_of_pos (tiesWith_self a)] at hnone
      cases hnone
  | cons b s' ih =>
    rw [List.pairwise_cons] at hs'
    cases s with
    | nil => exact List.nil_sublist _
    | cons a s =>
      by_cases hab : a = b
      · subst hab
        refine (ih hs.of_cons hs'.2 ?_).cons_cons a
        intro c
        have hc := h c
        cases hca : tiesWith c a with
        | true =>
          rw [List.filter_cons_of_pos hca, List.filter_cons_of_pos hca] at hc
          exact List.cons_sublist_cons.mp hc
        | false =>
          rw [List.filter_cons_of_neg (by simp [hca]), List.filter_cons_of_neg (by simp [hca])] at hc
          exact hc
      · -- `b` comes before `a`, which is further back in the longer list, and is left out
        have ha : a ∈ s' := by
          have hmem : a ∈ (b :: s').filter (tiesWith a) :=
            (h a).subset (List.mem_filter.mpr ⟨List.mem_cons_self .., tiesWith_self a⟩)
          exact (List.mem_cons.mp (List.mem_filter.mp hmem).1).resolve_left hab
        refine (ih hs hs'.2 ?_).cons b
        intro c
        have hc := h c
        cases hcb : tiesWith c b with
        | false =>
          rw [List.filter_cons_of_neg (a := b) (by simp [hcb])] at hc
          exact hc
        | true =>
          rw [List.filter_cons_of_pos hcb] at hc
          cases hca : tiesWith c a with
          | true =>
            rw [List.filter_cons_of_pos hca] at hc ⊢
            cases hc with
            | cons _ hc => exact hc
            | cons_cons _ hc => exact absurd rfl hab
          | false =>
            rw [filter_tiesWith_eq_nil hs (hs'.1 a ha) hcb hca]
            exact List.nil_sublist _

/-! ## One stable sort -/

/-- The entries of `l` in the order of key and name, and ties as they are in `l`. -/
structure StablySorted (l l' : List ScanEntry) : Prop where
  perm : l'.Perm l
  inOrder : l'.Pairwise InOrder
  ties : ∀ a, l'.filter (tiesWith a) = l.filter (tiesWith a)

lemma StablySorted.unique {l s s' : List ScanEntry} (h : StablySorted l s) (h' : StablySorted l s') :
    s = s' := by
  apply List.Sublist.antisymm
  · exact sublist_of_ties h.inOrder h'.inOrder fun a => by rw [h.ties, h'.ties]
  · exact sublist_of_ties h'.inOrder h.inOrder fun a => by rw [h.ties, h'.ties]

theorem stablySorted_inPageOrder (l : List ScanEntry) : StablySorted l (inPageOrder l) :=
  ⟨inPageOrder_perm l, inPageOrder_pairwise l, fun a => filter_inPageOrder a.name a.sortKey l⟩

lemma inPageOrder_of_pairwise {l : List ScanEntry} (h : l.Pairwise InOrder) : inPageOrder l = l :=
  (stablySorted_inPageOrder l).unique ⟨.refl l, h, fun _ => rfl⟩

lemma stablySorted_mergeSort (l : List ScanEntry) :
    StablySorted l (l.mergeSort fun a b => decide (InOrder a b)) := by
  have htrans : ∀ a b c : ScanEntry, decide (InOrder a b) = true → decide (InOrder b c) = true →
      decide (InOrder a c) = true := by
    simp only [decide_eq_true_eq]
    exact fun a b c => inOrder_trans
  have htotal : ∀ a b : ScanEntry, (decide (InOrder a b) || decide (InOrder b a)) = true := by
    simp only [Bool.or_eq_true, decide_eq_true_eq]
    exact inOrder_total
  refine ⟨List.mergeSort_perm _ _, ?_, ?_⟩
  · exact (List.pairwise_mergeSort htrans htotal l).imp fun h => of_decide_eq_true h
  · intro a
    apply filter_mergeSort_of_tie htrans htotal
    intro b c hb hc
    rw [← tiesWith_eq hb, tiesWith_iff] at hc
    exact decide_eq_true hc.1

/-- The part of the entries that a test picks out stands in the scan as it is sorted alone. -/
lemma filter_inPageOrder_eq (p : ScanEntry → Bool) (l : List ScanEntry) :
    (inPageOrder l).filter p = inPageOrder (l.filter p) := by
  have hsorted := stablySorted_inPageOrder l
  refine StablySorted.unique ⟨hsorted.perm.filter p, hsorted.inOrder.filter p, ?_⟩
    (stablySorted_inPageOrder _)
  intro a
  rw [List.filter_comm, hsorted.ties, List.filter_comm]

lemma inPageOrder_sublist {l l' : List ScanEntry} (h : l.Sublist l') :
    (inPageOrder l).Sublist (inPageOrder l') := by
  apply sublist_of_ties (inPageOrder_pairwise l) (inPageOrder_pairwise l')
  intro a
  rw [(stablySorted_inPageOrder l).ties, (stablySorted_inPageOrder l').ties]
  exact h.filter _

/-! ## What a scan finds -/

/-- What a file system sees to in a folder: its names are different and can be parts of paths. -/
structure FolderNames (names : List Name) : Prop where
  distinct : names.Nodup
  isChildName : ∀ n ∈ names, IsChildName n

lemma lists_iff {t : FileTree} {dir : Path} {n : Name} (hn : IsChildName n) :
    lists t dir n = true ↔ HasImageExtension n ∧ ¬LeadsToFolder t (Path.join dir n) := by
  rw [lists_eq_true, isImageFile_join hn]

lemma nodup_map_childEntry {dir : Path} {names : List Name} (h : FolderNames names) :
    (names.map (childEntry dir)).Nodup := by
  refine List.Nodup.map_on ?_ h.distinct
  intro m hm n hn hmn
  exact join_injective (h.isChildName m hm).isAbsolute_eq_false
    (h.isChildName n hn).isAbsolute_eq_false (congrArg ScanEntry.path hmn)

lemma FolderNames.sublist {names names' : List Name} (h : FolderNames names)
    (hsub : names'.Sublist names) : FolderNames names' :=
  ⟨h.distinct.sublist hsub, fun n hn => h.isChildName n (hsub.subset hn)⟩

lemma strictlyInOrder_of_ne {a b : ScanEntry} (h : InOrder a b) (hne : a.name ≠ b.name) :
    StrictlyInOrder a b := by
  rcases h with hkey | ⟨hkey, hname⟩
  · exact .inl hkey
  · refine .inr ⟨hkey, hname, ?_⟩
    rw [← Bool.not_eq_true]
    exact fun hname' => hne (ofText_injective (nameLe_antisymm hname hname'))

lemma inOrder_of_strictlyInOrder {a b : ScanEntry} (h : StrictlyInOrder a b) : InOrder a b := by
  rcases h with hkey | ⟨hkey, hname, _⟩
  · exact .inl hkey
  · exact .inr ⟨hkey, hname⟩

/-- Entries that show different names have one arrangement that goes up strictly. -/
lemma eq_inPageOrder_iff {l : List ScanEntry} (hnames : (l.map ScanEntry.name).Nodup)
    (s : List ScanEntry) :
    s = inPageOrder l ↔ s.Perm l ∧ s.Pairwise StrictlyInOrder := by
  constructor
  · rintro rfl
    have hdifferent : (inPageOrder l).Pairwise fun a b => a.name ≠ b.name := by
      rw [← List.pairwise_map]
      exact ((inPageOrder_perm l).map _).nodup_iff.mpr hnames
    refine ⟨inPageOrder_perm l, ?_⟩
    exact (inPageOrder_pairwise l).imp₂ (fun _ _ h hne => strictlyInOrder_of_ne h hne) hdifferent
  · rintro ⟨hperm, hstrict⟩
    have hnames' : ∀ a ∈ l, ∀ b ∈ l, a.name = b.name → a = b := List.inj_on_of_nodup_map hnames
    rw [← inPageOrder_of_perm hperm hnames']
    exact (inPageOrder_of_pairwise (hstrict.imp inOrder_of_strictlyInOrder)).symm

/-- A scan finds the children that are named like images and do not lead to a folder, each once,
in the order of key and name and those that tie in the order of enumeration. One stable sort by
key and name gives the same, and names that differ leave no other arrangement. -/
theorem findImages_stably_sorted {t : FileTree} {dir : Path} {loc : Location}
    (hdir : t.find dir = .ok (.taken loc .folder)) (hnames : FolderNames (t.names loc)) :
    ∃ (kept : List Name) (entries : List ScanEntry), kept.Sublist (t.names loc) ∧
      (∀ n, n ∈ kept ↔ n ∈ t.names loc ∧ HasImageExtension n ∧
        ¬LeadsToFolder t (Path.join dir n)) ∧
      t.findImages dir = .ok entries ∧ entries.Nodup ∧
      StablySorted (kept.map (childEntry dir)) entries ∧
      entries = (kept.map (childEntry dir)).mergeSort (fun a b => decide (InOrder a b)) ∧
      ((entries.map ScanEntry.name).Nodup → ∀ s, s = entries ↔
        s.Perm (kept.map (childEntry dir)) ∧ s.Pairwise StrictlyInOrder) := by
  let kept := (t.names loc).filter (lists t dir)
  have hkept : kept.Sublist (t.names loc) := List.filter_sublist
  have hsorted := stablySorted_inPageOrder (kept.map (childEntry dir))
  refine ⟨kept, inPageOrder (kept.map (childEntry dir)), hkept, ?_, findImages_eq_listed hdir,
    ?_, hsorted, hsorted.unique (stablySorted_mergeSort _), ?_⟩
  · intro n
    rw [List.mem_filter]
    exact and_congr_right fun hn => lists_iff (hnames.isChildName n hn)
  · exact hsorted.perm.nodup_iff.mpr (nodup_map_childEntry (hnames.sublist hkept))
  · intro hdistinct
    exact eq_inPageOrder_iff ((hsorted.perm.map _).nodup_iff.mp hdistinct)

/-- Files, a folder, a link to it, and a link that leads nowhere. -/
def drawer : FileTree :=
  ⟨[([Bytes.ofText "Scan (2).jpg"], .link (Bytes.ofText "gone")),
    ([Bytes.ofText "b.PNG"], .file []), ([Bytes.ofText "x.bmp"], .link (Bytes.ofText "old")),
    ([Bytes.ofText "old"], .folder), ([Bytes.ofText ".png"], .file []),
    ([Bytes.ofText "a.tiff"], .file [])], []⟩

lemma drawer_folderNames : FolderNames (drawer.names []) := by
  refine ⟨by decide, ?_⟩
  intro n hn
  have hplain : IsPlain n := by
    revert n
    decide
  exact hplain.isChildName

lemma drawer_find :
    drawer.find (Path.join Path.here (Bytes.ofText "Scan (2).jpg")) =
        .ok (.free [Bytes.ofText "gone"]) ∧
      drawer.find (Path.join Path.here (Bytes.ofText "x.bmp")) =
        .ok (.taken [Bytes.ofText "old"] .folder) ∧
      drawer.find (Path.join Path.here (Bytes.ofText "b.PNG")) =
        .ok (.taken [Bytes.ofText "b.PNG"] (.file [])) ∧
      drawer.find (Path.join Path.here (Bytes.ofText "a.tiff")) =
        .ok (.taken [Bytes.ofText "a.tiff"] (.file [])) := by
  refine ⟨?_, ?_, find_child_file (by decide) rfl, find_child_file (by decide) rfl⟩
  · exact (find_child_link (by decide) (by decide) rfl).trans (walk_child (by decide))
  · exact (find_child_link (by decide) (by decide) rfl).trans (walk_child (by decide))

/-- The names that are listed: a link counts as what it leads to, and as a file if that is nothing. -/
lemma drawer_lists : ∀ n ∈ drawer.names [], lists drawer Path.here n =
    decide (n ∈ [Bytes.ofText "Scan (2).jpg", Bytes.ofText "b.PNG", Bytes.ofText "a.tiff"]) := by
  obtain ⟨hlink, hfolder, hpng, htiff⟩ := drawer_find
  intro n hn
  change n ∈ [Bytes.ofText "Scan (2).jpg", Bytes.ofText "b.PNG", Bytes.ofText "x.bmp",
    Bytes.ofText "old", Bytes.ofText ".png", Bytes.ofText "a.tiff"] at hn
  unfold lists FileTree.isFolder FileTree.lookup
  simp only [List.mem_cons, List.not_mem_nil, or_false] at hn
  rcases hn with rfl | rfl | rfl | rfl | rfl | rfl
  · rw [hlink]
    decide
  · rw [hpng]
    decide
  · rw [hfolder]
    decide
  · rfl
  · rfl
  · rw [htiff]
    decide

theorem findImages_stably_sorted_drawer :
    drawer.find Path.here = .ok (.taken [] .folder) ∧ FolderNames (drawer.names []) ∧
      drawer.findImages Path.here =
        .ok [scan "a.tiff" 0, scan "b.PNG" 0, scan "Scan (2).jpg" 2] := by
  refine ⟨find_here drawer, drawer_folderNames, ?_⟩
  obtain ⟨kept, entries, hsub, hkept, hfound, _, hsorted, _, hunique⟩ :=
    findImages_stably_sorted (find_here drawer) drawer_folderNames
  have hperm : kept.Perm
      [Bytes.ofText "Scan (2).jpg", Bytes.ofText "b.PNG", Bytes.ofText "a.tiff"] := by
    rw [List.perm_ext_iff_of_nodup (drawer_folderNames.distinct.sublist hsub) (by decide)]
    intro n
    rw [hkept]
    constructor
    · rintro ⟨hn, hlisted⟩
      rw [← lists_iff (drawer_folderNames.isChildName n hn), drawer_lists n hn] at hlisted
      exact of_decide_eq_true hlisted
    · intro hn
      have hmem : n ∈ drawer.names [] := by
        revert n
        decide
      rw [← lists_iff (drawer_folderNames.isChildName n hmem), drawer_lists n hmem]
      exact ⟨hmem, decide_eq_true hn⟩
  have hentries : ([scan "a.tiff" 0, scan "b.PNG" 0, scan "Scan (2).jpg" 2]).Perm
      (kept.map (childEntry Path.here)) := by
    refine .trans ?_ (hperm.map _).symm
    decide +kernel
  have hnames : (entries.map ScanEntry.name).Nodup :=
    ((hsorted.perm.trans hentries.symm).map _).nodup_iff.mpr (by decide)
  rw [hfound, ← (hunique hnames _).mpr ⟨hentries, by decide⟩]

end ScanBinder.Proofs
