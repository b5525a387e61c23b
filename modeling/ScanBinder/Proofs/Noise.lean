import ScanBinder.Proofs.ScanOrder

/-!
# More children in a folder

Children that are not named like images, that are folders or that cannot be loaded may stand
beside the images of a folder, wherever they are enumerated. They add no page and move none. A
link that leads nowhere is the exception: the target that it lacks may be among the new children,
and then it is an image or a folder itself.
-/

namespace ScanBinder.Proofs
open FileTree

/-! ## Trees with more entries -/

/-- Everything that stands in the first tree stands in the second. -/
structure Extends (t t' : FileTree) : Prop where
  current : t'.current = t.current
  keeps : ∀ l e, t.get? l = some e → t'.get? l = some e

section
variable {t t' : FileTree}

/-- A path that leads to something leads there again, and one that is cut short is cut short at the
same place. -/
lemma find_of_extends (h : Extends t t') {p : Path} (hp : t.lookup p ≠ .error .notFound) :
    t'.find p = t.find p := by
  have hfree : ∀ l, t.find p ≠ .ok (.free l) := fun l hl => hp (lookup_of_free hl)
  have hmissing : t.find p ≠ .error .notFound := fun hl => hp (lookup_of_find_error hl)
  unfold FileTree.find at hfree hmissing ⊢
  rw [h.current]
  split_ifs at hfree hmissing ⊢
  · rfl
  · rfl
  · rfl
  all_goals
    refine (walk_of_keeps h.keeps _ _ _).resolve_right ?_
    rintro ⟨l, _, _, hl | hl⟩
    · exact hfree l hl
    · exact hmissing hl

lemma lookup_of_extends (h : Extends t t') {p : Path} (hp : t.lookup p ≠ .error .notFound) :
    t'.lookup p = t.lookup p := by
  unfold FileTree.lookup
  rw [find_of_extends h hp]

lemma isFolder_of_lookup_eq {p : Path} (h : t'.lookup p = t.lookup p) :
    t'.isFolder p = t.isFolder p := by
  unfold FileTree.isFolder
  rw [h]

end

/-! ## Inserted children -/

/-- A list with further members put in anywhere, each of them as `new` says. -/
inductive InsertedInto {α : Type} (new : α → Prop) : List α → List α → Prop
  | nil : InsertedInto new [] []
  | keep {l l' : List α} (a : α) : InsertedInto new l l' → InsertedInto new (a :: l) (a :: l')
  | insert {l l' : List α} (a : α) : new a → InsertedInto new l l' → InsertedInto new l (a :: l')

/-- A child that gives no page: it is not named like an image, or is a folder, or cannot be
loaded. -/
def IsNoise (t : FileTree) (dir : Path) (n : Name) : Prop :=
  isImageFile (Path.join dir n) = false ∨ LeadsToFolder t (Path.join dir n) ∨
    ∃ f, t.loadRgb (Path.join dir n) = .error f

/-- What the children of a folder lead to is the same in both trees, as far as they are named
like images. -/
def SameChildren (t t' : FileTree) (dir : Path) (names : List Name) : Prop :=
  ∀ n ∈ names, isImageFile (Path.join dir n) = true →
    t'.lookup (Path.join dir n) = t.lookup (Path.join dir n)

section
variable {t t' : FileTree} {dir : Path} {names names' : List Name}

lemma SameChildren.lists_eq (h : SameChildren t t' dir names) {n : Name} (hn : n ∈ names) :
    lists t' dir n = lists t dir n := by
  unfold lists
  cases himage : isImageFile (Path.join dir n) with
  | false => rfl
  | true => rw [isFolder_of_lookup_eq (h n hn himage)]

lemma SameChildren.of_cons {n : Name} (h : SameChildren t t' dir (n :: names)) :
    SameChildren t t' dir names :=
  fun m hm => h m (List.mem_cons_of_mem n hm)

lemma listed_cons_of_lists {n : Name} (h : lists t dir n = true) :
    listed t dir (n :: names) = childEntry dir n :: listed t dir names := by
  unfold listed
  rw [List.filter_cons_of_pos h, List.map_cons]

lemma listed_cons_of_not_lists {n : Name} (h : lists t dir n = false) :
    listed t dir (n :: names) = listed t dir names := by
  unfold listed
  rw [List.filter_cons_of_neg (by simp [h])]

/-- What was listed is still listed, in the same order. -/
lemma listed_sublist_of_inserted {new : Name → Prop} (hinsert : InsertedInto new names names')
    (hsame : SameChildren t t' dir names) :
    (listed t dir names).Sublist (listed t' dir names') := by
  induction hinsert with
  | nil => exact .refl _
  | keep n hinsert ih =>
    have hlists := hsame.lists_eq (List.mem_cons_self ..)
    cases hn : lists t dir n with
    | true =>
      rw [listed_cons_of_lists hn, listed_cons_of_lists (hlists.trans hn)]
      exact (ih hsame.of_cons).cons_cons _
    | false =>
      rw [listed_cons_of_not_lists hn, listed_cons_of_not_lists (hlists.trans hn)]
      exact ih hsame.of_cons
  | insert n hnew hinsert ih =>
    cases hn : lists t' dir n with
    | true =>
      rw [listed_cons_of_lists hn]
      exact (ih hsame).cons _
    | false =>
      rw [listed_cons_of_not_lists hn]
      exact ih hsame

/-- If a test passes the same old entries in both trees and no new one, the entries that pass it
are the same. -/
lemma filter_listed_of_inserted {p p' : ScanEntry → Bool} {new : Name → Prop}
    (hinsert : InsertedInto new names names') (hsame : SameChildren t t' dir names)
    (hold : ∀ n ∈ names, lists t dir n = true → p' (childEntry dir n) = p (childEntry dir n))
    (hnew : ∀ n, new n → lists t' dir n = true → p' (childEntry dir n) = false) :
    (listed t' dir names').filter p' = (listed t dir names).filter p := by
  induction hinsert with
  | nil => rfl
  | keep n hinsert ih =>
    have hlists := hsame.lists_eq (List.mem_cons_self ..)
    have hrest := ih hsame.of_cons fun m hm => hold m (List.mem_cons_of_mem n hm)
    cases hn : lists t dir n with
    | true =>
      rw [listed_cons_of_lists hn, listed_cons_of_lists (hlists.trans hn), List.filter_cons,
        List.filter_cons, hold n (List.mem_cons_self ..) hn, hrest]
    | false =>
      rw [listed_cons_of_not_lists hn, listed_cons_of_not_lists (hlists.trans hn), hrest]
  | insert n hn hinsert ih =>
    cases hlists : lists t' dir n with
    | true =>
      rw [listed_cons_of_lists hlists, List.filter_cons_of_neg (by simp [hnew n hn hlists]),
        ih hsame hold]
    | false => rw [listed_cons_of_not_lists hlists, ih hsame hold]

end

/-! ## Pages beside noise -/

section
variable {t t' : FileTree}

lemma image?_of_lookup_eq {e : ScanEntry} (h : t'.lookup e.path = t.lookup e.path) :
    image? t' e = image? t e := by
  unfold image?
  rw [loadRgb_of_lookup_eq h]

lemma leftOut?_of_lookup_eq {e : ScanEntry} (h : t'.lookup e.path = t.lookup e.path) :
    leftOut? t' e = leftOut? t e := by
  unfold leftOut? faulty?
  rw [loadRgb_of_lookup_eq h]

lemma batchOf_images_eq (t : FileTree) (entries : List ScanEntry) :
    (batchOf t entries).images = (batchOf t entries).included.filterMap (image? t) := by
  unfold batchOf
  dsimp only
  rw [List.filterMap_filter]
  congr 1
  funext e
  cases image? t e with
  | none => rfl
  | some image => rfl

/-- A batch of all images holds the batch of a part of them, if what the part leaves out cannot be
loaded. -/
lemma batchOf_of_sublist {entries entries' : List ScanEntry} (hsub : entries.Sublist entries')
    (hsame : ∀ e ∈ entries, t'.lookup e.path = t.lookup e.path)
    (hpages : entries'.filter (fun e => (image? t' e).isSome) =
      entries.filter (fun e => (image? t e).isSome)) :
    (batchOf t' entries').images = (batchOf t entries).images ∧
      (batchOf t' entries').included = (batchOf t entries).included ∧
      (batchOf t entries).skipped.Sublist (batchOf t' entries').skipped := by
  have hincluded : (batchOf t' entries').included = (batchOf t entries).included := hpages
  refine ⟨?_, hincluded, ?_⟩
  · rw [batchOf_images_eq, batchOf_images_eq, hincluded]
    apply List.filterMap_congr
    intro e he
    exact image?_of_lookup_eq (hsame e (List.mem_filter.mp he).1)
  · have hskipped : entries.filterMap (leftOut? t) = entries.filterMap (leftOut? t') := by
      apply List.filterMap_congr
      intro e he
      exact (leftOut?_of_lookup_eq (hsame e he)).symm
    change (entries.filterMap (leftOut? t)).Sublist (entries'.filterMap (leftOut? t'))
    rw [hskipped]
    exact hsub.filterMap _

end

/-- Children that give no page leave the pages of a folder as they are, and what was left out
before is left out again, in the same order. If the new children are not even listed, the scan is
the same. Links that lead nowhere have to go on doing so. -/
theorem noise_keeps_pages {t t' : FileTree} {dir : Path} {loc : Location} (hmore : Extends t t')
    (hdir : t.find dir = .ok (.taken loc .folder))
    (hbroken : ∀ n ∈ t.names loc, isImageFile (Path.join dir n) = true →
      t.lookup (Path.join dir n) = .error .notFound →
      t'.lookup (Path.join dir n) = .error .notFound) :
    (InsertedInto (IsNoise t' dir) (t.names loc) (t'.names loc) →
      ∃ entries entries' batch batch',
        t.findImages dir = .ok entries ∧ t.loadAll .skip entries = .ok batch ∧
        t'.findImages dir = .ok entries' ∧ t'.loadAll .skip entries' = .ok batch' ∧
        batch'.images = batch.images ∧ batch'.included = batch.included ∧
        batch.skipped.Sublist batch'.skipped) ∧
    (InsertedInto (fun n => ¬(isImageFile (Path.join dir n) = true ∧
        ¬LeadsToFolder t' (Path.join dir n))) (t.names loc) (t'.names loc) →
      t'.findImages dir = t.findImages dir) := by
  have hdir' : t'.find dir = .ok (.taken loc .folder) := by
    rw [find_of_extends hmore (by simp [lookup_of_taken hdir]), hdir]
  have hsame : SameChildren t t' dir (t.names loc) := by
    intro n hn himage
    by_cases hmissing : t.lookup (Path.join dir n) = .error .notFound
    · rw [hmissing, hbroken n hn himage hmissing]
    · exact lookup_of_extends hmore hmissing
  constructor
  · intro hinsert
    refine ⟨_, _, _, _, findImages_eq_listed hdir, loadAll_skip t _, findImages_eq_listed hdir',
      loadAll_skip t' _,
      batchOf_of_sublist (inPageOrder_sublist (listed_sublist_of_inserted hinsert hsame)) ?_ ?_⟩
    · intro e he
      obtain ⟨n, hn, hlists, rfl⟩ := (mem_findImages hdir (findImages_eq_listed hdir)).mp he
      exact hsame n hn (lists_eq_true.mp hlists).1
    · rw [filter_inPageOrder_eq, filter_inPageOrder_eq, filter_listed_of_inserted hinsert hsame]
      · intro n hn hlists
        rw [image?_of_lookup_eq (hsame n hn (lists_eq_true.mp hlists).1)]
      · intro n hnoise hlists
        obtain ⟨himage, hfile⟩ := lists_eq_true.mp hlists
        rcases hnoise with hother | hfolder | hfault
        · rw [himage] at hother
          cases hother
        · exact absurd hfolder hfile
        · have hnone : image? t' (childEntry dir n) = none := image?_eq_none.mpr hfault
          rw [hnone]
          rfl
  · intro hinsert
    have hlisted : (listed t' dir (t'.names loc)).filter (fun _ => true) =
        (listed t dir (t.names loc)).filter (fun _ => true) :=
      filter_listed_of_inserted hinsert hsame (fun _ _ _ => rfl)
        fun n hnew hlists => absurd (lists_eq_true.mp hlists) hnew
    rw [List.filter_true, List.filter_true] at hlisted
    rw [findImages_eq_listed hdir', findImages_eq_listed hdir, hlisted]

/-! ## A link that leads nowhere -/

lemma extends_of_entries {t t' : FileTree} (hcurrent : t'.current = t.current)
    (h : ∀ x ∈ t.entries, t'.get? x.1 = some x.2) : Extends t t' := by
  refine ⟨hcurrent, ?_⟩
  intro l e he
  unfold FileTree.get? at he
  split_ifs at he with hl
  · cases he
    exact if_pos hl
  · obtain ⟨before, after, hentries, _⟩ := List.lookup_eq_some_iff.mp he
    exact h (l, e) (by simp [hentries])

/-- A link to the name `x` and an image, with others before and behind them. -/
def linked (before behind : List (Location × Entry)) : FileTree :=
  ⟨before ++ ([Bytes.ofText "a.png"], .link (Bytes.ofText "x")) ::
    ([Bytes.ofText "b.bmp"], .file (dotBitmap 6 5 4)) :: behind, []⟩

/-- The link leads nowhere. -/
def bare : FileTree := linked [] []

/-- The link leads to an image that is not named like one. -/
def revived : FileTree := linked [] [([Bytes.ofText "x"], .file (dotBitmap 3 2 1))]

/-- The link leads to a folder. -/
def opened : FileTree := linked [] [([Bytes.ofText "x"], .folder)]

def linkEntry : ScanEntry := childEntry Path.here (Bytes.ofText "a.png")

def imageEntry : ScanEntry := childEntry Path.here (Bytes.ofText "b.bmp")

section
variable {before behind : List (Location × Entry)}

lemma linked_find_image
    (h : (linked before behind).get? [Bytes.ofText "b.bmp"] = some (.file (dotBitmap 6 5 4))) :
    (linked before behind).find imageEntry.path =
      .ok (.taken [Bytes.ofText "b.bmp"] (.file (dotBitmap 6 5 4))) := by
  have hplain : IsPlain (Bytes.ofText "b.bmp") := by decide
  exact find_child_file hplain h

lemma linked_image
    (h : (linked before behind).get? [Bytes.ofText "b.bmp"] = some (.file (dotBitmap 6 5 4))) :
    (image? (linked before behind) imageEntry).isSome = true := by
  unfold image?
  rw [loadRgb_of_find (linked_find_image h)]
  decide

lemma linked_lists_image
    (h : (linked before behind).get? [Bytes.ofText "b.bmp"] = some (.file (dotBitmap 6 5 4))) :
    lists (linked before behind) Path.here (Bytes.ofText "b.bmp") = true := by
  refine lists_eq_true.mpr ⟨by decide, ?_⟩
  rintro ⟨l, hl⟩
  cases (linked_find_image h).symm.trans hl

lemma linked_find_link
    (h : (linked before behind).get? [Bytes.ofText "a.png"] = some (.link (Bytes.ofText "x"))) :
    (linked before behind).find linkEntry.path =
      (linked before behind).walk 39 [] [Bytes.ofText "x"] := by
  have hplain : IsPlain (Bytes.ofText "a.png") ∧ IsPlain (Bytes.ofText "x") := by decide
  exact find_child_link hplain.1 hplain.2 h

end

lemma bare_find : bare.find linkEntry.path = .ok (.free [Bytes.ofText "x"]) :=
  (linked_find_link rfl).trans (walk_child (by decide))

lemma revived_find :
    revived.find linkEntry.path = .ok (.taken [Bytes.ofText "x"] (.file (dotBitmap 3 2 1))) :=
  (linked_find_link rfl).trans (walk_child (by decide))

lemma opened_find : opened.find linkEntry.path = .ok (.taken [Bytes.ofText "x"] .folder) :=
  (linked_find_link rfl).trans (walk_child (by decide))

lemma findImages_of_listed {t : FileTree} {entries : List ScanEntry}
    (hlisted : listed t Path.here (t.names t.current) = entries)
    (hsorted : entries.Pairwise InOrder) : t.findImages Path.here = .ok entries := by
  rw [findImages_eq_listed (find_here t), hlisted, inPageOrder_of_pairwise hsorted]

lemma linked_inOrder : [linkEntry, imageEntry].Pairwise InOrder := by
  decide +kernel

lemma linked_findImages {behind : List (Location × Entry)}
    (hlink : ¬LeadsToFolder (linked [] behind) linkEntry.path)
    (hbehind : listed (linked [] behind) Path.here (FileTree.names ⟨behind, []⟩ []) = []) :
    (linked [] behind).findImages Path.here = .ok [linkEntry, imageEntry] := by
  have hlists : lists (linked [] behind) Path.here (Bytes.ofText "a.png") = true :=
    lists_eq_true.mpr ⟨by decide, hlink⟩
  refine findImages_of_listed ?_ linked_inOrder
  refine (listed_cons_of_lists hlists).trans (congrArg _ ?_)
  exact (listed_cons_of_lists (linked_lists_image rfl)).trans (congrArg _ hbehind)

lemma bare_findImages : bare.findImages Path.here = .ok [linkEntry, imageEntry] := by
  refine linked_findImages ?_ rfl
  rintro ⟨l, hl⟩
  cases bare_find.symm.trans hl

lemma revived_findImages : revived.findImages Path.here = .ok [linkEntry, imageEntry] := by
  refine linked_findImages ?_ rfl
  rintro ⟨l, hl⟩
  cases revived_find.symm.trans hl

lemma opened_findImages : opened.findImages Path.here = .ok [imageEntry] := by
  have hlink : lists opened Path.here (Bytes.ofText "a.png") = false := by
    rw [← Bool.not_eq_true, lists_eq_true]
    exact fun h => h.2 ⟨_, opened_find⟩
  refine findImages_of_listed ?_ (List.pairwise_singleton _ _)
  exact (listed_cons_of_not_lists hlink).trans (listed_cons_of_lists (linked_lists_image rfl))

lemma bare_image : image? bare linkEntry = none :=
  image?_eq_none.mpr ⟨_, loadRgb_of_lookup_error (lookup_of_free bare_find)⟩

lemma bare_included : (batchOf bare [linkEntry, imageEntry]).included = [imageEntry] := by
  have himage : (image? bare imageEntry).isSome = true := linked_image rfl
  simp [batchOf, bare_image, himage]

lemma revived_image : (image? revived linkEntry).isSome = true := by
  unfold image?
  rw [loadRgb_of_find revived_find]
  decide

/-- A new child that is not named like an image can be what a link lacked. If it is an image, the
link is a page, and those behind it move; if it is a folder, the link is no longer listed. -/
theorem noise_can_move_pages :
    (Extends bare revived ∧
      InsertedInto (IsNoise revived Path.here) (bare.names []) (revived.names []) ∧
      ∃ entries batch batch',
        bare.findImages Path.here = .ok entries ∧ bare.loadAll .skip entries = .ok batch ∧
        revived.findImages Path.here = .ok entries ∧ revived.loadAll .skip entries = .ok batch' ∧
        batch.included = [imageEntry] ∧ batch'.included = [linkEntry, imageEntry]) ∧
    Extends bare opened ∧
      InsertedInto (fun n => ¬(isImageFile (Path.join Path.here n) = true ∧
        ¬LeadsToFolder opened (Path.join Path.here n))) (bare.names []) (opened.names []) ∧
      bare.findImages Path.here = .ok [linkEntry, imageEntry] ∧
      opened.findImages Path.here = .ok [imageEntry] := by
  have himage : (image? revived imageEntry).isSome = true := linked_image rfl
  have hother : isImageFile (Path.join Path.here (Bytes.ofText "x")) = false := by decide
  refine ⟨⟨extends_of_entries rfl (by decide), ?_, _, _, _, bare_findImages, loadAll_skip _ _,
    revived_findImages, loadAll_skip _ _, bare_included, ?_⟩, extends_of_entries rfl (by decide), ?_,
    bare_findImages, opened_findImages⟩
  · exact .keep _ (.keep _ (.insert _ (.inl hother) .nil))
  · simp [batchOf, revived_image, himage]
  · exact .keep _ (.keep _ (.insert _ (fun h => Bool.noConfusion (hother.symm.trans h.1)) .nil))

/-! ## A link that goes on leading nowhere -/

/-- Beside the link and the image stand a text and a folder that is named like an image. -/
def cluttered : FileTree :=
  linked [([Bytes.ofText "notes.txt"], .file [])] [([Bytes.ofText "sub.png"], .folder)]

/-- Between them and the folder stands an image that is empty. -/
def crowded : FileTree :=
  linked [([Bytes.ofText "notes.txt"], .file [])]
    [([Bytes.ofText "b.png"], .file []), ([Bytes.ofText "sub.png"], .folder)]

lemma bare_stays_broken {t : FileTree}
    (h : t.find linkEntry.path = .ok (.free [Bytes.ofText "x"])) :
    ∀ n ∈ bare.names [], isImageFile (Path.join Path.here n) = true →
      bare.lookup (Path.join Path.here n) = .error .notFound →
      t.lookup (Path.join Path.here n) = .error .notFound := by
  intro n hn _ hmissing
  have hnames : bare.names [] = [Bytes.ofText "a.png", Bytes.ofText "b.bmp"] := rfl
  rw [hnames, List.mem_pair] at hn
  rcases hn with rfl | rfl
  · exact lookup_of_free h
  · have himage : bare.lookup imageEntry.path = .ok (.file (dotBitmap 6 5 4)) :=
      lookup_of_taken (linked_find_image rfl)
    cases himage.symm.trans hmissing

lemma leadsToFolder_child {t : FileTree} {n : Name} (hn : IsPlain n)
    (h : t.get? (t.current ++ [n]) = some .folder) : LeadsToFolder t (Path.join Path.here n) := by
  refine ⟨t.current ++ [n], ?_⟩
  rw [find_child hn, walk_child hn, h]

theorem noise_keeps_pages_beside_broken_link :
    InsertedInto (IsNoise crowded Path.here) (bare.names []) (crowded.names []) ∧
    (∃ entries batch, crowded.findImages Path.here = .ok entries ∧
      crowded.loadAll .skip entries = .ok batch ∧ batch.included = [imageEntry]) ∧
    cluttered.findImages Path.here = .ok [linkEntry, imageEntry] := by
  have htext : isImageFile (Path.join Path.here (Bytes.ofText "notes.txt")) = false := by decide
  have hplain : IsPlain (Bytes.ofText "b.png") ∧ IsPlain (Bytes.ofText "sub.png") := by decide
  have hempty : ∃ f, crowded.loadRgb (Path.join Path.here (Bytes.ofText "b.png")) = .error f := by
    rw [loadRgb_of_find (find_child_file hplain.1 rfl)]
    exact ⟨_, rfl⟩
  have hsub : LeadsToFolder crowded (Path.join Path.here (Bytes.ofText "sub.png")) :=
    leadsToFolder_child hplain.2 rfl
  have hnoise : InsertedInto (IsNoise crowded Path.here) (bare.names []) (crowded.names []) :=
    .insert _ (.inl htext) (.keep _ (.keep _
      (.insert _ (.inr (.inr hempty)) (.insert _ (.inr (.inl hsub)) .nil))))
  refine ⟨hnoise, ?_, ?_⟩
  · have hmore : Extends bare crowded := extends_of_entries rfl (by decide)
    have hbroken : crowded.find linkEntry.path = .ok (.free [Bytes.ofText "x"]) :=
      (linked_find_link rfl).trans (walk_child (by decide))
    obtain ⟨_, entries', _, batch', hscan, hload, hscan', hload', _, hincluded, _⟩ :=
      (noise_keeps_pages hmore (find_here bare) (bare_stays_broken hbroken)).1 hnoise
    cases bare_findImages.symm.trans hscan
    cases (loadAll_skip bare _).symm.trans hload
    exact ⟨entries', batch', hscan', hload', hincluded.trans bare_included⟩
  · have hmore : Extends bare cluttered := extends_of_entries rfl (by decide)
    have hbroken : cluttered.find linkEntry.path = .ok (.free [Bytes.ofText "x"]) :=
      (linked_find_link rfl).trans (walk_child (by decide))
    have hsub' : LeadsToFolder cluttered (Path.join Path.here (Bytes.ofText "sub.png")) :=
      leadsToFolder_child hplain.2 rfl
    refine ((noise_keeps_pages hmore (find_here bare) (bare_stays_broken hbroken)).2 ?_).trans
      bare_findImages
    exact .insert _ (fun h => Bool.noConfusion (htext.symm.trans h.1))
      (.keep _ (.keep _ (.insert _ (fun h => h.2 hsub') .nil)))

end ScanBinder.Proofs
