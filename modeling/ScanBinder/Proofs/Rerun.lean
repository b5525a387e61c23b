import ScanBinder.Proofs.Dates

/-!
# Running again

A run may put its document into the very folder that it scans. As long as the document is not
among the images that are found there, a second run finds the same images, loads them with the
same result and writes the same document with another date. One thing can be told apart: an
image whose path goes on below the document was not to be found before, and has a file in its
way afterwards.
-/

namespace ScanBinder.Proofs
open FileTree Pdf

/-- Both paths lead to one file. -/
def SameFile (t : FileTree) (p q : Path) : Prop :=
  ∃ l content, t.find p = .ok (.taken l (.file content)) ∧
    t.find q = .ok (.taken l (.file content))

/-- No image of a scan is the file that `output` leads to: no path of an entry leads there, and
the child of the folder that stands there is not listed. -/
structure ListedApart (t : FileTree) (dir output : Path) : Prop where
  other_file : ∀ entries, t.findImages dir = .ok entries →
    ∀ e ∈ entries, ¬SameFile t e.path output
  other_child : ∀ loc n content, t.find dir = .ok (.taken loc .folder) →
    t.find output = .ok (.taken (loc ++ [n]) (.file content)) → lists t dir n = false

/-- The path of an entry goes on below the output, which was not there before a run. -/
structure BelowOutput (t t' : FileTree) (output p : Path) : Prop where
  was_free : ∃ loc, t.find output = .ok (.free loc)
  not_found : t.find p = .error .notFound
  in_the_way : t'.find p = .error .notDirectory

/-- An entry that is left out by two runs: for the same reason, or because of the output of
the first. -/
structure LeftOutAgain (t t' : FileTree) (output : Path) (s s' : Skipped) : Prop where
  entry_eq : s'.entry = s.entry
  reason : s'.reason = s.reason ∨ BelowOutput t t' output s.entry.path ∧
    s.reason = (Failure.image s.entry.path (.unreadable .notFound)).text ∧
    s'.reason = (Failure.image s.entry.path (.unreadable .notDirectory)).text

/-! ## Loading again -/

lemma loadRgb_of_find_eq {t t' : FileTree} {p : Path} (h : t'.find p = t.find p) :
    t'.loadRgb p = t.loadRgb p := by
  apply loadRgb_of_lookup_eq
  unfold FileTree.lookup
  rw [h]

lemma loadRgb_of_find_error {t : FileTree} {p : Path} {e : PathError} (h : t.find p = .error e) :
    t.loadRgb p = .error (.unreadable e) :=
  loadRgb_of_lookup_error (lookup_of_find_error h)

section
variable {t t' : FileTree} {output : Path} {entries : List ScanEntry}

/-- What a second run finds at the path of an entry. -/
def FoundAgain (t t' : FileTree) (output : Path) (e : ScanEntry) : Prop :=
  t'.find e.path = t.find e.path ∨ BelowOutput t t' output e.path

lemma FoundAgain.image?_eq {e : ScanEntry} (h : FoundAgain t t' output e) :
    image? t' e = image? t e := by
  unfold image?
  rcases h with h | h
  · rw [loadRgb_of_find_eq h]
  · rw [loadRgb_of_find_error h.not_found, loadRgb_of_find_error h.in_the_way]
    rfl

lemma FoundAgain.loads_iff {e : ScanEntry} (h : FoundAgain t t' output e) :
    Loads t' e ↔ Loads t e := by
  unfold Loads
  simp only [← image?_eq_some, h.image?_eq]

lemma FoundAgain.leftOut_rel {e : ScanEntry} (h : FoundAgain t t' output e) :
    Option.Rel (LeftOutAgain t t' output) (leftOut? t e) (leftOut? t' e) := by
  unfold leftOut? faulty?
  rcases h with h | h
  · rw [loadRgb_of_find_eq h]
    cases t.loadRgb e.path with
    | ok image => exact .none
    | error f => exact .some ⟨rfl, .inl rfl⟩
  · rw [loadRgb_of_find_error h.not_found, loadRgb_of_find_error h.in_the_way]
    exact .some ⟨rfl, .inr ⟨h, rfl, rfl⟩⟩

lemma batchOf_again (h : ∀ e ∈ entries, FoundAgain t t' output e) :
    (batchOf t' entries).images = (batchOf t entries).images ∧
      (batchOf t' entries).included = (batchOf t entries).included ∧
      List.Forall₂ (LeftOutAgain t t' output) (batchOf t entries).skipped
        (batchOf t' entries).skipped := by
  refine ⟨List.filterMap_congr fun e he => (h e he).image?_eq,
    List.filter_congr fun e he => by rw [(h e he).image?_eq], ?_⟩
  unfold batchOf
  dsimp only
  induction entries with
  | nil => exact .nil
  | cons e entries ih =>
    have hmore := ih fun x hx => h x (List.mem_cons_of_mem _ hx)
    have he := (h e (List.mem_cons_self ..)).leftOut_rel
    rw [List.filterMap_cons, List.filterMap_cons]
    cases hold : leftOut? t e with
    | none =>
      cases hnew : leftOut? t' e with
      | none => exact hmore
      | some s' =>
        rw [hold, hnew] at he
        cases he
    | some s =>
      cases hnew : leftOut? t' e with
      | none =>
        rw [hold, hnew] at he
        cases he
      | some s' =>
        rw [hold, hnew] at he
        cases he with
        | some hs => exact .cons hs hmore

end

/-! ## The second run -/

section
variable {t t' : FileTree} {loc : Location} {content : Bytes}

lemma writeLocation_of_writtenAt (h : WrittenAt loc content t t') {p : Path}
    (hp : t.writeLocation p = .ok loc) : t'.writeLocation p = .ok loc := by
  have hfind := find_of_writtenAt h (namesFile_of_writeLocation hp).1
  exact writeLocation_eq_ok.mpr (.inr ⟨content, hfind⟩)

/-- After a file was written, every entry that does not lead to it is found again. -/
lemma foundAgain_of_writtenAt (h : WrittenAt loc content t t') {output : Path}
    (hnames : NamesFile t output loc) {e : ScanEntry} (he : ¬SameFile t' e.path output) :
    FoundAgain t t' output e := by
  have hafter := find_afterWrite h e.path
  have hout := find_of_writtenAt h hnames
  generalize hr : t.find e.path = r at hafter
  generalize hr' : t'.find e.path = r' at hafter
  cases hafter with
  | untouched => exact .inl (hr'.trans hr.symm)
  | written => exact absurd ⟨loc, content, hr', hout⟩ he
  | blocked hfree =>
    refine .inr ⟨?_, hr, hr'⟩
    rcases hnames with hnames | ⟨old, hnames⟩
    · exact ⟨loc, hnames⟩
    · have htaken := (walk_holds ((find_eq_walk hnames t).symm.trans hnames)).2
      rw [hfree] at htaken
      cases htaken

end

/-- If the output of a run is not among the images that are found afterwards, a second run
binds the same images again. It leaves out the same entries, for the same reasons unless a
path goes on below the new output, and leaves the same tree up to dates. -/
theorem combine_again {t t' : FileTree} {z : Packer} {c : Config} {now : Moment} {output : Path}
    {pages : List ScanEntry} {skipped : List Skipped}
    (h : t.combine z c now = (.ok (.created output pages skipped), t'))
    (hapart : ListedApart t' c.inputDir c.outputFile) (now' : Moment) :
    ∃ skipped' t'', t'.combine z c now' = (.ok (.created output pages skipped'), t'') ∧
      List.Forall₂ (LeftOutAgain t t' c.outputFile) skipped skipped' ∧ SameButDates t' t'' := by
  cases combine_eq_iff.mp h with
  | @created entries d _ hready hbuild hwrite =>
    obtain ⟨loc, hloc, hnames, hwritten⟩ := writtenAt_of_write hwrite
    have hout := find_of_writtenAt hwritten hnames
    obtain ⟨dirLoc, hdir⟩ := leadsToFolder_of_findImages hready.found
    have hfound : t'.findImages c.inputDir = .ok entries := by
      rw [findImages_of_writtenAt hwritten hdir, hready.found]
      rintro n rfl
      exact hapart.other_child dirLoc n _ (find_folder_of_writtenAt hwritten hdir) hout
    have hagain : ∀ e ∈ entries, FoundAgain t t' c.outputFile e := fun e he =>
      foundAgain_of_writtenAt hwritten hnames (hapart.other_file entries hfound e he)
    obtain ⟨himages, hincluded, hskipped⟩ := batchOf_again hagain
    have hready' : ImagesReady t' c entries := by
      refine ⟨hready.config_ok, hfound, ?_, ?_⟩
      · intro hpolicy e he
        exact (hagain e he).loads_iff.mpr (hready.all_load hpolicy e he)
      · obtain ⟨e, he, hload⟩ := hready.some_load
        exact ⟨e, he, (hagain e he).loads_iff.mpr hload⟩
    obtain ⟨d', hbuild'⟩ : ∃ d', build c.options now' (batchOf t' entries).images = .ok d' := by
      rw [himages]
      exact build_ok_iff.mpr (build_ok_iff.mp ⟨d, hbuild⟩)
    have hwrite' : t'.write c.outputFile (d'.compressed z).bytes =
        .ok (t'.set loc (.file (d'.compressed z).bytes)) :=
      write_eq_ok.mpr ⟨loc, writeLocation_of_writtenAt hwritten hloc, rfl⟩
    refine ⟨_, t'.set loc (.file (d'.compressed z).bytes), ?_, hskipped, ?_⟩
    · rw [combine_of_ends (.created hready' hbuild' hwrite'), hincluded]
    · have hroot := (namesFile_of_writeLocation hloc).2
      rw [himages] at hbuild'
      refine .inr ⟨loc, d.compressed z, d'.compressed z, sameElsewhere_set t' loc _,
        hwritten.after, get?_set_self t' hroot _, ?_⟩
      rw [undated_compressed, undated_compressed, undated_build hbuild hbuild']

/-! ## Runs that can be repeated, and runs that cannot -/

section
variable {t t' : FileTree} {loc : Location} {content : Bytes} {output : Path}

/-- A path that did not name the written file does not lead to it afterwards. -/
lemma not_sameFile_of_writtenAt (h : WrittenAt loc content t t') (hnames : NamesFile t output loc)
    {p : Path} (hp : ¬NamesFile t p loc) : ¬SameFile t' p output := by
  rintro ⟨l, found, hfound, hout⟩
  rw [find_of_writtenAt h hnames] at hout
  cases hout
  have hafter := find_afterWrite h p
  rw [hfound] at hafter
  unfold NamesFile at hp
  generalize t.find p = r at hafter hp
  cases hafter with
  | untouched _ htaken => exact htaken content rfl
  | written hr => exact hp hr

lemma not_namesFile_of_find {p : Path} {l : Location} {e : Entry}
    (h : t.find p = .ok (.taken l e)) (hl : l ≠ loc) : ¬NamesFile t p loc := by
  unfold NamesFile
  rw [h]
  simp [hl]

lemma not_namesFile_of_find_error {p : Path} {e : PathError} (h : t.find p = .error e) :
    ¬NamesFile t p loc := by
  unfold NamesFile
  rw [h]
  simp

end

def outName : Name :=
  Bytes.ofText "out.pdf"

/-- A document is not listed as an image. -/
lemma not_lists_out (t : FileTree) {n : Name} (h : [] ++ [n] = [outName]) :
    lists t Path.here n = false := by
  obtain rfl : n = outName := List.singleton_inj.mp h
  have himage : isImageFile (Path.join Path.here outName) = false := by decide
  unfold lists
  rw [himage, Bool.false_and]

theorem combine_again_three_scans :
    ∃ skipped t', scans.combine .fixed scansConfig ⟨2026, 1, 18, 9, 30, 0⟩ =
        (.ok (.created (Bytes.ofText "./out.pdf")
          [scan "Scan (2).bmp" 2, scan "Scan (10).bmp" 10] skipped), t') ∧
      ListedApart t' scansConfig.inputDir scansConfig.outputFile ∧
      ∃ skipped' t'', t'.combine .fixed scansConfig ⟨2026, 1, 18, 9, 30, 5⟩ =
          (.ok (.created (Bytes.ofText "./out.pdf")
            [scan "Scan (2).bmp" 2, scan "Scan (10).bmp" 10] skipped'), t'') ∧
        List.Forall₂ (LeftOutAgain scans t' scansConfig.outputFile) skipped skipped' ∧
        SameButDates t' t'' := by
  obtain ⟨skipped, t', d, hcombine, _, hwrite⟩ := scans_combine .fixed ⟨2026, 1, 18, 9, 30, 0⟩
  have hlocation := scans_writeLocation "out.pdf" (by decide)
  obtain ⟨hnames, hwritten⟩ := writtenAt_of_writeLocation hlocation hwrite
  have hdir : scans.find scansConfig.inputDir = .ok (.taken [] .folder) := find_here scans
  have hfound := findImages_of_writtenAt hwritten hdir fun n => not_lists_out t'
  rw [scans_findImages] at hfound
  have hapart : ListedApart t' scansConfig.inputDir scansConfig.outputFile := by
    constructor
    · intro entries hentries e he
      rw [hfound] at hentries
      cases hentries
      refine not_sameFile_of_writtenAt hwritten hnames ?_
      simp only [List.mem_cons, List.not_mem_nil, or_false] at he
      rcases he with rfl | rfl | rfl
      · exact not_namesFile_of_find (scans_find "Scan (2).bmp" (by decide)) (by decide)
      · exact not_namesFile_of_find (scans_find "Scan (7).png" (by decide)) (by decide)
      · exact not_namesFile_of_find (scans_find "Scan (10).bmp" (by decide)) (by decide)
    · intro loc n content hfolder hout
      rw [find_folder_of_writtenAt hwritten hdir] at hfolder
      cases hfolder
      rw [show t'.find scansConfig.outputFile = _ from find_of_writtenAt hwritten hnames] at hout
      cases hout
      exact not_lists_out t' rfl
  exact ⟨skipped, t', hcombine, hapart, combine_again hcombine hapart _⟩

/-- A run that ends otherwise when it is repeated, although no path of an entry that is found
then leads to its output. -/
def EndsOtherwise (t : FileTree) (z : Packer) (c : Config) (now now' : Moment) : Prop :=
  ∃ output pages skipped t', t.combine z c now = (.ok (.created output pages skipped), t') ∧
    (∀ entries, t'.findImages c.inputDir = .ok entries →
      ∀ e ∈ entries, ¬SameFile t' e.path c.outputFile) ∧
    (t'.combine z c now').1 ≠ .ok (.created output pages skipped)

/-- The name of a scan that can be read. -/
def firstName : Name :=
  Bytes.ofText "Scan (1).bmp"

lemma firstName_plain : IsPlain firstName := by
  decide

lemma loads_of_find_dotBitmap {t : FileTree} {e : ScanEntry} {l : Location}
    (h : t.find e.path = .ok (.taken l (.file (dotBitmap 6 5 4)))) : Loads t e := by
  have hformat : ImageFormat.ofContent? (dotBitmap 6 5 4) = some .bmp := by decide
  have hdecode : ((decodeAs .bmp (dotBitmap 6 5 4)).isOk) = true := by decide
  unfold Loads
  rw [loadRgb_of_find h]
  unfold loadContent decodeFile ImageFormat.ofFile?
  rw [hformat]
  cases hpicture : decodeAs .bmp (dotBitmap 6 5 4) with
  | error f =>
    rw [hpicture] at hdecode
    cases hdecode
  | ok picture =>
    simp only [Option.some_or, hpicture]
    exact ⟨_, rfl⟩

/-- The scan is found in the current folder, with any number of dots that leaves room for it. -/
lemma find_first {t : FileTree} {k : Nat} (hk : 2 * k + 14 ≤ pathLimit)
    (hget : t.get? (t.current ++ [firstName]) = some (.file (dotBitmap 6 5 4))) :
    t.find (childEntry (dots k) firstName).path =
      .ok (.taken (t.current ++ [firstName]) (.file (dotBitmap 6 5 4))) := by
  have hlength : firstName.length = 12 := by decide
  rw [childEntry_path, find_dots_child firstName_plain, if_neg (by rw [hlength]; omega),
    walk_child firstName_plain, hget]

lemma lists_first {t : FileTree} {k : Nat} (hk : 2 * k + 14 ≤ pathLimit)
    (hget : t.get? (t.current ++ [firstName]) = some (.file (dotBitmap 6 5 4))) :
    lists t (dots k) firstName = true :=
  lists_child firstName_plain (by decide) (find_first hk hget) (by simp)

lemma mem_batchOf_skipped {t : FileTree} {entries : List ScanEntry} {s : Skipped} :
    s ∈ (batchOf t entries).skipped ↔ ∃ e ∈ entries, ∃ f, t.loadRgb e.path = .error f ∧
      s = ⟨e, (Failure.image e.path f).text⟩ := by
  simp only [batchOf, List.mem_filterMap, leftOut?, Option.map_eq_some_iff]
  constructor
  · rintro ⟨e, he, ⟨e', f⟩, hf, rfl⟩
    obtain ⟨rfl, hload⟩ := faulty?_eq_some.mp hf
    exact ⟨e, he, f, hload, rfl⟩
  · rintro ⟨e, he, f, hload, rfl⟩
    exact ⟨e, he, (e, f), faulty?_eq_some.mpr ⟨rfl, hload⟩, rfl⟩

lemma entries_of_created {t : FileTree} {z : Packer} {c : Config} {now : Moment} {output : Path}
    {pages : List ScanEntry} {skipped : List Skipped}
    (h : (t.combine z c now).1 = .ok (.created output pages skipped)) :
    ∃ entries, t.findImages c.inputDir = .ok entries ∧
      (c.onError = .abort → ∀ e ∈ entries, Loads t e) ∧ skipped = (batchOf t entries).skipped := by
  obtain ⟨t', hends⟩ := outcome_eq_iff.mp h
  cases hends with
  | created hready _ _ => exact ⟨_, hready.found, hready.all_load, rfl⟩

/-! ### A link to a place below the output -/

def linkName : Name :=
  Bytes.ofText "Scan (3).png"

/-- A scan, and a link that leads on below the document that is to be written. -/
def linkedScans : FileTree :=
  ⟨[([firstName], .file (dotBitmap 6 5 4)), ([linkName], .link (Bytes.ofText "out.pdf/page"))], []⟩

section
variable {t : FileTree}

lemma find_link (hcurrent : t.current = [])
    (hlink : t.get? [linkName] = some (.link (Bytes.ofText "out.pdf/page"))) :
    t.find (childEntry Path.here linkName).path =
      t.walk 39 [] [outName, Bytes.ofText "page"] := by
  have hname : IsPlain linkName := by decide
  have hpieces : Path.pieces (Bytes.ofText "out.pdf/page") = [outName, Bytes.ofText "page"] := by
    decide
  have hrelative : ¬Path.isAbsolute (Bytes.ofText "out.pdf/page") = true := by decide
  rw [childEntry_path, find_child hname, walk_child hname, hcurrent, List.nil_append, hlink]
  dsimp only [linkLimit]
  rw [if_neg hrelative, hpieces]

lemma walk_below_out {links : Nat} :
    (t.get? [outName] = none →
      t.walk links [] [outName, Bytes.ofText "page"] = .error .notFound) ∧
    ∀ content, t.get? [outName] = some (.file content) →
      t.walk links [] [outName, Bytes.ofText "page"] = .error .notDirectory := by
  rw [walk_name (by decide) (by decide) (by decide), List.nil_append]
  constructor
  · intro hout
    rw [hout]
    rfl
  · intro content hout
    rw [hout]
    rfl

end

lemma linkedScans_get? :
    linkedScans.get? [firstName] = some (.file (dotBitmap 6 5 4)) ∧
      linkedScans.get? [linkName] = some (.link (Bytes.ofText "out.pdf/page")) ∧
      linkedScans.get? [outName] = none ∧ linkedScans.names [] = [firstName, linkName] := by
  decide

lemma linkedScans_find_link :
    linkedScans.find (childEntry Path.here linkName).path = .error .notFound :=
  (find_link rfl linkedScans_get?.2.1).trans (walk_below_out.1 linkedScans_get?.2.2.1)

lemma linkedScans_findImages : ∃ entries,
    linkedScans.findImages scansConfig.inputDir = .ok entries ∧ ∀ e, e ∈ entries ↔
      e = childEntry Path.here firstName ∨ e = childEntry Path.here linkName := by
  obtain ⟨hfirst, _, _, hnames⟩ := linkedScans_get?
  have hdir : linkedScans.find scansConfig.inputDir = .ok (.taken [] .folder) :=
    find_here linkedScans
  have hlistsFirst : lists linkedScans (dots 0) firstName = true :=
    lists_first (by decide) hfirst
  have hlistsLink : lists linkedScans (dots 0) linkName = true :=
    lists_child (by decide) (by decide) linkedScans_find_link (by simp)
  obtain ⟨entries, hfound, hmem⟩ := exists_entries_of_lists hdir (by
    rw [hnames]
    simp only [List.mem_cons, List.not_mem_nil, or_false]
    rintro n (rfl | rfl)
    · exact hlistsFirst
    · exact hlistsLink)
  refine ⟨entries, hfound, fun e => ?_⟩
  rw [hmem, hnames]
  simp [scansConfig, Config.ofPaths]

lemma linkedScans_writeLocation :
    linkedScans.writeLocation scansConfig.outputFile = .ok [outName] := by
  have hpath : scansConfig.outputFile = Path.join Path.here outName := by decide
  rw [hpath]
  exact writeLocation_child (by decide) linkedScans_get?.2.2.1

lemma linkedScans_ends_otherwise (z : Packer) (now now' : Moment) :
    EndsOtherwise linkedScans z scansConfig now now' := by
  obtain ⟨hfirst, hlink, _, _⟩ := linkedScans_get?
  obtain ⟨entries, hfound, hmem⟩ := linkedScans_findImages
  have hdir : linkedScans.find scansConfig.inputDir = .ok (.taken [] .folder) :=
    find_here linkedScans
  have hfindFirst : linkedScans.find (childEntry (dots 0) firstName).path = _ :=
    find_first (by decide) hfirst
  have hready : ImagesReady linkedScans scansConfig entries :=
    ⟨by decide, hfound, by simp [scansConfig],
      ⟨_, (hmem _).mpr (.inl rfl), loads_of_find_dotBitmap hfindFirst⟩⟩
  obtain ⟨d, t', hcombine, _, hwrite⟩ :=
    combine_of_writable hready rfl linkedScans_writeLocation z now
  obtain ⟨hnamesOut, hwritten⟩ := writtenAt_of_writeLocation linkedScans_writeLocation hwrite
  have hfound' : t'.findImages scansConfig.inputDir = .ok entries := by
    rw [findImages_of_writtenAt hwritten hdir fun n => not_lists_out t', hfound]
  refine ⟨_, _, _, t', hcombine, ?_, ?_⟩
  · intro entries' hentries' e he
    rw [hfound'] at hentries'
    cases hentries'
    refine not_sameFile_of_writtenAt hwritten hnamesOut ?_
    rcases (hmem e).mp he with rfl | rfl
    · exact not_namesFile_of_find hfindFirst (by decide)
    · exact not_namesFile_of_find_error linkedScans_find_link
  · -- The link is left out both times, but the texts of the two reasons are different.
    intro hsame
    obtain ⟨entries', hentries', _, hskipped⟩ := entries_of_created hsame
    rw [hfound'] at hentries'
    cases hentries'
    have hleft := mem_batchOf_skipped.mpr ⟨_, (hmem _).mpr (.inr rfl), _,
      loadRgb_of_find_error linkedScans_find_link, rfl⟩
    have hlink' : t'.get? [linkName] = some (.link (Bytes.ofText "out.pdf/page")) :=
      hwritten.get?_of_eq hlink (by simp)
    have hfindLink' := (find_link hwritten.current hlink').trans
      (walk_below_out.2 _ hwritten.after)
    rw [hskipped] at hleft
    obtain ⟨e, _, f, hload, hreason⟩ := mem_batchOf_skipped.mp hleft
    obtain rfl := congrArg Skipped.entry hreason
    rw [loadRgb_of_find_error hfindLink'] at hload
    cases hload
    have htexts := congrArg Skipped.reason hreason
    revert htexts
    decide +kernel

/-! ### An output whose path in the folder is too long -/

def secondName : Name :=
  Bytes.ofText "Scan (2) all.png"

/-- A scan in a folder that is written with so many dots that a longer name has no room. -/
def loneScan : FileTree :=
  ⟨[([firstName], .file (dotBitmap 6 5 4))], []⟩

def longConfig : Config :=
  .ofPaths (dots 2040) (Path.join Path.here secondName)

lemma loneScan_get? :
    loneScan.get? [firstName] = some (.file (dotBitmap 6 5 4)) ∧
      loneScan.get? [secondName] = none ∧ loneScan.names [] = [firstName] := by
  decide

lemma secondName_plain : IsPlain secondName := by
  decide

lemma find_second (t : FileTree) :
    t.find (childEntry (dots 2040) secondName).path = .error .nameTooLong := by
  have hlength : secondName.length = 16 := by decide
  rw [childEntry_path, find_dots_child secondName_plain, hlength, if_pos (by decide)]

lemma loneScan_find_dir : loneScan.find longConfig.inputDir = .ok (.taken [] .folder) :=
  find_dots loneScan (by decide)

lemma loneScan_find_first : loneScan.find (childEntry (dots 2040) firstName).path =
    .ok (.taken [firstName] (.file (dotBitmap 6 5 4))) :=
  find_first (by decide) loneScan_get?.1

lemma loneScan_ready : ∃ entries, ImagesReady loneScan longConfig entries := by
  obtain ⟨hfirst, _, hnames⟩ := loneScan_get?
  obtain ⟨entries, hfound, hmem⟩ := exists_entries_of_lists loneScan_find_dir (by
    rw [hnames]
    intro n hn
    rw [List.mem_singleton.mp hn]
    exact lists_first (by decide) hfirst)
  have hloads : Loads loneScan (childEntry (dots 2040) firstName) :=
    loads_of_find_dotBitmap loneScan_find_first
  refine ⟨entries, by decide, hfound, ?_, ⟨_, (hmem _).mpr ⟨firstName, by simp [hnames], rfl⟩,
    hloads⟩⟩
  intro _ e he
  obtain ⟨n, hn, rfl⟩ := (hmem e).mp he
  rw [hnames, List.mem_singleton] at hn
  rwa [hn]

/-- The document has the name of an image, and what is found under that name cannot be read. -/
lemma loneScan_ends_otherwise (z : Packer) (now now' : Moment) :
    EndsOtherwise loneScan z longConfig now now' := by
  obtain ⟨_, hfree, hnames⟩ := loneScan_get?
  obtain ⟨entries, hready⟩ := loneScan_ready
  have hlocation : loneScan.writeLocation longConfig.outputFile = .ok [secondName] :=
    writeLocation_child secondName_plain hfree
  obtain ⟨d, t', hcombine, _, hwrite⟩ := combine_of_writable hready rfl hlocation z now
  obtain ⟨hnamesOut, hwritten⟩ := writtenAt_of_writeLocation hlocation hwrite
  have hdir' := find_folder_of_writtenAt hwritten loneScan_find_dir
  refine ⟨_, _, _, t', hcombine, ?_, ?_⟩
  · intro entries' hentries' e he
    refine not_sameFile_of_writtenAt hwritten hnamesOut ?_
    obtain ⟨n, hn, _, rfl⟩ := (mem_findImages hdir' hentries').mp he
    by_cases hsecond : n = secondName
    · subst hsecond
      exact not_namesFile_of_find_error (find_second loneScan)
    · have hold : n ∈ (t'.names []).filter fun n => decide ([] ++ [n] ≠ [secondName]) := by
        simp [hn, hsecond]
      rw [names_of_sameElsewhere hwritten.toSameElsewhere, hnames] at hold
      obtain rfl : n = firstName := List.mem_singleton.mp (List.mem_filter.mp hold).1
      exact not_namesFile_of_find loneScan_find_first (by decide)
  · intro hsame
    obtain ⟨entries', hentries', hall, _⟩ := entries_of_created hsame
    have hlists : lists t' (dots 2040) secondName = true :=
      lists_child secondName_plain (by decide) (find_second t') (by simp)
    have hsecond : childEntry (dots 2040) secondName ∈ entries' :=
      (mem_findImages hdir' hentries').mpr
        ⟨secondName, mem_names_of_get? hwritten.after, hlists, rfl⟩
    obtain ⟨image, hload⟩ := hall rfl _ hsecond
    rw [loadRgb_of_find_error (find_second t')] at hload
    cases hload

/-- A second run can give another reason for leaving out a link that leads on below the output.
And it can fail, if it finds the output itself and the path to it is too long. -/
theorem combine_again_can_differ :
    EndsOtherwise linkedScans .fixed scansConfig ⟨2026, 1, 18, 9, 30, 0⟩ ⟨2026, 1, 18, 9, 30, 5⟩ ∧
      EndsOtherwise loneScan .fixed longConfig ⟨2026, 1, 18, 9, 30, 0⟩ ⟨2026, 1, 18, 9, 30, 5⟩ :=
  ⟨linkedScans_ends_otherwise _ _ _, loneScan_ends_otherwise _ _ _⟩

end ScanBinder.Proofs
