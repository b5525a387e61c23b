import ScanBinder.Command.Run
import ScanBinder.Proofs.Dates
import ScanBinder.Proofs.Inspection

/-!
# The command and the run behind it

The command goes through the steps of a run one by one, prints what it finds between them, and
reads the document back at the end. It leaves the tree that combining leaves and fails where
combining fails; reading back adds no failure of its own, and the number of pages that it prints
is that of the images that were bound.
-/

namespace ScanBinder.Proofs
open FileTree Pdf

/-! ## Reading back -/

/-- A document that comes back from its compressed file with the same catalog and the same page
tree. -/
def LoadsBack (z : Packer) (d : Document) : Prop :=
  ∃ d', Document.ofBytes (d.compressed z).bytes = .ok d' ∧ d'.catalog? = d.catalog? ∧
    ∀ catalog tree, d.catalog? = some catalog → catalog.get? "Pages" = some (.ref tree) →
      d'.dictionary tree = d.dictionary tree

lemma catalogDict_kept {pages : Nat} {e : Dict} (h : KeptEntries (catalogDict pages) e) :
    e = catalogDict pages := by
  apply h.eq_of_values
  intro x hx w hw
  simp only [catalogDict, List.mem_cons, List.not_mem_nil, or_false] at hx
  rcases hx with rfl | rfl
  · exact hw.name_eq
  · exact hw.ref_eq

lemma pagesDict_kept {kids : List Nat} {e : Dict} (h : KeptEntries (pagesDict kids) e) :
    e = pagesDict kids := by
  apply h.eq_of_values
  intro x hx w hw
  simp only [pagesDict, List.mem_cons, List.not_mem_nil, or_false] at hx
  rcases hx with rfl | rfl | rfl
  · exact hw.name_eq
  · exact hw.int_eq
  · have hrefs : kids.map refTo = (kids.map fun n => (⟨n, 0⟩ : ObjectId)).map .ref := by
      simp [refTo]
    simp only [entry, hrefs] at hw ⊢
    obtain ⟨ws, rfl, hitems⟩ := hw.array_cases
    rw [hitems.refs_eq]

/-- The catalog and the page tree hold no reals, so they come back as they were from any file that
is not too long. -/
theorem loadsBack_of_build {z : Packer} {options : DocumentOptions} {now : Moment}
    {images : List (Raster (Rgb UInt8))} {d : Document} (hbuild : build options now images = .ok d)
    (hlength : (d.compressed z).bytes.length < 4294967296) : LoadsBack z d := by
  obtain ⟨d', hload, hreads⟩ := holdsDocument_of_build hbuild hlength
  obtain ⟨streams, _, rfl⟩ := boundDocument_of_build hbuild
  have hpages := boundDocument_hasPages options now (images.zip streams)
  obtain ⟨catalog, tree, hroot, hcatalog, hkeptCatalog, htree, hkeptTree⟩ :=
    tree_of_readsAs hlength hreads
  rw [catalogDict_kept hkeptCatalog] at hcatalog
  rw [pagesDict_kept hkeptTree] at htree
  refine ⟨d', hload, ?_, ?_⟩
  · rw [catalog?_of_hasPages hpages, Document.catalog?, hroot]
    simp only [dictionary_of_object? hcatalog, Except.toOption]
  · intro catalog' tree' hcatalog' htree'
    rw [catalog?_of_hasPages hpages] at hcatalog'
    cases hcatalog'
    rw [hpages.catalog_tree] at htree'
    cases htree'
    rw [dictionary_of_object? htree, dictionary_of_object? hpages.tree_object]

lemma pageCount_congr {d d' : Document} (hcatalog : d'.catalog? = d.catalog?)
    (htree : ∀ catalog tree, d.catalog? = some catalog → catalog.get? "Pages" = some (.ref tree) →
      d'.dictionary tree = d.dictionary tree) : d'.pageCount = d.pageCount := by
  unfold Document.pageCount
  rw [hcatalog]
  cases hc : d.catalog? with
  | none => rfl
  | some catalog =>
    dsimp only
    split
    · next tree hpages => rw [htree catalog tree hc hpages]
    · rfl
    · rfl

/-- The number of pages of a document that was just written can be read. -/
lemma countPages_of_write {t t' : FileTree} {z : Packer} {options : DocumentOptions}
    {now : Moment} {output : Path} {images : List (Raster (Rgb UInt8))} {d : Document}
    (hbuild : build options now images = .ok d)
    (hwrite : t.write output (d.compressed z).bytes = .ok t') (hback : LoadsBack z d) :
    t'.countPages output = .ok images.length := by
  obtain ⟨d', hload, hcatalog, htree⟩ := hback
  have hcount : d'.pageCount = .ok images.length := by
    rw [pageCount_congr hcatalog htree, pageCount_of_build hbuild]
  have hne : images.length ≠ 0 := by
    rw [Ne, List.length_eq_zero_iff]
    exact (build_ok_iff.mp ⟨d, hbuild⟩).1
  rw [FileTree.countPages, openDocument_of_write hwrite hload, ok_bind, FileTree.checkedCount,
    hcount]
  exact if_neg hne

/-! ## Step by step -/

/-- What a step-by-step run comes to if combining ends with `r`. -/
def RunsLike (t : FileTree) (s : Surroundings) (i : Invocation) (trace : Trace) :
    Except Failure Outcome × FileTree → Prop
  | (.error _, t') => trace.tree = t' ∧ trace.failure ≠ none
  | (.ok .noImages, t') => trace.tree = t' ∧ trace.failure = none ∧ trace.out = noImagesText
  | (.ok (.created output pages skipped), t') =>
    ∃ entries events, t.findImages i.config.inputDir = .ok entries ∧
      trace = t'.finishRun i s (foundText entries) events (.created output pages skipped)

lemma combine_of_scan {t : FileTree} {c : Config} {listing : Listing} (hconfig : c.fault? = none)
    (hscan : t.scanFolder c.inputDir = .ok listing) (hne : listing.entries ≠ []) (z : Packer)
    (now : Moment) :
    t.combine z c now = t.writeAttempts z c now (t.attempts listing.entries) := by
  unfold FileTree.combine FileTree.findImages
  simp only [hconfig, hscan, Except.map]
  exact if_neg (by simpa using hne)

/-- The command goes the way of combining. -/
lemma runInvocation_runsLike (t : FileTree) (s : Surroundings) (i : Invocation) :
    RunsLike t s i (t.runInvocation s i) (t.combine s.packer i.config s.now) := by
  unfold FileTree.runInvocation
  cases hconfig : i.config.fault? with
  | some f =>
    have hcombine : t.combine s.packer i.config s.now = (.error (.invalidConfig f), t) :=
      combine_of_ends (.invalid hconfig)
    simp only [hconfig, hcombine]
    exact ⟨rfl, Option.some_ne_none _⟩
  | none =>
    cases hscan : t.scanFolder i.config.inputDir with
    | error f =>
      have hcombine : t.combine s.packer i.config s.now = (.error f, t) := by
        unfold FileTree.combine FileTree.findImages
        simp only [hconfig, hscan, Except.map]
      simp only [hconfig, hscan, hcombine]
      exact ⟨rfl, Option.some_ne_none _⟩
    | ok listing =>
      have hfound : t.findImages i.config.inputDir = .ok listing.entries := by
        unfold FileTree.findImages
        rw [hscan]
        rfl
      simp only [hconfig, hscan]
      by_cases hempty : listing.entries = []
      · have hcombine : t.combine s.packer i.config s.now = (.ok .noImages, t) :=
          combine_of_ends (.noImages hconfig (hempty ▸ hfound))
        rw [hcombine, if_pos (by simpa using hempty)]
        exact ⟨rfl, rfl, rfl⟩
      · have hcombine := combine_of_scan hconfig hscan hempty s.packer s.now
        rw [if_neg (by simpa using hempty), ← hcombine]
        generalize hr : t.combine s.packer i.config s.now = r
        obtain ⟨result, t'⟩ := r
        cases result with
        | error f => exact ⟨rfl, Option.some_ne_none _⟩
        | ok outcome =>
          cases outcome with
          | created output pages skipped => exact ⟨listing.entries, _, hfound, rfl⟩
          | noImages =>
            -- combining finds no images only where there are none
            cases combine_eq_iff.mp hr with
            | noImages _ hnone =>
              rw [hfound] at hnone
              exact absurd (Except.ok.inj hnone) hempty

/-! ## What is printed -/

/-- Lines, each with its end. -/
def linesText (lines : List String) : String :=
  String.join (lines.map (· ++ "\n"))

/-- The lines of a run that made a document of `pages` from `entries`. -/
def createdLines (entries : List ScanEntry) (output : Path) (pages : List ScanEntry)
    (skipped : List Skipped) : List String :=
  ["Found " ++ toString entries.length ++ " images:"] ++
    (entries.zipIdx 1).map (fun (e, k) => "  " ++ toString k ++ ". " ++ e.name) ++
    skipped.map (fun s => "Skipped " ++ s.entry.name ++ ": " ++ s.reason) ++
    ["", "Successfully created: " ++ Path.display output,
      "PDF contains " ++ toString pages.length ++ " pages"]

lemma foundText_append_createdText (entries : List ScanEntry) (output : Path)
    (pages : List ScanEntry) (skipped : List Skipped) :
    foundText entries ++ createdText output pages.length skipped =
      linesText (createdLines entries output pages skipped) := by
  have hbreak : "\nSuccessfully created: " = "\n" ++ "Successfully created: " := rfl
  have hcount : " images:\n" = " images:" ++ "\n" := rfl
  have hpages : " pages\n" = " pages" ++ "\n" := rfl
  unfold foundText createdText linesText createdLines
  simp only [hbreak, hcount, hpages, List.zipIdx_succ, List.map_append, List.map_map,
    List.map_cons, List.map_nil, String.join_append, String.join_cons, String.join_nil,
    Function.comp_def, String.append_assoc, String.append_empty, String.empty_append]

/-! ## Agreement -/

section
variable {t : FileTree} {s : Surroundings} {i : Invocation}

lemma finishRun_of_count (hopen : i.openAfter = false) {output : Path} {pages : List ScanEntry}
    (hcount : t.countPages output = .ok pages.length) {entries : List ScanEntry}
    {events : List Event} {skipped : List Skipped} :
    t.finishRun i s (foundText entries) events (.created output pages skipped) =
      ⟨t, linesText (createdLines entries output pages skipped), events, none⟩ := by
  rw [FileTree.finishRun, hcount]
  simp only [hopen, Bool.false_and, Bool.false_eq_true, if_false]
  rw [foundText_append_createdText]

lemma perform_of_failure (h : (t.runInvocation s i).failure ≠ none) :
    (t.perform s i).1.code = 1 ∧ (t.perform s i).2 = (t.runInvocation s i).tree := by
  unfold FileTree.perform
  cases hfailure : (t.runInvocation s i).failure with
  | none => exact absurd hfailure h
  | some line =>
    simp only [hfailure]
    exact ⟨trivial, trivial⟩

lemma perform_of_success (h : (t.runInvocation s i).failure = none) :
    (t.perform s i).1.code = 0 ∧ (t.perform s i).1.out = (t.runInvocation s i).out ∧
      (t.perform s i).2 = (t.runInvocation s i).tree := by
  unfold FileTree.perform
  simp only [h]
  exact ⟨trivial, trivial, trivial⟩

/-- What a report says about the result of combining. -/
def Reports (t : FileTree) (c : Config) (report : Report) (t' : FileTree) :
    Except Failure Outcome → Prop
  | .error _ => report.code = 1
  | .ok .noImages =>
    report.code = 0 ∧ report.out = linesText ["No image files found in the folder."]
  | .ok (.created output pages skipped) =>
    report.code = 0 ∧ t'.countPages output = .ok pages.length ∧
      ∃ entries, t.findImages c.inputDir = .ok entries ∧ entries.Pairwise InOrder ∧
        entries.length = pages.length + skipped.length ∧
        report.out = linesText (createdLines entries output pages skipped)

/-- A command at the moment of the run. -/
lemma perform_reports (hopen : i.openAfter = false)
    (hsaved : ∀ output pages skipped t' images d,
      t.combine s.packer i.config s.now = (.ok (.created output pages skipped), t') →
      List.Forall₂ (fun e image => t.loadRgb e.path = .ok image) pages images →
      build i.config.options s.now images = .ok d → LoadsBack s.packer d) :
    (t.perform s i).2 = (t.combine s.packer i.config s.now).2 ∧
      Reports t i.config (t.perform s i).1 (t.perform s i).2
        (t.combine s.packer i.config s.now).1 := by
  have hlike := runInvocation_runsLike t s i
  generalize hr : t.combine s.packer i.config s.now = r at hlike hsaved ⊢
  obtain ⟨result, t'⟩ := r
  cases result with
  | error f =>
    obtain ⟨htree, hfailure⟩ := hlike
    obtain ⟨hcode, hleft⟩ := perform_of_failure hfailure
    exact ⟨hleft.trans htree, hcode⟩
  | ok outcome =>
    cases outcome with
    | noImages =>
      obtain ⟨htree, hfailure, hout⟩ := hlike
      obtain ⟨hcode, hprinted, hleft⟩ := perform_of_success hfailure
      exact ⟨hleft.trans htree, hcode, hprinted.trans hout⟩
    | created output pages skipped =>
      obtain ⟨entries, events, hfound, hlike⟩ := hlike
      cases combine_eq_iff.mp hr with
      | @created entries' d _ hready hbuild hwrite =>
        have hsame : entries' = entries := by
          have hfound' := hready.found
          rw [hfound] at hfound'
          exact (Except.ok.inj hfound').symm
        subst hsame
        have himages := batchOf_images t entries'
        have hback := hsaved _ _ _ _ _ d rfl himages hbuild
        have hcount := countPages_of_write hbuild hwrite hback
        rw [← himages.length_eq] at hcount
        rw [finishRun_of_count hopen hcount] at hlike
        obtain ⟨hcode, hprinted, hleft⟩ := perform_of_success (s := s) (i := i) (by rw [hlike])
        rw [hlike] at hprinted hleft
        have hperm := (batchOf_perm t entries').length_eq
        rw [List.length_append, List.length_map] at hperm
        rw [hleft]
        exact ⟨rfl, hcode, hcount, entries', hfound, findImages_pairwise hfound, hperm.symm,
          hprinted⟩

end

/-- Whatever the arguments ask for, the command leaves the tree that combining leaves, apart from
the dates of a document if they are run at different moments. It exits with zero if combining
comes to an end without a failure, and prints what was found, what was left out and what was
made. -/
theorem command_agrees_with_combine {t : FileTree} {s : Surroundings} {i : Invocation}
    (hopen : i.openAfter = false)
    (hsaved : ∀ output pages skipped t' images d,
      t.combine s.packer i.config s.now = (.ok (.created output pages skipped), t') →
      List.Forall₂ (fun e image => t.loadRgb e.path = .ok image) pages images →
      build i.config.options s.now images = .ok d → LoadsBack s.packer d) (now : Moment) :
    (∀ args, Invocation.ofArguments args = .ok i → runCommand t s args = t.perform s i) ∧
    (now = s.now → (t.perform s i).2 = (t.combine s.packer i.config now).2) ∧
    SameButDates (t.perform s i).2 (t.combine s.packer i.config now).2 ∧
    ((t.perform s i).1.code = 0 ↔
      ∃ outcome, (t.combine s.packer i.config now).1 = .ok outcome) ∧
    match (t.combine s.packer i.config now).1 with
    | .error _ => (t.perform s i).1.code = 1
    | .ok .noImages => (t.perform s i).1.out = linesText ["No image files found in the folder."]
    | .ok (.created output pages skipped) =>
      (t.perform s i).2.countPages output = .ok pages.length ∧
      ∃ entries, t.findImages i.config.inputDir = .ok entries ∧ entries.Pairwise InOrder ∧
        entries.length = pages.length + skipped.length ∧
        (t.perform s i).1.out = linesText (createdLines entries output pages skipped) := by
  obtain ⟨htree, hreports⟩ := perform_reports hopen hsaved
  obtain ⟨hresult, hdates⟩ := combine_at_other_moment t s.packer i.config s.now now
  rw [← hresult] at hreports
  rw [← htree] at hdates
  refine ⟨?_, fun hnow => by rw [htree, hnow], hdates, ?_, ?_⟩
  · intro args hargs
    unfold runCommand
    rw [hargs]
  · cases hcombined : (t.combine s.packer i.config now).1 with
    | error f =>
      rw [hcombined] at hreports
      simp [show _ = 1 from hreports]
    | ok outcome =>
      rw [hcombined] at hreports
      have hcode : (t.perform s i).1.code = 0 := by
        cases outcome with
        | noImages => exact hreports.1
        | created => exact hreports.1
      simp [hcode]
  · cases hcombined : (t.combine s.packer i.config now).1 with
    | error f =>
      rw [hcombined] at hreports
      exact hreports
    | ok outcome =>
      rw [hcombined] at hreports
      cases outcome with
      | noImages => exact hreports.2
      | created => exact hreports.2

/-- What the command is called with to bind the three scans. -/
def scansArguments : List Bytes :=
  ["--skip-unreadable", "-o", "./out.pdf", "."].map Bytes.ofText

def scansSurroundings : Surroundings :=
  ⟨none, false, .fixed, ⟨2026, 1, 18, 9, 30, 0⟩, ""⟩

lemma scansArguments_parsed : ∃ i, Invocation.ofArguments scansArguments = .ok i ∧
    i.config = scansConfig ∧ i.openAfter = false :=
  ⟨⟨Path.here, some (Bytes.ofText "./out.pdf"), defaultResolution, none, true, none, none, false,
    false, false⟩, by decide +kernel, by decide, rfl⟩

/-- The command is run seven seconds before combining. -/
theorem command_agrees_with_combine_three_scans :
    ∃ skipped t', scans.combine .fixed scansConfig ⟨2026, 1, 18, 9, 30, 7⟩ =
        (.ok (.created (Bytes.ofText "./out.pdf")
          [scan "Scan (2).bmp" 2, scan "Scan (10).bmp" 10] skipped), t') ∧
      (runCommand scans scansSurroundings scansArguments).1.code = 0 ∧
      SameButDates (runCommand scans scansSurroundings scansArguments).2 t' ∧
      (runCommand scans scansSurroundings scansArguments).2.countPages (Bytes.ofText "./out.pdf") =
        .ok 2 ∧
      (runCommand scans scansSurroundings scansArguments).1.out = linesText (createdLines
        [scan "Scan (2).bmp" 2, scan "Scan (7).png" 7, scan "Scan (10).bmp" 10]
        (Bytes.ofText "./out.pdf") [scan "Scan (2).bmp" 2, scan "Scan (10).bmp" 10] skipped) := by
  obtain ⟨i, hargs, hconfig, hopen⟩ := scansArguments_parsed
  obtain ⟨skipped, t', _, hcombine, _, _⟩ := scans_combine .fixed ⟨2026, 1, 18, 9, 30, 7⟩
  obtain ⟨_, _, _, hearlier, _, _⟩ := scans_combine .fixed scansSurroundings.now
  have hsaved : ∀ output pages skipped t' images d,
      scans.combine scansSurroundings.packer i.config scansSurroundings.now =
        (.ok (.created output pages skipped), t') →
      List.Forall₂ (fun e image => scans.loadRgb e.path = .ok image) pages images →
      build i.config.options scansSurroundings.now images = .ok d →
      LoadsBack scansSurroundings.packer d := by
    intro output pages skipped t' images d hcreated himages hbuild
    rw [hconfig, show scansSurroundings.packer = .fixed from rfl, hearlier] at hcreated
    cases hcreated
    rw [hconfig, scans_loaded himages] at hbuild
    exact loadsBack_of_build hbuild (scans_length (by simp) hbuild)
  obtain ⟨hrun, _, hagree⟩ := command_agrees_with_combine hopen hsaved ⟨2026, 1, 18, 9, 30, 7⟩
  rw [hconfig, show scansSurroundings.packer = .fixed from rfl, hcombine] at hagree
  obtain ⟨hdates, hcode, hcount, entries, hfound, _, _, hout⟩ := hagree
  rw [scans_findImages] at hfound
  cases hfound
  rw [hrun scansArguments hargs]
  exact ⟨skipped, t', hcombine, hcode.mpr ⟨_, rfl⟩, hdates, hcount, hout⟩

end ScanBinder.Proofs
