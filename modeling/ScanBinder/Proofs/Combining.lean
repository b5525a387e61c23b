import ScanBinder.Proofs.ImageSizes
import ScanBinder.Proofs.Outcomes
import ScanBinder.Proofs.Scanning
import ScanBinder.Proofs.WrittenPages

/-!
# What a run writes

A run that does not end with a document leaves the tree as it was; one that does changes a
single file. The document in it counts one page for each image of the folder that could be
loaded. The pages that are met in it are in page order and show their images. A page is not met
if its width or height is more than can be read back.
-/

namespace ScanBinder.Proofs
open FileTree Pdf

lemma batchOf_perm (t : FileTree) (entries : List ScanEntry) :
    ((batchOf t entries).included ++ (batchOf t entries).skipped.map Skipped.entry).Perm
      entries := by
  rw [batchOf_skipped_entries]
  exact List.filter_append_perm _ entries

lemma batchOf_disjoint (t : FileTree) (entries : List ScanEntry) :
    (batchOf t entries).included.Disjoint ((batchOf t entries).skipped.map Skipped.entry) := by
  rw [batchOf_skipped_entries]
  intro e hpage hskip
  have hloads := (List.mem_filter.mp hpage).2
  have hfails := (List.mem_filter.mp hskip).2
  simp_all

/-- A run that ends without a document leaves the tree as it was. A run that ends with one
changes the file that the output names and nothing else, and the file then holds the document
of the images of its pages. -/
theorem combine_changes_output_only (t : FileTree) (z : Packer) (c : Config) (now : Moment) :
    match t.combine z c now with
    | (.error _, t') => t' = t
    | (.ok .noImages, t') => t' = t
    | (.ok (.created _ pages _), t') =>
      ∃ loc images d content, NamesFile t c.outputFile loc ∧ SameElsewhere loc t t' ∧
        List.Forall₂ (fun e image => t.loadRgb e.path = .ok image) pages images ∧
        HoldsBinding z c.options now images d content ∧ t'.get? loc = some (.file content) ∧
        t'.find c.outputFile = .ok (.taken loc (.file content)) := by
  generalize hr : t.combine z c now = r
  cases combine_eq_iff.mp hr with
  | created hready hbuild hwrite =>
    obtain ⟨loc, hnames, hsame, hnew, hfind⟩ := write_spec hwrite
    exact ⟨loc, _, _, _, hnames, hsame, batchOf_images t _, holdsBinding_of_build hbuild, hnew,
      hfind⟩
  | _ => rfl

lemma sizes_of_loaded {t : FileTree} {pages : List ScanEntry} {images : List (Raster (Rgb UInt8))}
    (h : List.Forall₂ (fun e image => t.loadRgb e.path = .ok image) pages images) :
    ∀ image ∈ images, image.width < 9223372036854775808 ∧ image.height < 9223372036854775808 := by
  intro image himage
  obtain ⟨e, _, hload⟩ := exists_of_forall₂_left h.flip himage
  obtain ⟨hwidth, hheight⟩ := loadRgb_size t e.path image hload
  exact ⟨by omega, by omega⟩

/-- The pages of a document that was read from the file of loaded images. -/
lemma openDocument_pages {t t' : FileTree} {z : Packer} {options : DocumentOptions} {now : Moment}
    {output : Path} {pages : List ScanEntry} {images : List (Raster (Rgb UInt8))} {d : Document}
    (hloads : List.Forall₂ (fun e image => t.loadRgb e.path = .ok image) pages images)
    (hbuild : build options now images = .ok d)
    (hwrite : t.write output (d.compressed z).bytes = .ok t')
    (hlength : (d.compressed z).bytes.length < 4294967296) :
    ∃ d', t'.openDocument output = .ok d' ∧ d'.pageCount = .ok pages.length ∧
      List.Forall₂ (PageShows d' options) d'.pages (images.filter (PageFits options)) := by
  obtain ⟨d', hload, hreads⟩ := holdsDocument_of_build hbuild hlength
  obtain ⟨hcount, hshow⟩ := pages_of_readsAs hbuild hlength (sizes_of_loaded hloads) hreads
  rw [← hloads.length_eq] at hcount
  exact ⟨d', openDocument_of_write hwrite hload, hcount, hshow⟩

/-- The pages of a run are the images of the folder that can be loaded, in page order. The document
in the file counts them all. Those whose width and height can be read back are met in it in this
order, and each shows its image; so all of them are if all sizes can be read back. -/
theorem combine_pages_in_order {t t' : FileTree} {z : Packer} {c : Config} {now : Moment}
    {output : Path} {pages : List ScanEntry} {skipped : List Skipped}
    (h : t.combine z c now = (.ok (.created output pages skipped), t')) :
    (∃ entries, t.findImages c.inputDir = .ok entries ∧ pages.Sublist entries ∧
      (skipped.map Skipped.entry).Sublist entries ∧
      (pages ++ skipped.map Skipped.entry).Perm entries ∧
      pages.Disjoint (skipped.map Skipped.entry)) ∧
    pages.Pairwise InOrder ∧
    ∃ images d content,
      List.Forall₂ (fun e image => t.loadRgb e.path = .ok image) pages images ∧
      HoldsBinding z c.options now images d content ∧ t'.read output = .ok content ∧
      (content.length < 4294967296 → ∃ d', t'.openDocument output = .ok d' ∧
        d'.pageCount = .ok pages.length ∧
        List.Forall₂ (PageShows d' c.options) d'.pages (images.filter (PageFits c.options)) ∧
        (d'.pages.length = pages.length ↔ ∀ image ∈ images, PageFits c.options image)) := by
  cases combine_eq_iff.mp h with
  | @created entries d _ hready hbuild hwrite =>
    have hincluded : (batchOf t entries).included.Sublist entries := List.filter_sublist
    have himages := batchOf_images t entries
    obtain ⟨loc, _, _, _, hfind⟩ := write_spec hwrite
    refine ⟨⟨entries, hready.found, hincluded, ?_, batchOf_perm t entries,
      batchOf_disjoint t entries⟩, (findImages_pairwise hready.found).sublist hincluded,
      _, d, _, himages, holdsBinding_of_build hbuild, read_of_find hfind, fun hlength => ?_⟩
    · rw [batchOf_skipped_entries]
      exact List.filter_sublist
    · obtain ⟨d', hopen, hcount, hshow⟩ := openDocument_pages himages hbuild hwrite hlength
      refine ⟨d', hopen, hcount, hshow, ?_⟩
      rw [hshow.length_eq, himages.length_eq, List.length_filter_eq_length_iff]
      simp only [decide_eq_true_eq]

/-- With plain pages a run ends with a document if an image is there and the output can be
written. -/
lemma combine_of_writable {t : FileTree} {c : Config} {entries : List ScanEntry} {loc : Location}
    (hready : ImagesReady t c entries) (hplain : c.encoding = .flate)
    (hloc : t.writeLocation c.outputFile = .ok loc) (z : Packer) (now : Moment) :
    ∃ d t', t.combine z c now = (.ok (.created c.outputFile (batchOf t entries).included
        (batchOf t entries).skipped), t') ∧
      build c.options now (batchOf t entries).images = .ok d ∧
      t.write c.outputFile (d.compressed z).bytes = .ok t' := by
  have haccepts : ¬Rejects t c entries := by
    rintro ⟨quality, hquality, _⟩
    rw [hplain] at hquality
    cases hquality
  obtain ⟨d, hbuild⟩ := (build_batchOf_ok_iff hready).mpr haccepts
  obtain ⟨t', hwrite⟩ := write_ok_iff.mpr ⟨loc, hloc⟩
  exact ⟨d, t', combine_of_ends (.created hready hbuild hwrite), hbuild, hwrite⟩

/-! ## A folder of three scans -/

/-- A bitmap of one pixel. -/
def dotBitmap (red green blue : UInt8) : Bytes :=
  [0x42, 0x4D, 58, 0, 0, 0, 0, 0, 0, 0, 54, 0, 0, 0,
    40, 0, 0, 0, 1, 0, 0, 0, 1, 0, 0, 0, 1, 0, 24, 0, 0, 0, 0, 0, 4, 0, 0, 0,
    0, 0, 0, 0, 0, 0, 0, 0, 0, 0, 0, 0, 0, 0, 0, 0, blue, green, red, 0]

/-- Three scans in the root, of which the seventh page is an empty file. -/
def scans : FileTree :=
  ⟨[([Bytes.ofText "Scan (10).bmp"], .file (dotBitmap 3 2 1)),
    ([Bytes.ofText "Scan (7).png"], .file []),
    ([Bytes.ofText "Scan (2).bmp"], .file (dotBitmap 6 5 4))], []⟩

def scan (name : String) (key : Nat) : ScanEntry :=
  ⟨Bytes.ofText ("./" ++ name), name, key⟩

def scansConfig : Config :=
  { Config.ofPaths Path.here (Bytes.ofText "./out.pdf") with onError := .skip }

/-- The images of the scans that can be read. -/
def scansImages : List (Raster (Rgb UInt8)) :=
  [⟨1, 1, [⟨6, 5, 4⟩], rfl⟩, ⟨1, 1, [⟨3, 2, 1⟩], rfl⟩]

-- The walk does not reduce by itself, so a child is looked up by the lemmas on children.
lemma scans_find (name : String)
    (h : name ∈ ["Scan (10).bmp", "Scan (7).png", "Scan (2).bmp", "out.pdf"]) :
    scans.find (Bytes.ofText ("./" ++ name)) =
      match scans.get? [Bytes.ofText name] with
      | some e => .ok (.taken [Bytes.ofText name] e)
      | none => .ok (.free [Bytes.ofText name]) := by
  have hname : IsPlain (Bytes.ofText name) ∧
      Bytes.ofText ("./" ++ name) = Path.join Path.here (Bytes.ofText name) := by
    revert name
    decide
  rw [hname.2, find_child hname.1, walk_child hname.1]
  clear hname
  revert name
  decide

lemma scans_isFolder : ∀ name ∈ ["Scan (10).bmp", "Scan (7).png", "Scan (2).bmp"],
    scans.isFolder (Bytes.ofText ("./" ++ name)) = false := by
  intro name h
  unfold FileTree.isFolder FileTree.lookup
  rw [scans_find name (List.mem_append_left ["out.pdf"] h)]
  revert name
  decide

lemma scans_findImages : scans.findImages scansConfig.inputDir =
    .ok [scan "Scan (2).bmp" 2, scan "Scan (7).png" 7, scan "Scan (10).bmp" 10] := by
  have hroot : scans.find scansConfig.inputDir = .ok (.taken [] .folder) := find_here scans
  have hpaths : imageNamed scansConfig.inputDir (scans.names []) =
      ["Scan (10).bmp", "Scan (7).png", "Scan (2).bmp"].map fun name =>
        Bytes.ofText ("./" ++ name) := by
    decide
  have hfiles : (imageNamed scansConfig.inputDir (scans.names [])).filter (!scans.isFolder ·) =
      imageNamed scansConfig.inputDir (scans.names []) := by
    rw [List.filter_eq_self, hpaths, List.forall_mem_map]
    intro name h
    rw [scans_isFolder name h]
    rfl
  have hentries : (imageNamed scansConfig.inputDir (scans.names [])).map ScanEntry.ofPath =
      [scan "Scan (10).bmp" 10, scan "Scan (7).png" 7, scan "Scan (2).bmp" 2] := by
    decide +kernel
  rw [findImages_of_folder hroot]
  simp only [FileTree.listingOf, hfiles, hentries]
  simp +decide [inPageOrder, List.mergeSort, scan, textLe, List.MergeSort.Internal.splitInTwo]

lemma loadRgb_of_find {t : FileTree} {p : Path} {loc : Location} {content : Bytes}
    (h : t.find p = .ok (.taken loc (.file content))) :
    t.loadRgb p = (loadContent p content).map Loaded.raster := by
  unfold FileTree.loadRgb FileTree.load FileTree.readImage
  rw [read_of_find h]
  rfl

lemma scans_images :
    image? scans (scan "Scan (2).bmp" 2) = some ⟨1, 1, [⟨6, 5, 4⟩], rfl⟩ ∧
      image? scans (scan "Scan (7).png" 7) = none ∧
      image? scans (scan "Scan (10).bmp" 10) = some ⟨1, 1, [⟨3, 2, 1⟩], rfl⟩ := by
  have htwo : scans.find (scan "Scan (2).bmp" 2).path = _ := scans_find "Scan (2).bmp" (by decide)
  have hseven : scans.find (scan "Scan (7).png" 7).path = _ := scans_find "Scan (7).png" (by decide)
  have hten : scans.find (scan "Scan (10).bmp" 10).path = _ :=
    scans_find "Scan (10).bmp" (by decide)
  unfold image?
  rw [loadRgb_of_find htwo, loadRgb_of_find hseven, loadRgb_of_find hten]
  decide +kernel

lemma scans_batchOf :
    let batch := batchOf scans
      [scan "Scan (2).bmp" 2, scan "Scan (7).png" 7, scan "Scan (10).bmp" 10]
    batch.included = [scan "Scan (2).bmp" 2, scan "Scan (10).bmp" 10] ∧
      batch.images = scansImages := by
  obtain ⟨htwo, hseven, hten⟩ := scans_images
  simp [batchOf, htwo, hseven, hten, scansImages]

lemma scans_writeLocation (name : String)
    (h : name ∈ ["Scan (10).bmp", "Scan (7).png", "Scan (2).bmp", "out.pdf"]) :
    scans.writeLocation (Bytes.ofText ("./" ++ name)) = .ok [Bytes.ofText name] := by
  have hfind := scans_find name h
  apply writeLocation_eq_ok.mpr
  simp only [List.mem_cons, List.not_mem_nil, or_false] at h
  rcases h with rfl | rfl | rfl | rfl
  · exact .inr ⟨_, hfind⟩
  · exact .inr ⟨_, hfind⟩
  · exact .inr ⟨_, hfind⟩
  · exact .inl hfind

/-- The two scans that can be read are bound, at any moment, into any of the files and with any
resolution that is accepted. -/
lemma scans_combine_into (name : String)
    (h : name ∈ ["Scan (10).bmp", "Scan (7).png", "Scan (2).bmp", "out.pdf"]) {c : Config}
    (hc : c = { scansConfig with
      outputFile := Bytes.ofText ("./" ++ name), resolution := c.resolution })
    (haccept : c.fault? = none) (z : Packer) (now : Moment) :
    ∃ skipped t' d,
      scans.combine z c now = (.ok (.created c.outputFile
          [scan "Scan (2).bmp" 2, scan "Scan (10).bmp" 10] skipped), t') ∧
      scans.writeLocation c.outputFile = .ok [Bytes.ofText name] ∧
      build c.options now scansImages = .ok d ∧
      scans.write c.outputFile (d.compressed z).bytes = .ok t' := by
  have hready : ImagesReady scans c
      [scan "Scan (2).bmp" 2, scan "Scan (7).png" 7, scan "Scan (10).bmp" 10] := by
    refine ⟨haccept, ?_, ?_, ?_⟩
    · rw [hc]
      exact scans_findImages
    · rw [hc]
      simp [scansConfig]
    · exact ⟨scan "Scan (2).bmp" 2, by simp, _, image?_eq_some.mp scans_images.1⟩
  have hlocation : scans.writeLocation c.outputFile = .ok [Bytes.ofText name] := by
    rw [hc]
    exact scans_writeLocation name h
  have hplain : c.encoding = .flate := by
    rw [hc]
    rfl
  obtain ⟨d, t', hcombine, hbuild, hwrite⟩ := combine_of_writable hready hplain hlocation z now
  rw [scans_batchOf.1] at hcombine
  rw [scans_batchOf.2] at hbuild
  exact ⟨_, t', d, hcombine, hlocation, hbuild, hwrite⟩

lemma scans_combine (z : Packer) (now : Moment) :
    ∃ skipped t' d, scans.combine z scansConfig now = (.ok (.created (Bytes.ofText "./out.pdf")
        [scan "Scan (2).bmp" 2, scan "Scan (10).bmp" 10] skipped), t') ∧
      build scansConfig.options now scansImages = .ok d ∧
      scans.write (Bytes.ofText "./out.pdf") (d.compressed z).bytes = .ok t' := by
  obtain ⟨skipped, t', d, hcombine, _, hbuild, hwrite⟩ :=
    scans_combine_into "out.pdf" (by decide) (show scansConfig = _ from rfl) (by decide) z now
  exact ⟨skipped, t', d, hcombine, hbuild, hwrite⟩

lemma scans_length {resolution : Single}
    (h : resolution ∈ [scansConfig.resolution, ⟨false, 0x1E3CE508⟩]) {d : Document}
    (hbuild : build ⟨resolution, .flate, none, none⟩ ⟨2026, 1, 18, 9, 30, 0⟩ scansImages = .ok d) :
    (d.compressed .fixed).bytes.length < 4294967296 := by
  have hlength : ∀ r ∈ [scansConfig.resolution, ⟨false, 0x1E3CE508⟩],
      ((build ⟨r, .flate, none, none⟩ ⟨2026, 1, 18, 9, 30, 0⟩ scansImages).toOption.all
        fun d => decide ((d.compressed .fixed).bytes.length < 4294967296)) = true := by
    decide +kernel
  have hlength := hlength resolution h
  rw [hbuild] at hlength
  simpa only [Except.toOption, Option.all_some, decide_eq_true_eq] using hlength

lemma scans_loads : List.Forall₂ (fun e image => scans.loadRgb e.path = .ok image)
    [scan "Scan (2).bmp" 2, scan "Scan (10).bmp" 10] scansImages :=
  .cons (image?_eq_some.mp scans_images.1) (.cons (image?_eq_some.mp scans_images.2.2) .nil)

lemma scans_loaded {images : List (Raster (Rgb UInt8))}
    (h : List.Forall₂ (fun e image => scans.loadRgb e.path = .ok image)
      [scan "Scan (2).bmp" 2, scan "Scan (10).bmp" 10] images) : images = scansImages := by
  refine List.right_unique_forall₂' ?_ h scans_loads
  intro e image image' himage himage'
  exact Except.ok.inj (himage.symm.trans himage')

theorem combine_pages_in_order_three_scans :
    ∃ skipped t' d, scans.combine .fixed scansConfig ⟨2026, 1, 18, 9, 30, 0⟩ =
        (.ok (.created (Bytes.ofText "./out.pdf")
          [scan "Scan (2).bmp" 2, scan "Scan (10).bmp" 10] skipped), t') ∧
      t'.openDocument (Bytes.ofText "./out.pdf") = .ok d ∧ d.pageCount = .ok 2 ∧
      List.Forall₂ (PageShows d scansConfig.options) d.pages scansImages := by
  obtain ⟨skipped, t', _, hcombine, _, _⟩ := scans_combine .fixed ⟨2026, 1, 18, 9, 30, 0⟩
  obtain ⟨_, _, images, d, content, himages, hfile, _, hpages⟩ := combine_pages_in_order hcombine
  obtain rfl := scans_loaded himages
  have hlength : content.length < 4294967296 := by
    rw [hfile.written]
    exact scans_length (by simp) hfile.built
  obtain ⟨d', hopen, hcount, hshow, _⟩ := hpages hlength
  have hfits : scansImages.filter (PageFits scansConfig.options) = scansImages := by decide +kernel
  rw [hfits] at hshow
  exact ⟨skipped, t', d', hcombine, hopen, hcount, hshow⟩

/-- An accepted resolution at which a dot is 10²⁰ inches wide and high. -/
def coarseConfig : Config :=
  { scansConfig with resolution := ⟨false, 0x1E3CE508⟩ }

/-- No page is met in the file if the pages are too large, though the run ends with two of them. -/
theorem pages_beyond_limit_lost :
    coarseConfig.fault? = none ∧
    ∃ skipped t' d, scans.combine .fixed coarseConfig ⟨2026, 1, 18, 9, 30, 0⟩ =
        (.ok (.created (Bytes.ofText "./out.pdf")
          [scan "Scan (2).bmp" 2, scan "Scan (10).bmp" 10] skipped), t') ∧
      t'.openDocument (Bytes.ofText "./out.pdf") = .ok d ∧ d.pageCount = .ok 2 ∧ d.pages = [] := by
  have haccept : coarseConfig.fault? = none := by decide
  obtain ⟨skipped, t', d, hcombine, _, hbuild, hwrite⟩ :=
    scans_combine_into "out.pdf" (by decide) (show coarseConfig = _ from rfl) haccept .fixed
      ⟨2026, 1, 18, 9, 30, 0⟩
  obtain ⟨d', hopen, hcount, hshow⟩ :=
    openDocument_pages scans_loads hbuild hwrite (scans_length (by simp [coarseConfig]) hbuild)
  have hnone : scansImages.filter (PageFits coarseConfig.options) = [] := by decide +kernel
  rw [hnone] at hshow
  exact ⟨haccept, skipped, t', d', hcombine, hopen, hcount, List.forall₂_nil_right_iff.mp hshow⟩

end ScanBinder.Proofs
