import ScanBinder.Proofs.WrittenPages

/-!
# Inspecting a document that was written

The page count comes from the page tree, the sizes from a walk over the pages, and the texts
from the information dictionary. On a file that was written from images all of them give what
went into it, if the file keeps the objects of the document.
-/

namespace ScanBinder.Proofs
open FileTree Pdf

/-! ## The information dictionary -/

lemma infoDict_title (options : DocumentOptions) (now : Moment) :
    (infoDict options now).get? "Title" = options.title.map fun s => .str (Bytes.ofText s) := by
  unfold infoDict
  cases options.title <;> cases options.author <;> simp

lemma infoDict_author (options : DocumentOptions) (now : Moment) :
    (infoDict options now).get? "Author" = options.author.map fun s => .str (Bytes.ofText s) := by
  unfold infoDict
  cases options.title <;> cases options.author <;> simp

lemma infoDict_producer (options : DocumentOptions) (now : Moment) :
    (infoDict options now).get? "Producer" = some (.str (Bytes.ofText producer)) := by
  simp [infoDict]

/-- The trailer of a document that was built refers to its information dictionary. -/
lemma info_of_build {options : DocumentOptions} {now : Moment}
    {images : List (Raster (Rgb UInt8))} {d : Document} (h : build options now images = .ok d) :
    ∃ info, d.trailer.get? "Info" = some (.ref info) ∧
      d.object? info = some (.value (.dict (infoDict options now))) := by
  obtain ⟨streams, _, rfl⟩ := boundDocument_of_build h
  refine ⟨⟨3 * (images.zip streams).length + 3, 0⟩, by simp [boundDocument, refTo],
    object?_of_mem (boundDocument_ids_nodup ..) ?_⟩
  simp [boundDocument]

/-! ## Pages and sizes -/

/-- The width and the height of a page, up to the sign of zero. -/
def HasSize (size : Single × Single) (box : Box) : Prop :=
  SameNumber size.1 box.right ∧ SameNumber size.2 box.top

section
variable {options : DocumentOptions} {now : Moment} {images : List (Raster (Rgb UInt8))}
  {d d' : Document}

lemma pageCount_of_kept (hbuild : build options now images = .ok d) (hkeep : KeepsObjects d d') :
    d'.pageCount = .ok images.length := by
  obtain ⟨root, tree, catalog, pages, parts, hpages, hshow⟩ := (build_wellFormed hbuild).page_tree
  obtain ⟨catalog', pages', hpages'⟩ := hkeep.hasPages hpages
  rw [pageCount_of_hasPages hpages', hshow.length_eq]

lemma pages_of_kept (hbuild : build options now images = .ok d) (hkeep : KeepsObjects d d') :
    ∃ tree parts, d'.pages = parts.map PageParts.pageId ∧
      List.Forall₂ (ShowsImage d options tree) parts images := by
  have hgraph := build_wellFormed hbuild
  obtain ⟨root, tree, catalog, pages, parts, hpages, hshow⟩ := hgraph.page_tree
  obtain ⟨catalog', pages', hpages'⟩ := hkeep.hasPages hpages
  refine ⟨tree, parts, pages_of_typed hpages' ?_ ?_, hshow⟩
  · intro p hp
    obtain ⟨image, _, himage⟩ := exists_of_forall₂_left hshow hp
    exact hkeep.typeName? himage
  · have hle := hkeep.length_le hgraph.ids_distinct
    have hcount := hgraph.object_count
    have hlen := hshow.length_eq
    omega

/-- The pages have the sizes of the images at the resolution. -/
lemma sizes_of_kept (hkeep : KeepsObjects d d') {tree : ObjectId} {parts : List PageParts}
    (hshow : List.Forall₂ (ShowsImage d options tree) parts images)
    (hfinite : ∀ image ∈ images, (pageBox options image).right.isFinite = true ∧
      (pageBox options image).top.isFinite = true) :
    ∃ sizes, (parts.map PageParts.pageId).mapM d'.pageSize = .ok sizes ∧
      List.Forall₂ (fun size image => HasSize size (pageBox options image)) sizes images := by
  induction hshow with
  | nil => exact ⟨[], rfl, .nil⟩
  | @cons p image parts images hp _ ih =>
    obtain ⟨sizes, hsizes, hrest⟩ := ih fun i hi => hfinite i (List.mem_cons_of_mem _ hi)
    have hbox : pageBox options image = ⟨⟨false, 0⟩, ⟨false, 0⟩, p.width, p.height⟩ := hp.box_eq
    obtain ⟨hwidth, hheight⟩ := hfinite image (List.mem_cons_self ..)
    rw [hbox] at hwidth hheight
    obtain ⟨size, hsize, hsame⟩ := hkeep.pageSize hp hwidth hheight
    refine ⟨size :: sizes, ?_, .cons (by rw [hbox]; exact hsame) hrest⟩
    rw [List.map_cons, List.mapM_cons, hsize, hsizes]
    rfl

section
variable {t : FileTree} {output : Path} (hopen : t.openDocument output = .ok d')
  (hbuild : build options now images = .ok d) (hkeep : KeepsObjects d d')
include hbuild hkeep

lemma checkedCount_of_kept : checkedCount output d' = .ok images.length := by
  have hne : images.length ≠ 0 := by
    rw [Ne, List.length_eq_zero_iff]
    exact (build_ok_iff.mp ⟨d, hbuild⟩).1
  unfold FileTree.checkedCount
  rw [pageCount_of_kept hbuild hkeep]
  exact if_neg hne

include hopen

lemma countPages_of_kept : t.countPages output = .ok images.length := by
  rw [FileTree.countPages, hopen, ok_bind, checkedCount_of_kept hbuild hkeep]

lemma metadata_of_kept : t.metadata output =
    .ok ⟨images.length, options.title, options.author, some producer⟩ := by
  obtain ⟨info, hinfo, hdict⟩ := info_of_build hbuild
  have htitle := hkeep.infoText? hinfo hdict (infoDict_title options now)
  have hauthor := hkeep.infoText? hinfo hdict (infoDict_author options now)
  have hproducer : d'.infoText? "Producer" = some producer :=
    hkeep.infoText? hinfo hdict (infoDict_producer options now)
  rw [FileTree.metadata, hopen, ok_bind, checkedCount_of_kept hbuild hkeep, ok_bind, htitle,
    hauthor, hproducer]
  rfl

lemma pageSizes_of_kept
    (hfinite : ∀ image ∈ images, (pageBox options image).right.isFinite = true ∧
      (pageBox options image).top.isFinite = true) :
    ∃ sizes, t.pageSizes output = .ok sizes ∧
      List.Forall₂ (fun size image => HasSize size (pageBox options image)) sizes images := by
  obtain ⟨tree, parts, hpages, hshow⟩ := pages_of_kept hbuild hkeep
  obtain ⟨sizes, hsizes, hsame⟩ := sizes_of_kept hkeep hshow hfinite
  have hnonempty : d'.pages.isEmpty = false := by
    rw [hpages, List.isEmpty_eq_false_iff, Ne, List.map_eq_nil_iff, ← List.length_eq_zero_iff,
      hshow.length_eq, List.length_eq_zero_iff]
    exact (build_ok_iff.mp ⟨d, hbuild⟩).1
  rw [← hpages] at hsizes
  refine ⟨sizes, ?_, hsame⟩
  rw [FileTree.pageSizes, hopen, ok_bind, if_neg (by simp [hnonempty]), hsizes]

end

end

section
variable {t t' : FileTree} {z : Packer} {options : DocumentOptions} {now : Moment} {output : Path}
  {images : List (Raster (Rgb UInt8))} {n : Nat}

/-- What is read from a file that was written from images: their number, the texts that were
given for the document, and the sizes of the images at the resolution. -/
theorem inspect_written_document
    (hwrite : t.writeDocument z options now output images = (.ok n, t'))
    (hfinite : ∀ image ∈ images, (pageBox options image).right.isFinite = true ∧
      (pageBox options image).top.isFinite = true)
    (hsaved : ∀ d, build options now images = .ok d → SavedWhole (d.compressed z)) :
    n = images.length ∧ t'.countPages output = .ok n ∧
      t'.metadata output = .ok ⟨n, options.title, options.author, some producer⟩ ∧
      ∃ sizes, t'.pageSizes output = .ok sizes ∧
        List.Forall₂ (fun size image => HasSize size (pageBox options image)) sizes images := by
  obtain ⟨rfl, d, hbuild, hfile⟩ := writeDocument_ok hwrite
  obtain ⟨d', hload, hcompressed⟩ := hsaved d hbuild
  have hkeep := keepsObjects_of_build hbuild hcompressed
  have hopen := openDocument_of_write hfile hload
  exact ⟨rfl, countPages_of_kept hopen hbuild hkeep, metadata_of_kept hopen hbuild hkeep,
    pageSizes_of_kept hopen hbuild hkeep hfinite⟩

/-- The same without the assumption that the objects come back, for documents within the limits
and files that are not too long. -/
theorem inspect_within_limits
    (hwrite : t.writeDocument z options now output images = (.ok n, t'))
    (hlimits : WithinLimits options images) {content : Bytes}
    (hread : t'.read output = .ok content) (hlength : content.length < 4294967296) :
    n = images.length ∧ t'.countPages output = .ok n ∧
      t'.metadata output = .ok ⟨n, options.title, options.author, some producer⟩ ∧
      ∃ sizes, t'.pageSizes output = .ok sizes ∧
        List.Forall₂ (fun size image => HasSize size (pageBox options image)) sizes images := by
  obtain ⟨rfl, d, hbuild, hfile⟩ := writeDocument_ok hwrite
  obtain ⟨loc, _, _, _, hfind⟩ := write_spec hfile
  rw [read_of_find hfind] at hread
  cases hread
  obtain ⟨d', hload, _, hwhole⟩ := (holdsBinding_of_build hbuild).read hlength
  have hkeep := hwhole hlimits
  have hopen := openDocument_of_write hfile hload
  exact ⟨rfl, countPages_of_kept hopen hbuild hkeep, metadata_of_kept hopen hbuild hkeep,
    pageSizes_of_kept hopen hbuild hkeep hlimits.isFinite⟩

end

/-- A title with parentheses and letters beyond the first 128, and an author without a name. -/
def notesOptions : DocumentOptions :=
  ⟨.ofInt .single 150, .flate, some "Größe (1) :)", some ""⟩

def notesImages : List (Raster (Rgb UInt8)) :=
  [.fill 2 1 ⟨200, 100, 50⟩, .fill 1 3 ⟨0, 0, 0⟩]

lemma notes_withinLimits : WithinLimits notesOptions notesImages := by
  refine ⟨?_, ?_, by decide, by decide +kernel⟩
  · rintro _ ⟨⟩
    decide
  · rintro _ ⟨⟩
    decide

lemma notes_savedWhole {d : Document}
    (h : build notesOptions ⟨2026, 1, 18, 9, 30, 0⟩ notesImages = .ok d) :
    SavedWhole (d.compressed .fixed) := by
  have hlength : ((build notesOptions ⟨2026, 1, 18, 9, 30, 0⟩ notesImages).toOption.all
      fun d => decide ((d.compressed .fixed).bytes.length < 4294967296)) = true := by decide +kernel
  rw [h] at hlength
  simp only [Except.toOption, Option.all_some, decide_eq_true_eq] at hlength
  exact savedWhole_of_build h notes_withinLimits hlength

theorem inspect_written_document_two_pages :
    ∃ t' sizes, (⟨[], []⟩ : FileTree).writeDocument .fixed notesOptions ⟨2026, 1, 18, 9, 30, 0⟩
        (Bytes.ofText "out.pdf") notesImages = (.ok 2, t') ∧
      t'.countPages (Bytes.ofText "out.pdf") = .ok 2 ∧
      t'.metadata (Bytes.ofText "out.pdf") =
        .ok ⟨2, some "Größe (1) :)", some "", some producer⟩ ∧
      t'.pageSizes (Bytes.ofText "out.pdf") = .ok sizes ∧
      List.Forall₂ (fun size image => HasSize size (pageBox notesOptions image)) sizes
        notesImages := by
  have hpieces : Path.pieces (Bytes.ofText "out.pdf") = [Bytes.ofText "out.pdf"] := by decide
  have hfind : (⟨[], []⟩ : FileTree).find (Bytes.ofText "out.pdf") =
      .ok (.free [Bytes.ofText "out.pdf"]) := by
    unfold FileTree.find
    rw [if_neg (by decide), if_neg (by decide), if_neg (by decide), hpieces, FileTree.walk]
    decide
  obtain ⟨d, hbuild⟩ : ∃ d, build notesOptions ⟨2026, 1, 18, 9, 30, 0⟩ notesImages = .ok d :=
    build_ok_iff.mpr ⟨List.cons_ne_nil _ _, storable_iff.mpr (.inl rfl)⟩
  obtain ⟨t', hfile⟩ : ∃ t', (⟨[], []⟩ : FileTree).write (Bytes.ofText "out.pdf")
      (d.compressed .fixed).bytes = .ok t' :=
    write_ok_iff.mpr ⟨_, writeLocation_eq_ok.mpr (.inl hfind)⟩
  have hwrite : (⟨[], []⟩ : FileTree).writeDocument .fixed notesOptions ⟨2026, 1, 18, 9, 30, 0⟩
      (Bytes.ofText "out.pdf") notesImages = (.ok 2, t') := by
    unfold FileTree.writeDocument
    simp only [hbuild, hfile]
    rfl
  obtain ⟨_, hcount, hmetadata, sizes, hsizes, hsame⟩ :=
    inspect_written_document hwrite notes_withinLimits.isFinite fun _ hd => notes_savedWhole hd
  exact ⟨t', sizes, hwrite, hcount, hmetadata, hsizes, hsame⟩

end ScanBinder.Proofs
