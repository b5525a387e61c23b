import ScanBinder.Combine
import ScanBinder.Proofs.SavedBinding
import ScanBinder.Proofs.TreeWrites

/-!
# The pages of a file that was written

The document in a file that was written from images counts a page for each of them. Those whose
sizes can be read back are met in its page tree, in the order of the images, and each of them
shows its image: the rectangle, the drawing and the stored samples are those that went into it.
-/

namespace ScanBinder.Proofs
open FileTree Pdf

/-! ## The file -/

lemma writeDocument_ok {t t' : FileTree} {z : Packer} {options : DocumentOptions} {now : Moment}
    {output : Path} {images : List (Raster (Rgb UInt8))} {n : Nat}
    (h : t.writeDocument z options now output images = (.ok n, t')) :
    n = images.length ∧
      ∃ d, build options now images = .ok d ∧ t.write output (d.compressed z).bytes = .ok t' := by
  unfold FileTree.writeDocument at h
  cases hbuild : build options now images with
  | error f =>
    rw [hbuild] at h
    cases h
  | ok d =>
    simp only [hbuild] at h
    cases hwrite : t.write output (d.compressed z).bytes with
    | error e =>
      rw [hwrite] at h
      cases h
    | ok t'' =>
      rw [hwrite] at h
      cases h
      exact ⟨rfl, d, rfl, hwrite⟩

lemma openDocument_of_find {t : FileTree} {p : Path} {loc : Location} {content : Bytes}
    {d : Document} (hfind : t.find p = .ok (.taken loc (.file content)))
    (hload : Document.ofBytes content = .ok d) : t.openDocument p = .ok d := by
  have hexists : t.exists? p = true := by
    unfold FileTree.exists? FileTree.lookup
    rw [hfind]
    rfl
  unfold FileTree.openDocument FileTree.loadDocument
  rw [if_pos hexists, read_of_find hfind]
  simp only [hload, Except.mapError]

lemma openDocument_of_write {t t' : FileTree} {p : Path} {content : Bytes} {d : Document}
    (hwrite : t.write p content = .ok t') (hload : Document.ofBytes content = .ok d) :
    t'.openDocument p = .ok d := by
  obtain ⟨loc, _, _, _, hfind⟩ := write_spec hwrite
  exact openDocument_of_find hfind hload

/-- The file of a document of images. Unless it is too long for its table, what is read from it
are the objects that the format has room for; within the limits these are all objects. -/
structure HoldsBinding (z : Packer) (options : DocumentOptions) (now : Moment)
    (images : List (Raster (Rgb UInt8))) (d : Document) (content : Bytes) : Prop where
  built : build options now images = .ok d
  written : content = (d.compressed z).bytes
  read : content.length < 4294967296 → ∃ d', Document.ofBytes content = .ok d' ∧ ReadsAs z d d' ∧
    (WithinLimits options images → KeepsObjects d d')

lemma holdsBinding_of_build {z : Packer} {options : DocumentOptions} {now : Moment}
    {images : List (Raster (Rgb UInt8))} {d : Document} (h : build options now images = .ok d) :
    HoldsBinding z options now images d (d.compressed z).bytes := by
  refine ⟨h, rfl, fun hlength => ?_⟩
  obtain ⟨d', hload, hreads⟩ := holdsDocument_of_build h hlength
  refine ⟨d', hload, hreads, fun hlimits => ?_⟩
  obtain ⟨whole, hwhole, hkeep⟩ := savedWhole_of_build h hlimits hlength
  rw [hload] at hwhole
  cases hwhole
  exact keepsObjects_of_build h hkeep

/-! ## One page -/

/-- A stream that stores an image: the samples row by row, or the image as it was encoded. -/
def StoresImage (encoding : PageEncoding) (image : Raster (Rgb UInt8)) (s : Stream) : Prop :=
  match encoding with
  | .flate => ∃ data, s.plain = .ok data ∧ HoldsRows image data
  | .jpeg quality => Jpeg.encode quality image = .ok s.data

/-- What is met on the way from a page to its image. -/
structure PageView where
  page : Dict
  resources : Dict
  xobjects : Dict
  right : Value
  top : Value
  contentId : ObjectId
  imageId : ObjectId
  content : Stream
  image : Stream

/-- A page in a file, which an image fills. -/
structure Displays (d : Document) (options : DocumentOptions) (id : ObjectId) (v : PageView)
    (image : Raster (Rgb UInt8)) : Prop where
  page_object : d.object? id = some (.value (.dict v.page))
  page_type : v.page.get? "Type" = some (nameValue "Page")
  page_box : v.page.get? "MediaBox" = some (.array [.int 0, .int 0, v.right, v.top])
  box_right : ∃ x, Document.coordinate v.right = .ok x ∧ SameNumber x (pageBox options image).right
  box_top : ∃ y, Document.coordinate v.top = .ok y ∧ SameNumber y (pageBox options image).top
  page_contents : v.page.get? "Contents" = some (.ref v.contentId)
  page_resources : v.page.get? "Resources" = some (.dict v.resources)
  page_xobjects : v.resources.get? "XObject" = some (.dict v.xobjects)
  page_image : v.xobjects.get? "Im0" = some (.ref v.imageId)
  content_object : d.object? v.contentId = some (.stream v.content)
  content_text : v.content.plain = .ok
    (Bytes.ofText (drawingText (pageBox options image).right (pageBox options image).top))
  image_object : d.object? v.imageId = some (.stream v.image)
  image_width : v.image.dict.get? "Width" = some (.int image.width)
  image_height : v.image.dict.get? "Height" = some (.int image.height)
  image_stored : StoresImage options.encoding image v.image

/-- The page `id` of a document shows an image. -/
def PageShows (d : Document) (options : DocumentOptions) (id : ObjectId)
    (image : Raster (Rgb UInt8)) : Prop :=
  ∃ v, Displays d options id v image

lemma KeptObject.storesImage {encoding : PageEncoding} {image : Raster (Rgb UInt8)}
    {s s' : Stream} (h : KeptObject (.stream s) (.stream s'))
    (hs : imageStream encoding image = .ok s) : StoresImage encoding image s' := by
  rcases imageStream_cases hs with ⟨rfl, rfl⟩ | ⟨quality, data, rfl, hencode, rfl⟩
  · have hfilter : (streamOf (imageDict image) image.rgbBytes true).dict.get? "Filter" = none := by
      simp [streamOf_get?, imageDict]
    exact ⟨_, h.plain hfilter, rgbBytes_holdsRows image⟩
  · cases h with
    | stream _ hdata =>
      unfold StoresImage
      dsimp only
      rw [hencode, hdata]
      rfl
    | packed hfilter => simp [streamOf_get?, imageDict] at hfilter

/-- The parts of a page of which nothing is lost in a file, but for the page itself if its size
cannot be read back. -/
structure PartsFit (z : Packer) (options : DocumentOptions) (p : PageParts)
    (image : Raster (Rgb UInt8)) : Prop where
  page_iff : Writable (.dict p.page) ↔ PageFits options image
  content_plain : p.content.dict.get? "Filter" = none
  content : WritableObject (.stream (p.content.compressed z))
  image : WritableObject (.stream (p.image.compressed z))

section
variable {z : Packer} {d d' : Document} {options : DocumentOptions} {tree : ObjectId}
  {p : PageParts} {image : Raster (Rgb UInt8)} (h : ReadsAs z d d')
  (hshow : ShowsImage d options tree p image) (hfit : PartsFit z options p image)
include h hshow hfit

/-- A page is known as one exactly if its size can be read back. -/
lemma ReadsAs.typeName?_eq : d'.typeName? p.pageId =
    if PageFits options image then some (Bytes.ofText "Page") else none := by
  unfold Document.typeName?
  split_ifs with hpage
  · obtain ⟨o, ho, hkept⟩ := h.object hshow.page_object (hfit.page_iff.mpr hpage)
    obtain ⟨page, rfl, hentries⟩ := hkept.dict_cases
    have htype : Dict.get? page "Type" = some (.name (Bytes.ofText "Page")) :=
      hentries.get?_name hshow.page_type
    simp only [dictionary_of_object? ho, htype]
  · have hnone := h.object_eq_none hshow.page_object fun hw => hpage (hfit.page_iff.mp hw)
    have hlost : d'.dictionary p.pageId = .error (.notFound p.pageId) := by
      unfold Document.dictionary Document.get
      rw [hnone]
    simp only [hlost]

lemma ReadsAs.pageShows (hpage : PageFits options image) :
    PageShows d' options p.pageId image := by
  have hbox : pageBox options image = ⟨⟨false, 0⟩, ⟨false, 0⟩, p.width, p.height⟩ := hshow.box_eq
  obtain ⟨o, ho, hkept⟩ := h.object hshow.page_object (hfit.page_iff.mpr hpage)
  obtain ⟨page, rfl, hentries⟩ := hkept.dict_cases
  obtain ⟨w, hw, hkeptBox⟩ := hentries.get?_some hshow.page_box
  obtain ⟨ws, rfl, hitems⟩ := hkeptBox.array_cases
  obtain ⟨right, top, rfl, hright, htop⟩ := hitems.box_cases
  obtain ⟨w, hresources, hkeptResources⟩ := hentries.get?_some hshow.page_resources
  obtain ⟨resources, rfl, hresourceEntries⟩ := hkeptResources.dict_cases
  obtain ⟨w, hxobjects, hkeptXobjects⟩ := hresourceEntries.get?_some hshow.page_xobjects
  obtain ⟨xobjects, rfl, hxobjectEntries⟩ := hkeptXobjects.dict_cases
  obtain ⟨o, hcontent, hkeptContent⟩ := h.object hshow.content_object hfit.content
  obtain ⟨content, rfl, _⟩ := hkeptContent.stream_cases
  obtain ⟨o, himage, hkeptImage⟩ := h.object hshow.image_object hfit.image
  obtain ⟨picture, rfl, hpicture⟩ := hkeptImage.stream_cases
  obtain ⟨hwidth, hheight⟩ := imageStream_size hshow.image_stored
  obtain ⟨w, hwidth', hkeptWidth⟩ := hpicture "Width" (by decide) (by decide) _ hwidth
  obtain ⟨w', hheight', hkeptHeight⟩ := hpicture "Height" (by decide) (by decide) _ hheight
  refine ⟨⟨page, resources, xobjects, right, top, p.contentId, p.imageId, content, picture⟩, ?_⟩
  exact
    { page_object := ho
      page_type := hentries.get?_name hshow.page_type
      page_box := hw
      box_right := by rw [hbox]; exact hright.coordinate
      box_top := by rw [hbox]; exact htop.coordinate
      page_contents := hentries.get?_ref hshow.page_contents
      page_resources := hresources
      page_xobjects := hxobjects
      page_image := hxobjectEntries.get?_ref hshow.page_image
      content_object := hcontent
      content_text := by
        rw [hkeptContent.plain hfit.content_plain, hbox]
        exact congrArg _ hshow.content_text
      image_object := himage
      image_width := by rw [hwidth', hkeptWidth.int_eq]
      image_height := by rw [hheight', hkeptHeight.int_eq]
      image_stored := hkeptImage.storesImage hshow.image_stored }

end

/-! ## All pages -/

section
variable {z : Packer} {options : DocumentOptions} {now : Moment}
  {stored : List (Raster (Rgb UInt8) × Stream)}
  (hlength : ((boundDocument options now stored).compressed z).bytes.length < 4294967296)
include hlength

lemma partsAt_fit {k : Nat} (hk : k < stored.length)
    (hs : imageStream options.encoding (stored[k]).1 = .ok (stored[k]).2)
    (hsize : (stored[k]).1.width < 9223372036854775808 ∧
      (stored[k]).1.height < 9223372036854775808) :
    PartsFit z options (partsAt options k (stored[k]).1 (stored[k]).2) (stored[k]).1 := by
  have hshow := partsAt_showsImage now hk hs
  have hcontent := mem_of_object? hshow.content_object
  have himage := mem_of_object? hshow.image_object
  refine ⟨writable_pageDict_iff, by simp [partsAt, streamOf_get?], ?_,
    writable_imageStream hs hsize (data_length_lt hlength himage)⟩
  -- Unification would compute the length of the drawing.
  unfold partsAt at hcontent ⊢
  dsimp only at hcontent ⊢
  generalize drawingBytes _ = drawing at hcontent ⊢
  exact writable_drawing hlength hcontent

/-- The catalog and the root of the page tree are within the limits, so they are there. -/
lemma tree_of_readsAs {d' : Document} (h : ReadsAs z (boundDocument options now stored) d') :
    ∃ catalog pages, d'.trailer.get? "Root" = some (.ref ⟨3 * stored.length + 2, 0⟩) ∧
      d'.object? ⟨3 * stored.length + 2, 0⟩ = some (.value (.dict catalog)) ∧
      KeptEntries (catalogDict 1) catalog ∧
      d'.object? ⟨1, 0⟩ = some (.value (.dict pages)) ∧
      KeptEntries (pagesDict ((List.range stored.length).map pageNumber)) pages := by
  have hpages := boundDocument_hasPages options now stored
  have hcount := stored_length_lt hlength
  have hcatalog : Writable (.dict (catalogDict 1)) := ⟨trivial, trivial, trivial⟩
  have htree : Writable (.dict (pagesDict ((List.range stored.length).map pageNumber))) := by
    apply writable_pagesDict
    rw [List.length_map, List.length_range]
    omega
  obtain ⟨w, hroot, hkeptRoot⟩ := h.trailer "Root" _ hpages.root_ref
  obtain ⟨o, hcatalogObject, hkeptCatalog⟩ := h.object hpages.catalog_object hcatalog
  obtain ⟨catalog, rfl, hcatalogEntries⟩ := hkeptCatalog.dict_cases
  obtain ⟨o, htreeObject, hkeptTree⟩ := h.object hpages.tree_object htree
  obtain ⟨pages, rfl, htreeEntries⟩ := hkeptTree.dict_cases
  rw [hkeptRoot.ref_eq] at hroot
  exact ⟨catalog, pages, hroot, hcatalogObject, hcatalogEntries, htreeObject, htreeEntries⟩

/-- The page tree is there with all its pages, whether they are there or not. -/
lemma hasPages_of_readsAs {d' : Document} (h : ReadsAs z (boundDocument options now stored) d') :
    ∃ root tree catalog pages, HasPages d' root tree catalog pages (allParts options stored) := by
  obtain ⟨catalog, pages, hroot, hcatalog, hkeptCatalog, htree, hkeptTree⟩ :=
    tree_of_readsAs hlength h
  exact ⟨_, _, catalog, pages, (boundDocument_hasPages options now stored).of_kept hroot hcatalog
    hkeptCatalog htree hkeptTree⟩

end

section
variable {z : Packer} {d d' : Document} {options : DocumentOptions} {tree : ObjectId}
  {parts : List PageParts} {images : List (Raster (Rgb UInt8))} (h : ReadsAs z d d')
  (hparts : List.Forall₂ (fun p image => ShowsImage d options tree p image ∧
    PartsFit z options p image) parts images)
include h hparts

/-- The drawings and the images are there, so the walk over the pages does not end early. -/
lemma ReadsAs.parts_length_le
    (hdistinct : (parts.flatMap fun p => [p.contentId, p.imageId]).Nodup) :
    parts.length ≤ d'.objects.length := by
  have hsubset : (parts.flatMap fun p => [p.contentId, p.imageId]) ⊆ d'.objects.map Prod.fst := by
    intro id hid
    obtain ⟨p, hp, hid⟩ := List.mem_flatMap.mp hid
    obtain ⟨image, _, hshow, hfit⟩ := exists_of_forall₂_left hparts hp
    obtain ⟨o, ho, _⟩ := h.object hshow.content_object hfit.content
    obtain ⟨o', ho', _⟩ := h.object hshow.image_object hfit.image
    simp only [List.mem_cons, List.not_mem_nil, or_false] at hid
    rcases hid with rfl | rfl
    · exact List.mem_map.mpr ⟨_, mem_of_object? ho, rfl⟩
    · exact List.mem_map.mpr ⟨_, mem_of_object? ho', rfl⟩
  have hlength := (List.Nodup.subperm hdistinct hsubset).length_le
  simp only [List.length_flatMap, List.length_cons, List.length_nil, List.map_const',
    List.sum_replicate_nat, List.length_map] at hlength
  omega

/-- The pages that are known as such show the images whose pages can be read back, in order. -/
lemma ReadsAs.pages_show : List.Forall₂ (PageShows d' options)
    ((parts.map PageParts.pageId).filter fun id => d'.typeName? id = some (Bytes.ofText "Page"))
    (images.filter (PageFits options)) := by
  induction hparts with
  | nil => exact .nil
  | @cons p image parts images hp _ ih =>
    obtain ⟨hshow, hfit⟩ := hp
    have htype := h.typeName?_eq hshow hfit
    rw [List.map_cons, List.filter_cons, List.filter_cons, htype]
    by_cases hpage : PageFits options image
    · simp only [hpage, if_true, decide_true]
      exact .cons (h.pageShows hshow hfit hpage) ih
    · simp only [hpage, if_false, reduceCtorEq, decide_false, Bool.false_eq_true]
      exact ih

end

/-- The document that is read from a file that was written from images. Its page tree counts a
page for each image, and the pages that are met in it show the images whose pages can be read
back. -/
theorem pages_of_readsAs {z : Packer} {options : DocumentOptions} {now : Moment}
    {images : List (Raster (Rgb UInt8))} {d d' : Document}
    (hbuild : build options now images = .ok d)
    (hlength : (d.compressed z).bytes.length < 4294967296)
    (hsizes : ∀ image ∈ images,
      image.width < 9223372036854775808 ∧ image.height < 9223372036854775808)
    (h : ReadsAs z d d') :
    d'.pageCount = .ok images.length ∧
      List.Forall₂ (PageShows d' options) d'.pages (images.filter (PageFits options)) := by
  obtain ⟨streams, hs, rfl⟩ := boundDocument_of_build hbuild
  have hstored := stored_of_mem_zip hs
  have hparts : List.Forall₂ (fun p image =>
      ShowsImage (boundDocument options now (images.zip streams)) options ⟨1, 0⟩ p image ∧
        PartsFit z options p image) (allParts options (images.zip streams)) images := by
    refine allParts_forall₂ hs fun k hk => ?_
    have hmem := List.getElem_mem hk
    exact ⟨partsAt_showsImage now hk (hstored _ hmem),
      partsAt_fit hlength hk (hstored _ hmem) (hsizes _ (List.of_mem_zip hmem).1)⟩
  obtain ⟨root, tree, catalog, pages, hpages⟩ := hasPages_of_readsAs hlength h
  constructor
  · rw [pageCount_of_hasPages hpages, hparts.length_eq]
  · have hleaves : ∀ p ∈ allParts options (images.zip streams),
        d'.typeName? p.pageId ≠ some (Bytes.ofText "Pages") := by
      intro p hp
      obtain ⟨image, _, hshow, hfit⟩ := exists_of_forall₂_left hparts hp
      rw [h.typeName?_eq hshow hfit]
      split_ifs
      · decide
      · decide
    rw [pages_of_hasPages hpages hleaves (h.parts_length_le hparts hpages.streams_distinct)]
    exact h.pages_show hparts

end ScanBinder.Proofs
