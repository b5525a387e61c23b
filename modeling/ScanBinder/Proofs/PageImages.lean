import ScanBinder.Proofs.PageTree

/-!
# Reading the images back

A reader follows a document from its trailer to the pages, takes the image that each page
shows, and makes a raster of its width, its height and its samples. Of a document whose images
are stored as plain samples it gives exactly the images that were bound.
-/

namespace ScanBinder.Proofs
open Pdf

/-! ## The reader -/

/-- The image behind a child of the page tree, as it is stored. -/
def pageImage? (d : Document) : Value → Option Stream
  | .ref id => do
    let page ← (d.dictionary id).toOption
    let .dict resources ← page.get? "Resources" | none
    let .dict xobjects ← Dict.get? resources "XObject" | none
    let .ref image ← Dict.get? xobjects "Im0" | none
    let .stream s ← d.object? image | none
    return s
  | _ => none

/-- The images that the pages of a document show, in their order. -/
def shownImages? (d : Document) : Option (List Stream) := do
  let catalog ← d.catalog?
  let .ref tree ← catalog.get? "Pages" | none
  (d.kids tree).mapM (pageImage? d)

/-- The raster of a stored image, which has to have three samples for each pixel. -/
def rasterOf? (s : Stream) : Option (Raster (Rgb UInt8)) :=
  match s.dict.get? "Width", s.dict.get? "Height" with
  | some (.int width), some (.int height) =>
    if 0 ≤ width ∧ 0 ≤ height ∧ s.data.length = 3 * (width.toNat * height.toNat) then
      Raster.ofPixels? width.toNat height.toNat (rgbs [] s.data)
    else none
  | _, _ => none

def readImages? (d : Document) : Option (List (Raster (Rgb UInt8))) :=
  (shownImages? d).bind (·.mapM rasterOf?)

/-! ## From samples to pixels -/

lemma rgbs_samples (done pixels : List (Rgb UInt8)) :
    rgbs done (pixels.flatMap Rgb.samples) = done.reverse ++ pixels := by
  induction pixels generalizing done with
  | nil => simp [rgbs]
  | cons p pixels ih =>
    have hcons : (p :: pixels).flatMap Rgb.samples =
        p.r :: p.g :: p.b :: pixels.flatMap Rgb.samples := rfl
    rw [hcons, rgbs, ih]
    simp

lemma ofPixels?_pixels {α : Type} (r : Raster α) :
    Raster.ofPixels? r.width r.height r.pixels = some r := by
  have hle : r.width * r.height ≤ r.pixels.length := Nat.le_of_eq r.size_eq.symm
  have htake : r.pixels.take (r.width * r.height) = r.pixels := by
    rw [← r.size_eq, List.take_length]
  unfold Raster.ofPixels?
  rw [dif_pos hle]
  simp only [htake]

lemma rasterOf?_imageStream {image : Raster (Rgb UInt8)} {s : Stream}
    (h : imageStream .flate image = .ok s) :
    s.data.length = 3 * (image.width * image.height) ∧ rasterOf? s = some image := by
  have hdata := imageStream_data h
  have hlen : s.data.length = 3 * (image.width * image.height) := by
    rw [hdata]
    exact (rgbBytes_holdsRows image).1
  obtain ⟨hwidth, hheight⟩ := imageStream_size h
  refine ⟨hlen, ?_⟩
  unfold rasterOf?
  simp only [hwidth, hheight, Int.toNat_natCast]
  rw [if_pos ⟨Int.natCast_nonneg _, Int.natCast_nonneg _, hlen⟩, hdata]
  unfold Raster.rgbBytes
  rw [rgbs_samples]
  exact ofPixels?_pixels image

/-! ## From the trailer to the images -/

section
variable {d : Document} {options : DocumentOptions} {root tree : ObjectId} {catalog pages : Dict}
  {parts : List PageParts} {images : List (Raster (Rgb UInt8))}

lemma pageImage?_of_showsImage {p : PageParts} {image : Raster (Rgb UInt8)}
    (h : ShowsImage d options tree p image) : pageImage? d (.ref p.pageId) = some p.image := by
  have hpage : (d.dictionary p.pageId).toOption = some p.page := by
    rw [dictionary_of_object? h.page_object]
    rfl
  simp [pageImage?, hpage, h.page_resources, h.page_xobjects, h.page_image, h.image_object]

lemma shownImages?_of_hasPages (h : HasPages d root tree catalog pages parts)
    (hshow : List.Forall₂ (ShowsImage d options tree) parts images) :
    shownImages? d = some (parts.map PageParts.image) := by
  have hkids : List.Forall₂ (fun v s => pageImage? d v = some s)
      ((parts.map PageParts.pageId).map .ref) (parts.map PageParts.image) := by
    clear h
    induction hshow with
    | nil => exact .nil
    | cons hp _ ih => exact .cons (pageImage?_of_showsImage hp) ih
  unfold shownImages?
  simp only [catalog?_of_hasPages h, h.catalog_tree, kids_of_hasPages h, Option.bind_eq_bind,
    Option.bind_some]
  exact mapM_of_forall₂ hkids

end

/-- What a reader finds in a document that was built from images, stored as plain samples. -/
lemma shownImages?_build {options : DocumentOptions} {now : Moment}
    {images : List (Raster (Rgb UInt8))} {d : Document} (hflate : options.encoding = .flate)
    (h : build options now images = .ok d) :
    ∃ streams, shownImages? d = some streams ∧
      List.Forall₂ (fun s image => imageStream .flate image = .ok s) streams images := by
  obtain ⟨root, tree, catalog, pages, parts, hpages, hshow⟩ := (build_wellFormed h).page_tree
  refine ⟨parts.map PageParts.image, shownImages?_of_hasPages hpages hshow, ?_⟩
  rw [List.forall₂_map_left_iff]
  exact hshow.imp fun p image hp => hflate ▸ hp.image_stored

lemma readImages?_eq {d : Document} {streams : List Stream} {images : List (Raster (Rgb UInt8))}
    (hshown : shownImages? d = some streams)
    (h : List.Forall₂ (fun s image => imageStream .flate image = .ok s) streams images) :
    readImages? d = some images := by
  unfold readImages?
  rw [hshown, Option.bind_some]
  exact mapM_of_forall₂ (h.imp fun s image hs => (rasterOf?_imageStream hs).2)

/-- Images that are stored as plain samples are read back as they were: the reader gives their
list, and each of them has three bytes for every pixel. So documents whose pages show the same
come from the same images. -/
theorem read_images_of_build (options : DocumentOptions) (now : Moment)
    (images : List (Raster (Rgb UInt8))) (hflate : options.encoding = .flate) (hne : images ≠ []) :
    ∃ d streams, build options now images = .ok d ∧ shownImages? d = some streams ∧
      List.Forall₂ (fun (s : Stream) image => s.dict.get? "Width" = some (.int image.width) ∧
        s.dict.get? "Height" = some (.int image.height) ∧
        s.data.length = 3 * (image.width * image.height)) streams images ∧
      readImages? d = some images ∧
      ∀ (options' : DocumentOptions) (now' : Moment) (images' : List (Raster (Rgb UInt8)))
        (d' : Document), options'.encoding = .flate → build options' now' images' = .ok d' →
        shownImages? d' = shownImages? d → images' = images := by
  have hstorable : ∀ image ∈ images, ∃ s, imageStream options.encoding image = .ok s :=
    storable_iff.mpr (.inl hflate)
  obtain ⟨d, hd⟩ := build_ok_iff.mpr ⟨hne, hstorable⟩
  obtain ⟨streams, hshown, hstored⟩ := shownImages?_build hflate hd
  refine ⟨d, streams, hd, hshown, ?_, readImages?_eq hshown hstored, ?_⟩
  · refine hstored.imp fun s image hs => ?_
    obtain ⟨hwidth, hheight⟩ := imageStream_size hs
    exact ⟨hwidth, hheight, (rasterOf?_imageStream hs).1⟩
  · intro options' now' images' d' hflate' hd' hsame
    obtain ⟨streams', hshown', hstored'⟩ := shownImages?_build hflate' hd'
    have hread : readImages? d' = readImages? d := by
      unfold readImages?
      rw [hsame]
    rw [readImages?_eq hshown hstored, readImages?_eq hshown' hstored'] at hread
    exact Option.some.inj hread

/-- Two images of the same two pixels, side by side and one above the other, and an image
without any. -/
theorem read_images_of_build_three_images :
    ∃ d, build .default ⟨2026, 1, 18, 9, 30, 0⟩
        [.fill 2 1 ⟨200, 100, 50⟩, .fill 1 2 ⟨200, 100, 50⟩, .fill 0 7 ⟨0, 0, 0⟩] = .ok d ∧
      readImages? d =
        some [.fill 2 1 ⟨200, 100, 50⟩, .fill 1 2 ⟨200, 100, 50⟩, .fill 0 7 ⟨0, 0, 0⟩] := by
  have hread := read_images_of_build .default ⟨2026, 1, 18, 9, 30, 0⟩
    [.fill 2 1 ⟨200, 100, 50⟩, .fill 1 2 ⟨200, 100, 50⟩, .fill 0 7 ⟨0, 0, 0⟩] rfl
    (List.cons_ne_nil _ _)
  obtain ⟨d, _, hd, _, _, himages, _⟩ := hread
  exact ⟨d, hd, himages⟩

end ScanBinder.Proofs
