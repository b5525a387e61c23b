import ScanBinder.Pdf.Inspect
import ScanBinder.Proofs.DocumentGraph

/-!
# Reading the pages of a document

The page tree of a document that was bound from images gives the number of the images, and
walking it meets the pages that are there in the order of the tree. The image behind a page has
the width, the height and, unless it is encoded, the samples of the image row by row.
-/

namespace ScanBinder.Proofs
open Pdf

/-! ## Lists of related things -/

lemma exists_of_forall₂_left {α β : Type} {R : α → β → Prop} {as : List α} {bs : List β}
    (h : List.Forall₂ R as bs) {a : α} (ha : a ∈ as) : ∃ b ∈ bs, R a b := by
  induction h with
  | nil => exact (List.not_mem_nil ha).elim
  | cons hab _ ih =>
    rcases List.mem_cons.mp ha with rfl | ha
    · exact ⟨_, List.mem_cons_self .., hab⟩
    · obtain ⟨b, hb, hR⟩ := ih ha
      exact ⟨b, List.mem_cons_of_mem _ hb, hR⟩

lemma mapM_of_forall₂ {m : Type → Type} [Monad m] [LawfulMonad m] {α β : Type} {f : α → m β}
    {as : List α} {bs : List β} (h : List.Forall₂ (fun a b => f a = pure b) as bs) :
    as.mapM f = pure bs := by
  induction h with
  | nil => rfl
  | cons hab _ ih => simp [List.mapM_cons, hab, ih]

/-! ## The tree -/

lemma dictionary_of_object? {d : Document} {id : ObjectId} {dict : Dict}
    (h : d.object? id = some (.value (.dict dict))) : d.dictionary id = .ok dict := by
  unfold Document.dictionary Document.get
  rw [h]
  rfl

section
variable {d : Document} {root tree : ObjectId} {catalog pages : Dict} {parts : List PageParts}

lemma catalog?_of_hasPages (h : HasPages d root tree catalog pages parts) :
    d.catalog? = some catalog := by
  unfold Document.catalog?
  rw [h.root_ref]
  simp only [dictionary_of_object? h.catalog_object, Except.toOption]

/-- The page tree gives the number of its pages. -/
theorem pageCount_of_hasPages (h : HasPages d root tree catalog pages parts) :
    d.pageCount = .ok parts.length := by
  unfold Document.pageCount
  simp only [catalog?_of_hasPages h, h.catalog_tree, dictionary_of_object? h.tree_object,
    h.tree_count]
  simp

lemma kids_of_hasPages (h : HasPages d root tree catalog pages parts) :
    d.kids tree = (parts.map PageParts.pageId).map .ref := by
  unfold Document.kids
  simp only [dictionary_of_object? h.tree_object, h.tree_kids]
  rw [List.map_map]
  rfl

/-- Walking over leaves only, the walk meets those of them that are pages if the budget lasts. -/
lemma walkPages_of_leaves {ids : List ObjectId}
    (h : ∀ id ∈ ids, d.typeName? id ≠ some (Bytes.ofText "Pages")) {budget : Nat}
    (hbudget : ids.length ≤ budget) : d.walkPages budget (ids.map .ref) [] =
      ids.filter fun id => d.typeName? id = some (Bytes.ofText "Page") := by
  induction ids generalizing budget with
  | nil =>
    cases budget with
    | zero => rfl
    | succ budget => rfl
  | cons id ids ih =>
    cases budget with
    | zero => simp at hbudget
    | succ budget =>
      have hid := h id (List.mem_cons_self ..)
      have hrest := ih (fun i hi => h i (List.mem_cons_of_mem _ hi))
        (Nat.le_of_succ_le_succ hbudget)
      by_cases hpage : d.typeName? id = some (Bytes.ofText "Page")
      · simp [Document.walkPages, Document.nextSiblings, hpage, hrest]
      · simp [Document.walkPages, Document.nextSiblings, hpage, hid, hrest]

/-- The walk over a page tree meets the pages in the order of the tree. -/
theorem pages_of_hasPages (h : HasPages d root tree catalog pages parts)
    (hleaves : ∀ p ∈ parts, d.typeName? p.pageId ≠ some (Bytes.ofText "Pages"))
    (hbudget : parts.length ≤ d.objects.length) :
    d.pages = (parts.map PageParts.pageId).filter
      fun id => d.typeName? id = some (Bytes.ofText "Page") := by
  unfold Document.pages
  simp only [catalog?_of_hasPages h, Option.bind_some, h.catalog_tree, kids_of_hasPages h]
  refine walkPages_of_leaves ?_ (by rwa [List.length_map])
  intro id hid
  obtain ⟨p, hp, rfl⟩ := List.mem_map.mp hid
  exact hleaves p hp

lemma pages_of_typed (h : HasPages d root tree catalog pages parts)
    (htypes : ∀ p ∈ parts, d.typeName? p.pageId = some (Bytes.ofText "Page"))
    (hbudget : parts.length ≤ d.objects.length) : d.pages = parts.map PageParts.pageId := by
  rw [pages_of_hasPages h (fun p hp => by rw [htypes p hp]; decide) hbudget, List.filter_eq_self]
  intro id hid
  obtain ⟨p, hp, rfl⟩ := List.mem_map.mp hid
  exact decide_eq_true (htypes p hp)

end

/-! ## The image of a page -/

/-- Bytes that hold the samples of an image, row by row from the top and each row from the
left, three for each pixel. -/
def HoldsRows (image : Raster (Rgb UInt8)) (data : Bytes) : Prop :=
  data.length = 3 * (image.width * image.height) ∧
    ∀ x y p, image.pixel? x y = some p →
      (data.drop (3 * (y * image.width + x))).take 3 = [p.r, p.g, p.b]

lemma take_drop_samples (pixels : List (Rgb UInt8)) {i : Nat} {p : Rgb UInt8}
    (h : pixels[i]? = some p) :
    ((pixels.flatMap Rgb.samples).drop (3 * i)).take 3 = [p.r, p.g, p.b] := by
  induction pixels generalizing i with
  | nil => simp at h
  | cons q pixels ih =>
    cases i with
    | zero =>
      simp only [List.getElem?_cons_zero, Option.some.injEq] at h
      subst h
      simp [Rgb.samples]
    | succ i =>
      rw [List.getElem?_cons_succ] at h
      simpa [Rgb.samples, Nat.mul_succ] using ih h

lemma rgbBytes_holdsRows (image : Raster (Rgb UInt8)) : HoldsRows image image.rgbBytes := by
  constructor
  · unfold Raster.rgbBytes
    rw [List.length_flatMap, ← image.size_eq]
    simp [Rgb.samples, Nat.mul_comm]
  · intro x y p hp
    unfold Raster.pixel? at hp
    split_ifs at hp
    exact take_drop_samples image.pixels hp

lemma streamOf_get? (dict : Dict) (data : Bytes) (compressible : Bool) {key : String}
    (h : key ≠ "Length") : (streamOf dict data compressible).dict.get? key = dict.get? key :=
  get?_set_of_ne dict h _

lemma imageStream_size {encoding : PageEncoding} {image : Raster (Rgb UInt8)} {s : Stream}
    (h : imageStream encoding image = .ok s) :
    s.dict.get? "Width" = some (.int image.width) ∧
      s.dict.get? "Height" = some (.int image.height) := by
  rcases imageStream_cases h with ⟨_, rfl⟩ | ⟨_, data, _, _, rfl⟩
  · simp [streamOf_get?, imageDict]
  · simp [streamOf_get?, imageDict]

lemma imageStream_data {image : Raster (Rgb UInt8)} {s : Stream}
    (h : imageStream .flate image = .ok s) : s.data = image.rgbBytes := by
  cases h
  rfl

lemma pageCount_of_build {options : DocumentOptions} {now : Moment}
    {images : List (Raster (Rgb UInt8))} {d : Document} (h : build options now images = .ok d) :
    d.pageCount = .ok images.length := by
  obtain ⟨root, tree, catalog, pages, parts, hpages, hshow⟩ := (build_wellFormed h).page_tree
  rw [pageCount_of_hasPages hpages, hshow.length_eq]

end ScanBinder.Proofs
