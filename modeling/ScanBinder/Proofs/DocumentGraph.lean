import ScanBinder.Combine
import ScanBinder.Proofs.ObjectTable

/-!
# The object graph of a document

The trailer of a document refers to its catalog, the catalog to the page tree, and the page
tree to the pages in the order of the images. Each page refers back to the tree, and to a
drawing and an image of its own. No reference leads nowhere.
-/

namespace ScanBinder.Proofs
open Pdf

/-! ## Keys of dictionaries -/

lemma ofText_injective {a b : String} (h : Bytes.ofText a = Bytes.ofText b) : a = b := by
  unfold Bytes.ofText String.toUTF8 at h
  exact String.toByteArray_inj.mp (ByteArray.ext (Array.toList_inj.mp h))

lemma ofText_append (s t : String) : Bytes.ofText (s ++ t) = Bytes.ofText s ++ Bytes.ofText t := by
  simp [Bytes.ofText, String.toUTF8]

@[simp] lemma get?_nil (key : String) : Dict.get? [] key = none := rfl

@[simp] lemma get?_entry (key : String) (v : Value) (d : Dict) (key' : String) :
    Dict.get? (entry key v :: d) key' = if key' = key then some v else Dict.get? d key' := by
  unfold Dict.get? entry
  rw [List.lookup_cons]
  by_cases h : key' = key
  · simp [h]
  · have hne : Bytes.ofText key' ≠ Bytes.ofText key := fun he => h (ofText_injective he)
    rw [beq_eq_false_iff_ne.mpr hne, if_neg h]

lemma lookup_replace_of_ne (d : Dict) {key key' : Bytes} (h : key' ≠ key) (v : Value) :
    (d.map fun e => if e.1 = key then (key, v) else e).lookup key' = d.lookup key' := by
  induction d with
  | nil => rfl
  | cons x d ih =>
    rw [List.map_cons, List.lookup_cons (k := x.1) (b := x.2)]
    by_cases hx : x.1 = key
    · rw [if_pos hx, List.lookup_cons, hx, beq_eq_false_iff_ne.mpr h, ih]
    · rw [if_neg hx, List.lookup_cons, ih]

lemma lookup_replace_self {d : Dict} {key : Bytes} (h : d.any (·.1 = key) = true) (v : Value) :
    (d.map fun e => if e.1 = key then (key, v) else e).lookup key = some v := by
  induction d with
  | nil => cases h
  | cons x d ih =>
    rw [List.map_cons]
    by_cases hx : x.1 = key
    · rw [if_pos hx, List.lookup_cons_self]
    · have hne : (key == x.1) = false := beq_eq_false_iff_ne.mpr (Ne.symm hx)
      rw [List.any_cons, decide_eq_false hx, Bool.false_or] at h
      rw [if_neg hx, List.lookup_cons, hne]
      exact ih h

lemma get?_set_same (d : Dict) (key : String) (v : Value) :
    Dict.get? (Dict.set d (Bytes.ofText key) v) key = some v := by
  unfold Dict.get? Dict.set
  split_ifs with h
  · exact lookup_replace_self h v
  · have hnone : d.lookup (Bytes.ofText key) = none := by
      rw [List.lookup_eq_none_iff]
      intro x hx
      rw [bne_iff_ne]
      intro hkey
      exact h (List.any_eq_true.mpr ⟨x, hx, decide_eq_true hkey.symm⟩)
    rw [List.lookup_append, hnone]
    simp

lemma get?_set_of_ne (d : Dict) {key key' : String} (h : key' ≠ key) (v : Value) :
    Dict.get? (Dict.set d (Bytes.ofText key) v) key' = Dict.get? d key' := by
  have hne : Bytes.ofText key' ≠ Bytes.ofText key := fun he => h (ofText_injective he)
  unfold Dict.get? Dict.set
  split_ifs
  · exact lookup_replace_of_ne d hne v
  · rw [List.lookup_append, List.lookup_cons, beq_eq_false_iff_ne.mpr hne]
    simp

/-! ## References -/

mutual

/-- The references in a value, those inside arrays and dictionaries included. -/
def valueRefs : Value → List ObjectId
  | .ref id => [id]
  | .array items => itemRefs items
  | .dict entries => entryRefs entries
  | _ => []

def itemRefs : List Value → List ObjectId
  | [] => []
  | v :: vs => valueRefs v ++ itemRefs vs

def entryRefs : List (Bytes × Value) → List ObjectId
  | [] => []
  | (_, v) :: es => valueRefs v ++ entryRefs es

end

def objectRefs : Object → List ObjectId
  | .value v => valueRefs v
  | .stream s => entryRefs s.dict

/-- The references in the objects and in the trailer of a document. -/
def references (d : Document) : List ObjectId :=
  d.objects.flatMap (fun x => objectRefs x.2) ++ entryRefs d.trailer

lemma entryRefs_append (d d' : Dict) : entryRefs (d ++ d') = entryRefs d ++ entryRefs d' := by
  induction d with
  | nil => rfl
  | cons x d ih => rw [List.cons_append, entryRefs, entryRefs, ih, List.append_assoc]

lemma itemRefs_refTo (numbers : List Nat) :
    itemRefs (numbers.map refTo) = numbers.map (fun n => (⟨n, 0⟩ : ObjectId)) := by
  induction numbers with
  | nil => rfl
  | cons n numbers ih =>
    rw [List.map_cons, itemRefs, ih]
    rfl

lemma entryRefs_replace {d : Dict} (hd : entryRefs d = []) (key : Bytes) {v : Value}
    (hv : valueRefs v = []) :
    entryRefs (d.map fun e => if e.1 = key then (key, v) else e) = [] := by
  induction d with
  | nil => rfl
  | cons x d ih =>
    rw [entryRefs, List.append_eq_nil_iff] at hd
    rw [List.map_cons]
    by_cases hx : x.1 = key
    · rw [if_pos hx, entryRefs, hv, ih hd.2]
      rfl
    · rw [if_neg hx, entryRefs, hd.1, ih hd.2]
      rfl

lemma streamOf_refs {dict : Dict} (h : entryRefs dict = []) (data : Bytes) (compressible : Bool) :
    objectRefs (.stream (streamOf dict data compressible)) = [] := by
  unfold objectRefs streamOf Dict.set
  dsimp only
  split_ifs
  · exact entryRefs_replace h _ rfl
  · rw [entryRefs_append, h]
    rfl

/-- What an image is stored as. -/
lemma imageStream_cases {encoding : PageEncoding} {image : Raster (Rgb UInt8)} {s : Stream}
    (h : imageStream encoding image = .ok s) :
    (encoding = .flate ∧ s = streamOf (imageDict image) image.rgbBytes true) ∨
      ∃ quality data, encoding = .jpeg quality ∧ Jpeg.encode quality image = .ok data ∧
        s = streamOf (imageDict image ++ [entry "Filter" (nameValue "DCTDecode")]) data false := by
  cases encoding with
  | flate =>
    cases h
    exact .inl ⟨rfl, rfl⟩
  | jpeg quality =>
    simp only [imageStream] at h
    cases hdata : Jpeg.encode quality image with
    | error f =>
      rw [hdata] at h
      cases h
    | ok data =>
      rw [hdata] at h
      cases h
      exact .inr ⟨quality, data, rfl, hdata, rfl⟩

lemma imageStream_refs {encoding : PageEncoding} {image : Raster (Rgb UInt8)} {s : Stream}
    (h : imageStream encoding image = .ok s) : objectRefs (.stream s) = [] := by
  rcases imageStream_cases h with ⟨_, rfl⟩ | ⟨_, data, _, _, rfl⟩
  · exact streamOf_refs rfl _ _
  · exact streamOf_refs rfl _ _

lemma infoDict_refs (options : DocumentOptions) (now : Moment) :
    entryRefs (infoDict options now) = [] := by
  unfold infoDict
  cases options.title <;> cases options.author <;> rfl

/-- Every reference in the objects of a page is to the tree or to its own drawing or image. -/
lemma pageObjects_refs {options : DocumentOptions} {pages last : Nat} {image : Raster (Rgb UInt8)}
    {s : Stream} (hs : imageStream options.encoding image = .ok s) {x : ObjectId × Object}
    (hx : x ∈ pageObjects options pages last image s) {id : ObjectId}
    (hid : id ∈ objectRefs x.2) :
    id = ⟨pages, 0⟩ ∨ id = ⟨last + 1, 0⟩ ∨ id = ⟨last + 2, 0⟩ := by
  simp only [pageObjects, List.mem_cons, List.not_mem_nil, or_false] at hx
  rcases hx with rfl | rfl | rfl
  · rw [imageStream_refs hs] at hid
    exact (List.not_mem_nil hid).elim
  · rw [streamOf_refs rfl] at hid
    exact (List.not_mem_nil hid).elim
  · simp [objectRefs, valueRefs, itemRefs, entryRefs, pageDict, entry, refTo, nameValue] at hid
    tauto

lemma boundDocument_resolves (options : DocumentOptions) (now : Moment)
    (stored : List (Raster (Rgb UInt8) × Stream)) {number : Nat} (hpos : 1 ≤ number)
    (hle : number ≤ 3 * stored.length + 3) :
    ∃ o, (boundDocument options now stored).object? ⟨number, 0⟩ = some o := by
  have hmem : (⟨number, 0⟩ : ObjectId) ∈
      (boundDocument options now stored).objects.map Prod.fst := by
    rw [boundDocument_ids]
    refine List.mem_map.mpr ⟨number, List.mem_range'_1.mpr ⟨hpos, by omega⟩, rfl⟩
  obtain ⟨⟨id, o⟩, ho, rfl⟩ := List.mem_map.mp hmem
  exact ⟨o, object?_of_mem (boundDocument_ids_nodup options now stored) ho⟩

/-- Every reference leads to an object. -/
theorem boundDocument_references {options : DocumentOptions} (now : Moment)
    {stored : List (Raster (Rgb UInt8) × Stream)}
    (hstored : ∀ x ∈ stored, imageStream options.encoding x.1 = .ok x.2) {id : ObjectId}
    (h : id ∈ references (boundDocument options now stored)) :
    ∃ o, (boundDocument options now stored).object? id = some o := by
  have hnumber : ∃ number, id = ⟨number, 0⟩ ∧ 1 ≤ number ∧ number ≤ 3 * stored.length + 3 := by
    unfold references at h
    rcases List.mem_append.mp h with h | h
    · obtain ⟨x, hx, hid⟩ := List.mem_flatMap.mp h
      rcases List.mem_cons.mp hx with rfl | hx
      · -- the page tree refers to the pages
        simp only [objectRefs, valueRefs, pagesDict, entryRefs, entry, nameValue, itemRefs_refTo,
          List.append_nil, List.nil_append, List.mem_map, List.mem_range] at hid
        obtain ⟨number, ⟨k, hk, rfl⟩, rfl⟩ := hid
        exact ⟨pageNumber k, rfl, by unfold pageNumber; omega, by unfold pageNumber; omega⟩
      rcases List.mem_append.mp hx with hx | hx
      · obtain ⟨k, hk, hx⟩ := mem_allObjects.mp hx
        rcases pageObjects_refs (hstored _ (List.getElem_mem hk)) hx hid with rfl | rfl | rfl
        · exact ⟨1, rfl, by omega, by omega⟩
        · exact ⟨1 + 3 * k + 1, rfl, by omega, by omega⟩
        · exact ⟨1 + 3 * k + 2, rfl, by omega, by omega⟩
      · simp only [List.mem_cons, List.not_mem_nil, or_false] at hx
        rcases hx with rfl | rfl
        · simp [objectRefs, valueRefs, catalogDict, entryRefs, entry, nameValue, refTo] at hid
          exact ⟨1, hid, by omega, by omega⟩
        · simp [objectRefs, valueRefs, infoDict_refs] at hid
    · simp only [boundDocument, entryRefs, entry, refTo, valueRefs, List.cons_append,
        List.nil_append, List.mem_cons, List.not_mem_nil, or_false] at h
      rcases h with rfl | rfl
      · exact ⟨3 * stored.length + 2, rfl, by omega, by omega⟩
      · exact ⟨3 * stored.length + 3, rfl, by omega, by omega⟩
  obtain ⟨number, rfl, hpos, hle⟩ := hnumber
  exact boundDocument_resolves options now stored hpos hle

/-! ## The graph -/

/-- How many saved states are open after some operations, if none is restored that was not
saved. -/
def openAfter : Nat → List Operation → Option Nat
  | depth, [] => some depth
  | depth, o :: rest =>
    if o.operator = "q" then openAfter (depth + 1) rest
    else if o.operator = "Q" then
      match depth with
      | 0 => none
      | depth + 1 => openAfter depth rest
    else openAfter depth rest

/-- A drawing that shows an image on the unit square, stretched over a page, and saves and restores
the state around this. -/
def FillsPage (width height : Single) (operations : List Operation) : Prop :=
  let zero := Value.real ⟨false, 0⟩
  operations = [⟨"q", []⟩, ⟨"cm", [.real width, zero, zero, .real height, zero, zero]⟩,
      ⟨"Do", [nameValue "Im0"]⟩, ⟨"Q", []⟩] ∧
    openAfter 0 operations = some 0

/-- Such a drawing as it is written, with an operation on each line. -/
def drawingText (width height : Single) : String :=
  "q\n" ++ width.text ++ " 0 0 " ++ height.text ++ " 0 0 cm\n/Im0 Do\nQ"

/-- The objects that a page consists of, their identifiers and what is in them. -/
structure PageParts where
  pageId : ObjectId
  contentId : ObjectId
  imageId : ObjectId
  page : Dict
  resources : Dict
  xobjects : Dict
  content : Stream
  image : Stream
  operations : List Operation
  width : Single
  height : Single

/-- A page of the tree `tree` that an image fills. -/
structure ShowsImage (d : Document) (options : DocumentOptions) (tree : ObjectId)
    (p : PageParts) (image : Raster (Rgb UInt8)) : Prop where
  page_object : d.object? p.pageId = some (.value (.dict p.page))
  page_type : p.page.get? "Type" = some (nameValue "Page")
  page_parent : p.page.get? "Parent" = some (.ref tree)
  page_box : p.page.get? "MediaBox" =
    some (.array [.int 0, .int 0, .real p.width, .real p.height])
  page_contents : p.page.get? "Contents" = some (.ref p.contentId)
  page_resources : p.page.get? "Resources" = some (.dict p.resources)
  page_xobjects : p.resources.get? "XObject" = some (.dict p.xobjects)
  page_image : p.xobjects.get? "Im0" = some (.ref p.imageId)
  content_object : d.object? p.contentId = some (.stream p.content)
  content_text : p.content.data = Bytes.ofText (drawingText p.width p.height)
  content_drawing : p.content.data = drawingBytes p.operations
  content_fills : FillsPage p.width p.height p.operations
  image_object : d.object? p.imageId = some (.stream p.image)
  image_stored : imageStream options.encoding image = .ok p.image
  box_eq : (PageSize.ofImage image.width image.height options.resolution).mediaBox =
    ⟨⟨false, 0⟩, ⟨false, 0⟩, p.width, p.height⟩

/-- The catalog and the page tree of a document with the given pages. -/
structure HasPages (d : Document) (root tree : ObjectId) (catalog pages : Dict)
    (parts : List PageParts) : Prop where
  root_ref : d.trailer.get? "Root" = some (.ref root)
  catalog_object : d.object? root = some (.value (.dict catalog))
  catalog_type : catalog.get? "Type" = some (nameValue "Catalog")
  catalog_tree : catalog.get? "Pages" = some (.ref tree)
  tree_object : d.object? tree = some (.value (.dict pages))
  tree_type : pages.get? "Type" = some (nameValue "Pages")
  tree_count : pages.get? "Count" = some (.int parts.length)
  tree_kids : pages.get? "Kids" = some (.array (parts.map fun p => .ref p.pageId))
  kids_distinct : (parts.map PageParts.pageId).Nodup
  streams_distinct : (parts.flatMap fun p => [p.contentId, p.imageId]).Nodup

/-- A document of images whose objects hold together. -/
structure WellFormed (d : Document) (options : DocumentOptions)
    (images : List (Raster (Rgb UInt8))) : Prop where
  object_count : d.objects.length = 3 * images.length + 3
  ids_distinct : (d.objects.map Prod.fst).Nodup
  references_resolve : ∀ id ∈ references d, ∃ o, d.object? id = some o
  page_tree : ∃ root tree catalog pages parts, HasPages d root tree catalog pages parts ∧
    List.Forall₂ (ShowsImage d options tree) parts images

/-- The parts of the page at a place of a document of stored images. -/
def partsAt (options : DocumentOptions) (k : Nat) (image : Raster (Rgb UInt8)) (s : Stream) :
    PageParts :=
  let box := (PageSize.ofImage image.width image.height options.resolution).mediaBox
  let operations := pageDrawing box.right box.top
  { pageId := ⟨pageNumber k, 0⟩
    contentId := ⟨3 * k + 3, 0⟩
    imageId := ⟨3 * k + 2, 0⟩
    page := pageDict 1 (3 * k + 3) (3 * k + 2) box.right box.top
    resources := [entry "XObject" (.dict [entry "Im0" (refTo (3 * k + 2))])]
    xobjects := [entry "Im0" (refTo (3 * k + 2))]
    content := streamOf [] (drawingBytes operations) true
    image := s
    operations := operations
    width := box.right
    height := box.top }

lemma fillsPage_pageDrawing (width height : Single) :
    FillsPage width height (pageDrawing width height) :=
  ⟨rfl, rfl⟩

lemma drawingBytes_pageDrawing (width height : Single) :
    drawingBytes (pageDrawing width height) = Bytes.ofText (drawingText width height) := by
  have hzero : (Value.real ⟨false, 0⟩).bytes = [0x30] := by decide
  have himage : (nameValue "Im0").bytes = [0x2F, 0x49, 0x6D, 0x30] := by decide
  have hstart : Bytes.ofText "q\n" = Bytes.ofText "q" ++ [0x0A] := by decide
  have hzeros : Bytes.ofText " 0 0 " = [0x20, 0x30, 0x20, 0x30, 0x20] := by decide
  have hend : Bytes.ofText " 0 0 cm\n/Im0 Do\nQ" = [0x20, 0x30, 0x20, 0x30, 0x20] ++
      Bytes.ofText "cm" ++ [0x0A, 0x2F, 0x49, 0x6D, 0x30, 0x20] ++ Bytes.ofText "Do" ++
      0x0A :: Bytes.ofText "Q" := by decide
  have hreal : ∀ x : Single, (Value.real x).bytes = Bytes.ofText x.text := fun x => by
    rw [Value.bytes]
  simp [drawingBytes, pageDrawing, Operation.bytes, drawingText, ofText_append, hzero, himage,
    hstart, hzeros, hend, hreal, List.intercalate]

lemma partsAt_showsImage {options : DocumentOptions} (now : Moment)
    {stored : List (Raster (Rgb UInt8) × Stream)} {k : Nat} (hk : k < stored.length)
    (hs : imageStream options.encoding (stored[k]).1 = .ok (stored[k]).2) :
    ShowsImage (boundDocument options now stored) options ⟨1, 0⟩
      (partsAt options k (stored[k]).1 (stored[k]).2) (stored[k]).1 := by
  let p := partsAt options k (stored[k]).1 (stored[k]).2
  have hobjects : pageObjects options 1 (1 + 3 * k) (stored[k]).1 (stored[k]).2 =
      [(p.imageId, .stream p.image), (p.contentId, .stream p.content),
        (p.pageId, .value (.dict p.page))] := by
    simp only [p, partsAt, pageObjects, pageNumber, show 1 + 3 * k + 1 = 3 * k + 2 by omega,
      show 1 + 3 * k + 2 = 3 * k + 3 by omega, show 1 + 3 * k + 3 = 3 * k + 4 by omega]
  have hobject : ∀ id o, (id, o) ∈ [(p.imageId, Object.stream p.image),
      (p.contentId, .stream p.content), (p.pageId, .value (.dict p.page))] →
      (boundDocument options now stored).object? id = some o :=
    fun id o h => boundDocument_object? options now hk (hobjects ▸ h)
  exact
    { page_object := hobject p.pageId (.value (.dict p.page)) (by simp)
      page_type := by simp [partsAt, pageDict]
      page_parent := by simp [partsAt, pageDict, refTo]
      page_box := by simp [partsAt, pageDict]
      page_contents := by simp [partsAt, pageDict, refTo]
      page_resources := by simp [partsAt, pageDict]
      page_xobjects := by simp [partsAt]
      page_image := by simp [partsAt, refTo]
      content_object := hobject p.contentId (.stream p.content) (by simp)
      content_text := drawingBytes_pageDrawing _ _
      content_drawing := rfl
      content_fills := fillsPage_pageDrawing _ _
      image_object := hobject p.imageId (.stream p.image) (by simp)
      image_stored := hs
      box_eq := rfl }

/-- The parts of all pages of a document of stored images. -/
def allParts (options : DocumentOptions) (stored : List (Raster (Rgb UInt8) × Stream)) :
    List PageParts :=
  stored.zipIdx.map fun x => partsAt options x.2 x.1.1 x.1.2

lemma allParts_length (options : DocumentOptions) (stored : List (Raster (Rgb UInt8) × Stream)) :
    (allParts options stored).length = stored.length := by
  simp [allParts]

lemma allParts_getElem (options : DocumentOptions) (stored : List (Raster (Rgb UInt8) × Stream))
    {k : Nat} (h : k < (allParts options stored).length) (hk : k < stored.length) :
    (allParts options stored)[k] = partsAt options k (stored[k]).1 (stored[k]).2 := by
  simp [allParts]

lemma allParts_kids (options : DocumentOptions) (stored : List (Raster (Rgb UInt8) × Stream)) :
    ((allParts options stored).map fun p => Value.ref p.pageId) =
      ((List.range stored.length).map pageNumber).map refTo := by
  apply List.ext_getElem
  · simp [allParts_length]
  · intro k hk _
    rw [List.length_map, allParts_length] at hk
    simp [allParts_getElem, hk, partsAt, refTo]

/-- Parts of pages at different places have different numbers. -/
lemma allParts_pairwise {R : PageParts → PageParts → Prop} (options : DocumentOptions)
    (stored : List (Raster (Rgb UInt8) × Stream))
    (h : ∀ i j image s image' s', i < j →
      R (partsAt options i image s) (partsAt options j image' s')) :
    (allParts options stored).Pairwise R := by
  rw [List.pairwise_iff_getElem]
  intro i j hi hj hij
  have hi' : i < stored.length := by rwa [allParts_length] at hi
  have hj' : j < stored.length := by rwa [allParts_length] at hj
  rw [allParts_getElem options stored hi hi', allParts_getElem options stored hj hj']
  exact h i j _ _ _ _ hij

lemma allParts_pageId_nodup (options : DocumentOptions)
    (stored : List (Raster (Rgb UInt8) × Stream)) :
    ((allParts options stored).map PageParts.pageId).Nodup := by
  rw [List.nodup_iff_pairwise_ne, List.pairwise_map]
  apply allParts_pairwise
  intro i j _ _ _ _ hij
  simp only [partsAt, pageNumber, ne_eq, ObjectId.mk.injEq, and_true]
  omega

lemma allParts_streams_nodup (options : DocumentOptions)
    (stored : List (Raster (Rgb UInt8) × Stream)) :
    ((allParts options stored).flatMap fun p => [p.contentId, p.imageId]).Nodup := by
  rw [List.nodup_iff_pairwise_ne, List.pairwise_flatMap]
  constructor
  · intro p hp
    obtain ⟨x, _, rfl⟩ := List.mem_map.mp hp
    simp [partsAt]
  · apply allParts_pairwise
    intro i j _ _ _ _ hij x hx y hy
    simp only [partsAt, List.mem_cons, List.not_mem_nil, or_false] at hx hy
    rcases hx with rfl | rfl <;> rcases hy with rfl | rfl <;>
      simp only [ne_eq, ObjectId.mk.injEq, and_true] <;> omega

lemma boundDocument_hasPages (options : DocumentOptions) (now : Moment)
    (stored : List (Raster (Rgb UInt8) × Stream)) :
    HasPages (boundDocument options now stored) ⟨3 * stored.length + 2, 0⟩ ⟨1, 0⟩ (catalogDict 1)
      (pagesDict ((List.range stored.length).map pageNumber)) (allParts options stored) := by
  have hobject : ∀ id o, (id, o) ∈ (boundDocument options now stored).objects →
      (boundDocument options now stored).object? id = some o :=
    fun id o h => object?_of_mem (boundDocument_ids_nodup options now stored) h
  exact
    { root_ref := by simp [boundDocument, refTo]
      catalog_object := hobject _ _ (by simp [boundDocument])
      catalog_type := by simp [catalogDict]
      catalog_tree := by simp [catalogDict, refTo]
      tree_object := hobject _ _ (List.mem_cons_self ..)
      tree_type := by simp [pagesDict]
      tree_count := by simp [pagesDict, allParts_length]
      tree_kids := by simp only [allParts_kids]; simp [pagesDict]
      kids_distinct := allParts_pageId_nodup options stored
      streams_distinct := allParts_streams_nodup options stored }

lemma stored_of_mem_zip {encoding : PageEncoding} {images : List (Raster (Rgb UInt8))}
    {streams : List Stream} (h : StoredAs encoding images streams) :
    ∀ x ∈ images.zip streams, imageStream encoding x.1 = .ok x.2 := by
  induction h with
  | nil => simp
  | cons hs _ ih =>
    intro x hx
    rw [List.zip_cons_cons] at hx
    rcases List.mem_cons.mp hx with rfl | hx
    · exact hs
    · exact ih x hx

/-- What holds of the parts of each page holds of all pages and their images. -/
lemma allParts_forall₂ {options : DocumentOptions} {images : List (Raster (Rgb UInt8))}
    {streams : List Stream} (h : StoredAs options.encoding images streams)
    {R : PageParts → Raster (Rgb UInt8) → Prop}
    (hR : ∀ k (hk : k < (images.zip streams).length),
      R (partsAt options k ((images.zip streams)[k]).1 ((images.zip streams)[k]).2)
        ((images.zip streams)[k]).1) :
    List.Forall₂ R (allParts options (images.zip streams)) images := by
  have hlen : (images.zip streams).length = images.length := by
    rw [List.length_zip, ← h.length_eq, Nat.min_self]
  rw [List.forall₂_iff_get]
  refine ⟨by rw [allParts_length, hlen], ?_⟩
  intro k hk hk'
  have hkz : k < (images.zip streams).length := by rwa [hlen]
  have hk := hR k hkz
  rw [← allParts_getElem options _ (by rwa [allParts_length]) hkz] at hk
  simpa using hk

/-- The document of images that can be stored is well formed. -/
theorem boundDocument_wellFormed {options : DocumentOptions} {images : List (Raster (Rgb UInt8))}
    {streams : List Stream} (h : StoredAs options.encoding images streams) (now : Moment) :
    WellFormed (boundDocument options now (images.zip streams)) options images := by
  have hlen : (images.zip streams).length = images.length := by
    rw [List.length_zip, ← h.length_eq, Nat.min_self]
  have hstored := stored_of_mem_zip h
  refine ⟨?_, boundDocument_ids_nodup _ _ _, fun id => boundDocument_references now hstored,
    _, _, _, _, _, boundDocument_hasPages options now (images.zip streams), ?_⟩
  · have hids := congrArg List.length (boundDocument_ids options now (images.zip streams))
    simpa [hlen] using hids
  · exact allParts_forall₂ h fun k hk =>
      partsAt_showsImage now hk (hstored _ (List.getElem_mem hk))

/-! ## When there is a document -/

/-- What can come of binding images: there are none, or all of them can be stored, or there
is a first one that cannot. -/
lemma build_cases (options : DocumentOptions) (now : Moment) (images : List (Raster (Rgb UInt8))) :
    (images = [] ∧ build options now images = .error .noImages) ∨
    (images ≠ [] ∧ ∃ streams, StoredAs options.encoding images streams ∧
      build options now images = .ok (boundDocument options now (images.zip streams))) ∨
    (∃ before image after f, images = before ++ image :: after ∧
      (∀ i ∈ before, ∃ s, imageStream options.encoding i = .ok s) ∧
      imageStream options.encoding image = .error f ∧
      build options now images = .error (.encode f)) := by
  by_cases hne : images = []
  · subst hne
    exact .inl ⟨rfl, rfl⟩
  rcases storedAs_or_first_error options.encoding images with
    ⟨streams, hs⟩ | ⟨before, image, after, f, rfl, hbefore, hf⟩
  · exact .inr (.inl ⟨hne, streams, hs, build_ok hne hs now⟩)
  · exact .inr (.inr ⟨before, image, after, f, rfl, hbefore, hf, build_error hbefore hf now⟩)

lemma imageStream_of_storedAs {encoding : PageEncoding} {images : List (Raster (Rgb UInt8))}
    {streams : List Stream} (h : StoredAs encoding images streams) :
    ∀ image ∈ images, ∃ s, imageStream encoding image = .ok s := by
  induction h with
  | nil => simp
  | cons hs _ ih =>
    intro image himage
    rcases List.mem_cons.mp himage with rfl | himage
    · exact ⟨_, hs⟩
    · exact ih image himage

lemma imageStream_jpeg_ok {quality : UInt8} {image : Raster (Rgb UInt8)} :
    (∃ s, imageStream (.jpeg quality) image = .ok s) ↔
      ∃ data, Jpeg.encode quality image = .ok data := by
  cases h : Jpeg.encode quality image with
  | ok data => simp [imageStream, h, Except.map]
  | error f => simp [imageStream, h, Except.map]

lemma imageStream_error {encoding : PageEncoding} {image : Raster (Rgb UInt8)}
    {f : Jpeg.SizeFault} : imageStream encoding image = .error f ↔
      ∃ quality, encoding = .jpeg quality ∧ Jpeg.encode quality image = .error f := by
  cases encoding with
  | flate => simp [imageStream]
  | jpeg quality =>
    cases h : Jpeg.encode quality image with
    | ok data => simp [imageStream, h, Except.map]
    | error g => simp [imageStream, h, Except.map]

/-- All images can be stored if they are not encoded, or if the encoder accepts them all. -/
lemma storable_iff {encoding : PageEncoding} {images : List (Raster (Rgb UInt8))} :
    (∀ image ∈ images, ∃ s, imageStream encoding image = .ok s) ↔
      encoding = .flate ∨ ∃ quality, encoding = .jpeg quality ∧
        ∀ image ∈ images, ∃ data, Jpeg.encode quality image = .ok data := by
  cases encoding with
  | flate => simp [imageStream]
  | jpeg quality => simp [imageStream_jpeg_ok]

lemma build_ok_iff {options : DocumentOptions} {now : Moment}
    {images : List (Raster (Rgb UInt8))} :
    (∃ d, build options now images = .ok d) ↔
      images ≠ [] ∧ ∀ image ∈ images, ∃ s, imageStream options.encoding image = .ok s := by
  rcases build_cases options now images with
    ⟨rfl, h⟩ | ⟨hne, streams, hs, h⟩ | ⟨before, image, after, f, rfl, hbefore, hf, h⟩
  · simp [h]
  · simp only [h, Except.ok.injEq, exists_eq', true_iff]
    exact ⟨hne, imageStream_of_storedAs hs⟩
  · simp only [h, reduceCtorEq, exists_false, false_iff, not_and]
    intro _ hall
    obtain ⟨s, hs⟩ := hall image (by simp)
    rw [hf] at hs
    cases hs

lemma build_encode_iff {options : DocumentOptions} {now : Moment}
    {images : List (Raster (Rgb UInt8))} {f : Jpeg.SizeFault} :
    build options now images = .error (.encode f) ↔
      ∃ before image after, images = before ++ image :: after ∧
        (∀ i ∈ before, ∃ s, imageStream options.encoding i = .ok s) ∧
        imageStream options.encoding image = .error f := by
  constructor
  · intro hbuild
    rcases build_cases options now images with
      ⟨_, h⟩ | ⟨_, streams, _, h⟩ | ⟨before, image, after, g, himages, hbefore, hg, h⟩
    · rw [h] at hbuild
      cases hbuild
    · rw [h] at hbuild
      cases hbuild
    · rw [h] at hbuild
      cases hbuild
      exact ⟨before, image, after, himages, hbefore, hg⟩
  · rintro ⟨before, image, after, rfl, hbefore, hf⟩
    exact build_error hbefore hf now

lemma build_noImages_iff {options : DocumentOptions} {now : Moment}
    {images : List (Raster (Rgb UInt8))} :
    build options now images = .error .noImages ↔ images = [] := by
  rcases build_cases options now images with
    ⟨rfl, h⟩ | ⟨hne, streams, _, h⟩ | ⟨before, image, after, f, rfl, _, _, h⟩
  · simp [h]
  · simp [h, hne]
  · simp [h]

/-- A document that was built is the one of the streams that its images are stored as. -/
lemma boundDocument_of_build {options : DocumentOptions} {now : Moment}
    {images : List (Raster (Rgb UInt8))} {d : Document} (h : build options now images = .ok d) :
    ∃ streams, StoredAs options.encoding images streams ∧
      d = boundDocument options now (images.zip streams) := by
  rcases build_cases options now images with
    ⟨_, hbuild⟩ | ⟨_, streams, hs, hbuild⟩ | ⟨_, _, _, _, _, _, _, hbuild⟩
  · rw [hbuild] at h
    cases h
  · rw [hbuild] at h
    cases h
    exact ⟨streams, hs, rfl⟩
  · rw [hbuild] at h
    cases h

/-- A document that was built holds together. -/
theorem build_wellFormed {options : DocumentOptions} {now : Moment}
    {images : List (Raster (Rgb UInt8))} {d : Document} (h : build options now images = .ok d) :
    WellFormed d options images := by
  obtain ⟨streams, hs, rfl⟩ := boundDocument_of_build h
  exact boundDocument_wellFormed hs now

/-- Different faults are different failures. -/
lemma mapError_buildFailure {α : Type} {r : Except BuildFault α} {f : BuildFault} :
    r.mapError buildFailure = .error (buildFailure f) ↔ r = .error f := by
  cases r with
  | ok a => simp [Except.mapError]
  | error g => cases f <;> cases g <;> simp [Except.mapError, buildFailure]

/-- Images are bound into a document if there are any and each of them is accepted. If not,
the failure tells that there are none, or why the first one was rejected that was. The
document is a well-formed graph. -/
theorem build_document_graph (options : DocumentOptions) (now : Moment)
    (images : List (Raster (Rgb UInt8))) :
    ((∃ d, build options now images = .ok d) ↔
      images ≠ [] ∧ (options.encoding = .flate ∨ ∃ quality, options.encoding = .jpeg quality ∧
        ∀ image ∈ images, ∃ data, Jpeg.encode quality image = .ok data)) ∧
    ((build options now images).mapError buildFailure = .error (.general .noImages) ↔
      images = []) ∧
    (∀ f, (build options now images).mapError buildFailure = .error (.encode f) ↔
      ∃ before image after quality, images = before ++ image :: after ∧
        options.encoding = .jpeg quality ∧
        (∀ i ∈ before, ∃ data, Jpeg.encode quality i = .ok data) ∧
        Jpeg.encode quality image = .error f) ∧
    ∀ d, build options now images = .ok d → WellFormed d options images := by
  refine ⟨?_, ?_, ?_, fun d => build_wellFormed⟩
  · rw [build_ok_iff, storable_iff]
  · exact mapError_buildFailure.trans build_noImages_iff
  · intro f
    refine mapError_buildFailure.trans (build_encode_iff.trans ?_)
    constructor
    · rintro ⟨before, image, after, himages, hbefore, hf⟩
      obtain ⟨quality, hquality, hreject⟩ := imageStream_error.mp hf
      refine ⟨before, image, after, quality, himages, hquality, ?_, hreject⟩
      intro i hi
      exact imageStream_jpeg_ok.mp (hquality ▸ hbefore i hi)
    · rintro ⟨before, image, after, quality, himages, hquality, hbefore, hreject⟩
      refine ⟨before, image, after, himages, ?_, imageStream_error.mpr ⟨quality, hquality, hreject⟩⟩
      intro i hi
      rw [hquality]
      exact imageStream_jpeg_ok.mpr (hbefore i hi)

theorem build_document_graph_two_images :
    ∃ d, build .default ⟨2026, 1, 18, 9, 30, 0⟩
        [.fill 1 2 ⟨200, 100, 50⟩, .fill 0 0 ⟨0, 0, 0⟩] = .ok d ∧
      WellFormed d .default [.fill 1 2 ⟨200, 100, 50⟩, .fill 0 0 ⟨0, 0, 0⟩] := by
  have hgraph := build_document_graph .default ⟨2026, 1, 18, 9, 30, 0⟩
    [.fill 1 2 ⟨200, 100, 50⟩, .fill 0 0 ⟨0, 0, 0⟩]
  obtain ⟨d, hd⟩ := hgraph.1.mpr ⟨List.cons_ne_nil _ _, .inl rfl⟩
  exact ⟨d, hd, hgraph.2.2.2 d hd⟩

end ScanBinder.Proofs
