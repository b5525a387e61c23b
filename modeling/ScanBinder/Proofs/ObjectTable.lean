import Mathlib.Data.List.Forall2
import Mathlib.Tactic.Common
import ScanBinder.Pdf.Build

/-!
# The object table of a document in the making

Numbers are given out one after another, so each new object goes to the end of the table.
The number of the page tree is given out first and is the only one without an object while
pages are added; its object goes to the front when they all are there. The document of a
list of images is then known object by object.
-/

namespace ScanBinder.Proofs
open Pdf

/-! ## Putting objects into the table -/

/-- The objects of a draft have numbers above `low`, which has been given out but has no
object yet, and none above the last number. -/
structure Numbered (low : Nat) (d : Draft) : Prop where
  low_le : low ≤ d.last
  above : ∀ x ∈ d.objects, low < x.1.number
  within : ∀ x ∈ d.objects, x.1.number ≤ d.last

lemma insertObject_last {number : Nat} {objects : List (ObjectId × Object)}
    (h : ∀ x ∈ objects, x.1.number < number) (o : Object) :
    insertObject number o objects = objects ++ [(⟨number, 0⟩, o)] := by
  induction objects with
  | nil => rfl
  | cons x objects ih =>
    have hx : x.1.number < number := h x (List.mem_cons_self ..)
    rw [insertObject, if_neg (by omega), if_neg (by omega),
      ih (fun y hy => h y (List.mem_cons_of_mem _ hy))]
    rfl

lemma insertObject_first {number : Nat} {objects : List (ObjectId × Object)}
    (h : ∀ x ∈ objects, number < x.1.number) (o : Object) :
    insertObject number o objects = (⟨number, 0⟩, o) :: objects := by
  cases objects with
  | nil => rfl
  | cons x objects => rw [insertObject, if_pos (h x (List.mem_cons_self ..))]

/-- A draft with one more object, under the next number. -/
def withNext (d : Draft) (o : Object) : Draft :=
  ⟨d.last + 1, d.objects ++ [(⟨d.last + 1, 0⟩, o)]⟩

lemma numbered_withNext {low : Nat} {d : Draft} (hd : Numbered low d) (o : Object) :
    Numbered low (withNext d o) := by
  have hlow := hd.low_le
  refine ⟨Nat.le_succ_of_le hlow, ?_, ?_⟩
  · intro x hx
    rcases List.mem_append.mp hx with hx | hx
    · exact hd.above x hx
    · rw [List.mem_singleton.mp hx]
      exact Nat.lt_succ_of_le hlow
  · intro x hx
    rcases List.mem_append.mp hx with hx | hx
    · exact Nat.le_succ_of_le (hd.within x hx)
    · rw [List.mem_singleton.mp hx]
      exact Nat.le_refl _

lemma add_eq {low : Nat} {d : Draft} (hd : Numbered low d) (o : Object) :
    d.add o = (d.last + 1, withNext d o) := by
  have hlast : insertObject (d.last + 1) o d.objects = d.objects ++ [(⟨d.last + 1, 0⟩, o)] :=
    insertObject_last (fun x hx => Nat.lt_succ_of_le (hd.within x hx)) o
  simp only [Draft.add, Draft.reserve, Draft.put, withNext, hlast]

/-! ## Pages -/

/-- The three objects of an image that is stored as `s`, after the number `last`. -/
def pageObjects (options : DocumentOptions) (pages last : Nat) (image : Raster (Rgb UInt8))
    (s : Stream) : List (ObjectId × Object) :=
  let box := (PageSize.ofImage image.width image.height options.resolution).mediaBox
  [(⟨last + 1, 0⟩, .stream s),
    (⟨last + 2, 0⟩, .stream (streamOf [] (drawingBytes (pageDrawing box.right box.top)) true)),
    (⟨last + 3, 0⟩, .value (.dict (pageDict pages (last + 2) (last + 1) box.right box.top)))]

/-- The objects of several images. -/
def allObjects (options : DocumentOptions) (pages : Nat) :
    Nat → List (Raster (Rgb UInt8) × Stream) → List (ObjectId × Object)
  | _, [] => []
  | last, (image, s) :: stored =>
    pageObjects options pages last image s ++ allObjects options pages (last + 3) stored

/-- A draft with the three objects of an image. -/
def withPage (options : DocumentOptions) (pages : Nat) (d : Draft) (image : Raster (Rgb UInt8))
    (s : Stream) : Draft :=
  ⟨d.last + 3, d.objects ++ pageObjects options pages d.last image s⟩

lemma addPage_ok {low : Nat} {d : Draft} (hd : Numbered low d) {options : DocumentOptions}
    {image : Raster (Rgb UInt8)} {s : Stream} (h : imageStream options.encoding image = .ok s)
    (pages : Nat) :
    d.addPage options pages image = .ok (d.last + 3, withPage options pages d image s) ∧
      Numbered low (withPage options pages d image s) := by
  let box := (PageSize.ofImage image.width image.height options.resolution).mediaBox
  let d₁ := withNext d (.stream s)
  let d₂ := withNext d₁ (.stream (streamOf [] (drawingBytes (pageDrawing box.right box.top)) true))
  let d₃ := withNext d₂
    (.value (.dict (pageDict pages (d.last + 2) (d.last + 1) box.right box.top)))
  have hd₁ : Numbered low d₁ := numbered_withNext hd _
  have hd₂ : Numbered low d₂ := numbered_withNext hd₁ _
  have hd₃ : Numbered low d₃ := numbered_withNext hd₂ _
  have heq : withPage options pages d image s = d₃ := by
    simp [withPage, pageObjects, d₃, d₂, d₁, withNext, box]
  refine ⟨?_, heq ▸ hd₃⟩
  rw [heq]
  simp only [Draft.addPage, h, bind, Except.bind, pure, Except.pure, add_eq hd]
  rw [add_eq hd₁]
  exact congrArg Except.ok (add_eq hd₂ _)

lemma addPage_error {options : DocumentOptions} {image : Raster (Rgb UInt8)} {f : Jpeg.SizeFault}
    (h : imageStream options.encoding image = .error f) (d : Draft) (pages : Nat) :
    d.addPage options pages image = .error f := by
  unfold Draft.addPage
  rw [h]
  rfl

/-- All images have been stored, each as the stream beside it. -/
def StoredAs (encoding : PageEncoding) (images : List (Raster (Rgb UInt8)))
    (streams : List Stream) : Prop :=
  List.Forall₂ (fun image s => imageStream encoding image = .ok s) images streams

/-- The run of the loop: page after page goes to the end of the table, and the number under
the page tree stays free. -/
lemma addPages_ok {low : Nat} {options : DocumentOptions} {images : List (Raster (Rgb UInt8))}
    {streams : List Stream} (h : StoredAs options.encoding images streams) (pages : Nat)
    {d : Draft} (hd : Numbered low d) :
    d.addPages options pages images =
        .ok ((List.range images.length).map (fun k => d.last + 3 * k + 3),
          ⟨d.last + 3 * images.length,
            d.objects ++ allObjects options pages d.last (images.zip streams)⟩) ∧
      Numbered low ⟨d.last + 3 * images.length,
        d.objects ++ allObjects options pages d.last (images.zip streams)⟩ := by
  induction h generalizing d with
  | nil =>
    constructor
    · simp [Draft.addPages, allObjects]
    · simpa [allObjects] using hd
  | @cons image s images streams hs _ ih =>
    obtain ⟨hpage, hnext⟩ := addPage_ok hd hs pages
    obtain ⟨hmore, hlast⟩ := ih hnext
    have heq : (⟨d.last + 3 * (image :: images).length, d.objects ++
          allObjects options pages d.last ((image :: images).zip (s :: streams))⟩ : Draft) =
        ⟨(withPage options pages d image s).last + 3 * images.length,
          (withPage options pages d image s).objects ++
            allObjects options pages (withPage options pages d image s).last
              (images.zip streams)⟩ := by
      simp only [withPage, List.zip_cons_cons, allObjects, List.append_assoc, List.length_cons]
      congr 1
      omega
    rw [heq]
    refine ⟨?_, hlast⟩
    simp only [Draft.addPages, hpage, hmore, bind, Except.bind, pure, Except.pure]
    have hkids : (List.range (image :: images).length).map (fun k => d.last + 3 * k + 3) =
        (d.last + 3) :: (List.range images.length).map
          (fun k => (withPage options pages d image s).last + 3 * k + 3) := by
      rw [List.length_cons, List.range_succ_eq_map, List.map_cons, List.map_map]
      congr 1
      apply List.map_congr_left
      intro k _
      simp only [Function.comp, withPage]
      omega
    rw [hkids]

/-- The loop ends at the first image that cannot be stored. -/
lemma addPages_error {low : Nat} {options : DocumentOptions}
    {before after : List (Raster (Rgb UInt8))} {image : Raster (Rgb UInt8)} {f : Jpeg.SizeFault}
    (hbefore : ∀ i ∈ before, ∃ s, imageStream options.encoding i = .ok s)
    (h : imageStream options.encoding image = .error f) (pages : Nat) {d : Draft}
    (hd : Numbered low d) :
    d.addPages options pages (before ++ image :: after) = .error f := by
  induction before generalizing d with
  | nil => simp only [List.nil_append, Draft.addPages, addPage_error h, bind, Except.bind]
  | cons i before ih =>
    obtain ⟨s, hs⟩ := hbefore i (List.mem_cons_self ..)
    obtain ⟨hpage, hnext⟩ := addPage_ok hd hs pages
    have hmore := ih (fun j hj => hbefore j (List.mem_cons_of_mem _ hj)) hnext
    simp only [List.cons_append, Draft.addPages, hpage, hmore, bind, Except.bind]

/-! ## The whole document -/

/-- The page tree goes to the front, which its number has been kept free for. -/
lemma finish_eq {pages : Nat} (hpages : 0 < pages) {d : Draft} (hd : Numbered pages d)
    (options : DocumentOptions) (now : Moment) (kids : List Nat) :
    d.finish options now pages kids =
      { version := "1.5"
        objects := (⟨pages, 0⟩, .value (.dict (pagesDict kids))) :: (d.objects ++
          [(⟨d.last + 1, 0⟩, .value (.dict (catalogDict pages))),
            (⟨d.last + 2, 0⟩, .value (.dict (infoDict options now)))])
        trailer := [entry "Root" (refTo (d.last + 1)), entry "Info" (refTo (d.last + 2))] } := by
  let d₁ : Draft := ⟨d.last, (⟨pages, 0⟩, .value (.dict (pagesDict kids))) :: d.objects⟩
  have hput : d.put pages (.value (.dict (pagesDict kids))) = d₁ := by
    simp only [Draft.put, d₁, insertObject_first hd.above]
  have hd₁ : Numbered 0 d₁ := by
    refine ⟨Nat.zero_le _, ?_, ?_⟩
    · intro x hx
      rcases List.mem_cons.mp hx with rfl | hx
      · exact hpages
      · exact Nat.lt_of_le_of_lt (Nat.zero_le _) (hd.above x hx)
    · intro x hx
      rcases List.mem_cons.mp hx with rfl | hx
      · exact hd.low_le
      · exact hd.within x hx
  have hd₂ := numbered_withNext hd₁ (.value (.dict (catalogDict pages)))
  simp only [Draft.finish, hput, add_eq hd₁, add_eq hd₂]
  simp [withNext, d₁]

/-- The document of stored images, object by object. -/
def boundDocument (options : DocumentOptions) (now : Moment)
    (stored : List (Raster (Rgb UInt8) × Stream)) : Document :=
  { version := "1.5"
    objects :=
      (⟨1, 0⟩, .value (.dict (pagesDict ((List.range stored.length).map pageNumber)))) ::
        (allObjects options 1 1 stored ++
          [(⟨3 * stored.length + 2, 0⟩, .value (.dict (catalogDict 1))),
            (⟨3 * stored.length + 3, 0⟩, .value (.dict (infoDict options now)))])
    trailer := [entry "Root" (refTo (3 * stored.length + 2)),
      entry "Info" (refTo (3 * stored.length + 3))] }

lemma numbered_reserved : Numbered 1 ⟨1, []⟩ :=
  ⟨Nat.le_refl 1, fun _ hx => (List.not_mem_nil hx).elim, fun _ hx => (List.not_mem_nil hx).elim⟩

/-- Images that can be stored are bound into the document of the streams they are stored as. -/
theorem build_ok {options : DocumentOptions} {images : List (Raster (Rgb UInt8))}
    {streams : List Stream} (hne : images ≠ []) (h : StoredAs options.encoding images streams)
    (now : Moment) :
    build options now images = .ok (boundDocument options now (images.zip streams)) := by
  have hlen : (images.zip streams).length = images.length := by
    rw [List.length_zip, ← h.length_eq, Nat.min_self]
  have hempty : images.isEmpty = false := by simpa using hne
  obtain ⟨hpages, hnumbered⟩ := addPages_ok h 1 numbered_reserved
  have hkids : (List.range images.length).map (fun k => 1 + 3 * k + 3) =
      (List.range images.length).map pageNumber := by
    apply List.map_congr_left
    intro k _
    simp only [pageNumber]
    omega
  simp only [build, hempty, Bool.false_eq_true, if_false, Draft.reserve, Draft.empty,
    Nat.zero_add, hpages, finish_eq Nat.one_pos hnumbered, hkids]
  simp only [boundDocument, hlen, List.nil_append, Nat.add_comm 1, Nat.add_assoc]

/-- The first image that cannot be stored is the reason why there is no document. -/
theorem build_error {options : DocumentOptions} {before after : List (Raster (Rgb UInt8))}
    {image : Raster (Rgb UInt8)} {f : Jpeg.SizeFault}
    (hbefore : ∀ i ∈ before, ∃ s, imageStream options.encoding i = .ok s)
    (h : imageStream options.encoding image = .error f) (now : Moment) :
    build options now (before ++ image :: after) = .error (.encode f) := by
  have hempty : (before ++ image :: after).isEmpty = false := by simp
  simp only [build, hempty, Bool.false_eq_true, if_false, Draft.reserve, Draft.empty,
    Nat.zero_add, addPages_error hbefore h 1 numbered_reserved]

/-- Either all images can be stored, or there is a first one that cannot. -/
lemma storedAs_or_first_error (encoding : PageEncoding) (images : List (Raster (Rgb UInt8))) :
    (∃ streams, StoredAs encoding images streams) ∨
      ∃ before image after f, images = before ++ image :: after ∧
        (∀ i ∈ before, ∃ s, imageStream encoding i = .ok s) ∧
        imageStream encoding image = .error f := by
  induction images with
  | nil => exact .inl ⟨[], .nil⟩
  | cons image images ih =>
    cases h : imageStream encoding image with
    | error f => exact .inr ⟨[], image, images, f, rfl, by simp, h⟩
    | ok s =>
      rcases ih with ⟨streams, hs⟩ | ⟨before, i, after, f, rfl, hbefore, hi⟩
      · exact .inl ⟨s :: streams, .cons h hs⟩
      · refine .inr ⟨image :: before, i, after, f, rfl, ?_, hi⟩
        intro j hj
        rcases List.mem_cons.mp hj with rfl | hj
        · exact ⟨s, h⟩
        · exact hbefore j hj

/-! ## Finding objects -/

lemma allObjects_ids (options : DocumentOptions) (pages last : Nat)
    (stored : List (Raster (Rgb UInt8) × Stream)) :
    (allObjects options pages last stored).map Prod.fst =
      (List.range' (last + 1) (3 * stored.length)).map (fun n => (⟨n, 0⟩ : ObjectId)) := by
  induction stored generalizing last with
  | nil => rfl
  | cons x stored ih =>
    rw [allObjects, List.map_append, ih, List.length_cons, Nat.mul_succ]
    simp [pageObjects, List.range'_succ, Nat.add_assoc]

/-- The objects of a document have the numbers from one on, in this order. -/
theorem boundDocument_ids (options : DocumentOptions) (now : Moment)
    (stored : List (Raster (Rgb UInt8) × Stream)) :
    (boundDocument options now stored).objects.map Prod.fst =
      (List.range' 1 (3 * stored.length + 3)).map (fun n => (⟨n, 0⟩ : ObjectId)) := by
  have hsplit : List.range' 1 (3 * stored.length + 3) =
      1 :: (List.range' 2 (3 * stored.length) ++
        [3 * stored.length + 2, 3 * stored.length + 3]) := by
    rw [List.range'_succ, ← List.range'_append_1, show 1 + 1 + 3 * stored.length =
      3 * stored.length + 2 by omega]
    rfl
  rw [hsplit]
  simp [boundDocument, allObjects_ids]

lemma nodup_numbered (n : Nat) : ((List.range' 1 n).map fun k => (⟨k, 0⟩ : ObjectId)).Nodup :=
  List.Pairwise.map _ (fun _ _ hne h => hne (congrArg ObjectId.number h)) List.nodup_range'

lemma boundDocument_ids_nodup (options : DocumentOptions) (now : Moment)
    (stored : List (Raster (Rgb UInt8) × Stream)) :
    ((boundDocument options now stored).objects.map Prod.fst).Nodup := by
  rw [boundDocument_ids]
  exact nodup_numbered _

lemma lookup_of_mem {κ α : Type} [BEq κ] [LawfulBEq κ] {l : List (κ × α)}
    (h : (l.map Prod.fst).Nodup) {key : κ} {a : α} (hmem : (key, a) ∈ l) :
    l.lookup key = some a := by
  induction l with
  | nil => exact (List.not_mem_nil hmem).elim
  | cons x l ih =>
    rw [List.map_cons, List.nodup_cons] at h
    rcases List.mem_cons.mp hmem with rfl | hmem
    · simp
    · have hne : key ≠ x.1 := by
        rintro rfl
        exact h.1 (List.mem_map.mpr ⟨(x.1, a), hmem, rfl⟩)
      rw [List.lookup_cons, beq_eq_false_iff_ne.mpr hne]
      exact ih h.2 hmem

lemma object?_of_mem {d : Document} (h : (d.objects.map Prod.fst).Nodup) {id : ObjectId}
    {o : Object} (hmem : (id, o) ∈ d.objects) : d.object? id = some o :=
  lookup_of_mem h hmem

lemma mem_allObjects {options : DocumentOptions} {pages last : Nat}
    {stored : List (Raster (Rgb UInt8) × Stream)} {x : ObjectId × Object} :
    x ∈ allObjects options pages last stored ↔
      ∃ k, ∃ hk : k < stored.length,
        x ∈ pageObjects options pages (last + 3 * k) (stored[k]).1 (stored[k]).2 := by
  induction stored generalizing last with
  | nil => simp [allObjects]
  | cons y stored ih =>
    rw [allObjects, List.mem_append, ih]
    constructor
    · rintro (h | ⟨k, hk, h⟩)
      · exact ⟨0, Nat.succ_pos _, h⟩
      · refine ⟨k + 1, Nat.succ_lt_succ hk, ?_⟩
        rwa [show last + 3 * (k + 1) = last + 3 + 3 * k by omega]
    · rintro ⟨k, hk, h⟩
      cases k with
      | zero => exact .inl h
      | succ k =>
        refine .inr ⟨k, Nat.lt_of_succ_lt_succ hk, ?_⟩
        rwa [show last + 3 * (k + 1) = last + 3 + 3 * k by omega] at h

/-- The objects of each page are found under the numbers that were given out for them. -/
lemma boundDocument_object? (options : DocumentOptions) (now : Moment)
    {stored : List (Raster (Rgb UInt8) × Stream)} {k : Nat} (hk : k < stored.length)
    {id : ObjectId} {o : Object}
    (h : (id, o) ∈ pageObjects options 1 (1 + 3 * k) (stored[k]).1 (stored[k]).2) :
    (boundDocument options now stored).object? id = some o := by
  apply object?_of_mem (boundDocument_ids_nodup options now stored)
  refine List.mem_cons_of_mem _ (List.mem_append_left _ ?_)
  exact mem_allObjects.mpr ⟨k, hk, h⟩

end ScanBinder.Proofs
