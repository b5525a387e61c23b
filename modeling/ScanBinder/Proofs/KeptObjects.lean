import Mathlib.Data.List.Perm.Subperm
import ScanBinder.Pdf.Compress
import ScanBinder.Pdf.Filter
import ScanBinder.Proofs.PageTree
import ScanBinder.Proofs.Rounding

/-!
# What a saved document keeps

Numbers have one written form whether they are whole reals or integers, so a real may come
back from a file as an integer of the same value. A stream may come back compressed, with its
data behind a filter. All else is to come back as it was. A document that keeps its objects in
this sense has the same page tree, the same pages of the same sizes, and the same texts in its
information dictionary.
-/

namespace ScanBinder.Proofs
open Pdf

/-- Numbers of equal value: the same number, or zeros of any sign. -/
def SameNumber (x y : Single) : Prop :=
  x = y ∨ (x.isZero = true ∧ y.isZero = true)

mutual

/-- What a value may come back as. -/
inductive Kept : Value → Value → Prop
  | same (v : Value) : Kept v v
  | whole {x : Single} {n : Int} (h : SameNumber (.ofInt .single n) x) : Kept (.real x) (.int n)
  | array {vs ws : List Value} (h : KeptItems vs ws) : Kept (.array vs) (.array ws)
  | dict {d e : Dict} (h : KeptEntries d e) : Kept (.dict d) (.dict e)

inductive KeptItems : List Value → List Value → Prop
  | nil : KeptItems [] []
  | cons {v w : Value} {vs ws : List Value} (h : Kept v w) (hs : KeptItems vs ws) :
    KeptItems (v :: vs) (w :: ws)

inductive KeptEntries : Dict → Dict → Prop
  | nil : KeptEntries [] []
  | cons {v w : Value} {d e : Dict} (key : Bytes) (h : Kept v w) (hs : KeptEntries d e) :
    KeptEntries ((key, v) :: d) ((key, w) :: e)

end

/-- What an object may come back as. The data of a stream without a filter may be behind one. -/
inductive KeptObject : Object → Object → Prop
  | value {v w : Value} (h : Kept v w) : KeptObject (.value v) (.value w)
  | stream {s s' : Stream} (h : KeptEntries s.dict s'.dict) (hdata : s'.data = s.data) :
    KeptObject (.stream s) (.stream s')
  | packed {s s' : Stream} (hplain : s.dict.get? "Filter" = none)
    (h : KeptEntries (s.packed s'.data).dict s'.dict) (hdata : s'.unpacked = .ok s.data) :
    KeptObject (.stream s) (.stream s')

/-- A document in which everything is left that another one holds. -/
structure KeepsObjects (d d' : Document) : Prop where
  trailer : ∀ key v, d.trailer.get? key = some v → ∃ w, d'.trailer.get? key = some w ∧ Kept v w
  objects : ∀ id o, d.object? id = some o → ∃ o', d'.object? id = some o' ∧ KeptObject o o'

/-! ## Values and dictionaries -/

lemma KeptItems.refl : ∀ vs : List Value, KeptItems vs vs
  | [] => .nil
  | v :: vs => .cons (.same v) (KeptItems.refl vs)

lemma KeptEntries.refl : ∀ d : Dict, KeptEntries d d
  | [] => .nil
  | (key, v) :: d => .cons key (.same v) (KeptEntries.refl d)

lemma Kept.ref_eq {id : ObjectId} {w : Value} (h : Kept (.ref id) w) : w = .ref id := by
  cases h
  rfl

lemma Kept.int_eq {n : Int} {w : Value} (h : Kept (.int n) w) : w = .int n := by
  cases h
  rfl

lemma Kept.name_eq {n : Bytes} {w : Value} (h : Kept (.name n) w) : w = .name n := by
  cases h
  rfl

lemma Kept.str_eq {s : Bytes} {w : Value} (h : Kept (.str s) w) : w = .str s := by
  cases h
  rfl

lemma Kept.array_cases {vs : List Value} {w : Value} (h : Kept (.array vs) w) :
    ∃ ws, w = .array ws ∧ KeptItems vs ws := by
  cases h with
  | same => exact ⟨vs, rfl, .refl vs⟩
  | array h => exact ⟨_, rfl, h⟩

lemma Kept.dict_cases {d : Dict} {w : Value} (h : Kept (.dict d) w) :
    ∃ e, w = .dict e ∧ KeptEntries d e := by
  cases h with
  | same => exact ⟨d, rfl, .refl d⟩
  | dict h => exact ⟨_, rfl, h⟩

lemma KeptItems.refs_eq {ids : List ObjectId} {ws : List Value}
    (h : KeptItems (ids.map .ref) ws) : ws = ids.map .ref := by
  induction ids generalizing ws with
  | nil =>
    cases h
    rfl
  | cons id ids ih =>
    cases h with
    | cons h hs => rw [h.ref_eq, ih hs, List.map_cons]

/-- The same keys are there, and lead to what is left of the values. -/
lemma KeptEntries.get?_cases {d e : Dict} (h : KeptEntries d e) (key : String) :
    (d.get? key = none ∧ e.get? key = none) ∨
      ∃ v w, d.get? key = some v ∧ e.get? key = some w ∧ Kept v w := by
  unfold Dict.get?
  induction d generalizing e with
  | nil =>
    cases h
    exact .inl ⟨rfl, rfl⟩
  | cons x d ih =>
    cases h with
    | cons k h hs =>
      rw [List.lookup_cons, List.lookup_cons]
      by_cases hk : Bytes.ofText key = k
      · rw [beq_iff_eq.mpr hk]
        exact .inr ⟨_, _, rfl, rfl, h⟩
      · rw [beq_eq_false_iff_ne.mpr hk]
        exact ih hs

lemma KeptEntries.get?_some {d e : Dict} (h : KeptEntries d e) {key : String} {v : Value}
    (hv : d.get? key = some v) : ∃ w, e.get? key = some w ∧ Kept v w := by
  rcases h.get?_cases key with ⟨hd, _⟩ | ⟨v', w, hd, he, hkept⟩
  · rw [hd] at hv
    cases hv
  · rw [hd] at hv
    cases hv
    exact ⟨w, he, hkept⟩

lemma KeptEntries.get?_none {d e : Dict} (h : KeptEntries d e) {key : String}
    (hd : d.get? key = none) : e.get? key = none := by
  rcases h.get?_cases key with ⟨_, he⟩ | ⟨v, w, hv, _, _⟩
  · exact he
  · rw [hd] at hv
    cases hv

lemma KeptEntries.get?_ref {d e : Dict} (h : KeptEntries d e) {key : String} {id : ObjectId}
    (hv : d.get? key = some (.ref id)) : e.get? key = some (.ref id) := by
  obtain ⟨w, hw, hkept⟩ := h.get?_some hv
  rw [hw, hkept.ref_eq]

lemma KeptEntries.get?_int {d e : Dict} (h : KeptEntries d e) {key : String} {n : Int}
    (hv : d.get? key = some (.int n)) : e.get? key = some (.int n) := by
  obtain ⟨w, hw, hkept⟩ := h.get?_some hv
  rw [hw, hkept.int_eq]

lemma KeptEntries.get?_name {d e : Dict} (h : KeptEntries d e) {key : String} {n : Bytes}
    (hv : d.get? key = some (.name n)) : e.get? key = some (.name n) := by
  obtain ⟨w, hw, hkept⟩ := h.get?_some hv
  rw [hw, hkept.name_eq]

/-- A dictionary is the same if each of its values can only come back as it was. -/
lemma KeptEntries.eq_of_values {d e : Dict} (h : KeptEntries d e)
    (hd : ∀ x ∈ d, ∀ w, Kept x.2 w → w = x.2) : e = d := by
  induction d generalizing e with
  | nil =>
    cases h
    rfl
  | cons x d ih =>
    cases h with
    | cons key h hs =>
      rw [hd _ (List.mem_cons_self ..) _ h, ih hs fun y hy => hd y (List.mem_cons_of_mem _ hy)]

/-! ## Streams -/

lemma packed_get? (s : Stream) (data : Bytes) {key : String} (hlength : key ≠ "Length")
    (hfilter : key ≠ "Filter") : (s.packed data).dict.get? key = s.dict.get? key :=
  (get?_set_of_ne _ hlength _).trans (get?_set_of_ne _ hfilter _)

lemma packed_filter (s : Stream) (data : Bytes) :
    (s.packed data).dict.get? "Filter" = some (.name flateFilter) :=
  (get?_set_of_ne _ (by decide) _).trans (get?_set_same _ _ _)

/-- An entry of a stream comes back whether its data is behind a filter or not. -/
lemma KeptObject.stream_cases {s : Stream} {o : Object} (h : KeptObject (.stream s) o) :
    ∃ s', o = .stream s' ∧ ∀ key, key ≠ "Length" → key ≠ "Filter" →
      ∀ v, s.dict.get? key = some v → ∃ w, s'.dict.get? key = some w ∧ Kept v w := by
  cases h with
  | @stream _ s' h hdata => exact ⟨s', rfl, fun key _ _ v hv => h.get?_some hv⟩
  | @packed _ s' hplain h hdata =>
    refine ⟨s', rfl, fun key hlength hfilter v hv => h.get?_some ?_⟩
    rw [packed_get? s _ hlength hfilter, hv]

/-- The data of a stream without a filter is there, behind a filter or not. -/
lemma KeptObject.plain {s s' : Stream} (h : KeptObject (.stream s) (.stream s'))
    (hfilter : s.dict.get? "Filter" = none) : s'.plain = .ok s.data := by
  unfold Stream.plain
  cases h with
  | stream h hdata =>
    rw [h.get?_none hfilter, hdata]
    rfl
  | packed _ h hdata =>
    rw [h.get?_name (packed_filter s _), hdata]
    rfl

lemma KeptObject.dict_cases {dict : Dict} {o : Object} (h : KeptObject (.value (.dict dict)) o) :
    ∃ dict', o = .value (.dict dict') ∧ KeptEntries dict dict' := by
  cases h with
  | value h =>
    obtain ⟨dict', rfl, hentries⟩ := h.dict_cases
    exact ⟨dict', rfl, hentries⟩

/-! ## Documents -/

section
variable {d d' : Document}

lemma KeepsObjects.root_eq (h : KeepsObjects d d') {key : String} {id : ObjectId}
    (hid : d.trailer.get? key = some (.ref id)) : d'.trailer.get? key = some (.ref id) := by
  obtain ⟨w, hw, hkept⟩ := h.trailer key _ hid
  rw [hw, hkept.ref_eq]

lemma KeepsObjects.dict_object (h : KeepsObjects d d') {id : ObjectId} {dict : Dict}
    (hid : d.object? id = some (.value (.dict dict))) :
    ∃ dict', d'.object? id = some (.value (.dict dict')) ∧ KeptEntries dict dict' := by
  obtain ⟨o, ho, hkept⟩ := h.objects id _ hid
  obtain ⟨dict', rfl, hentries⟩ := hkept.dict_cases
  exact ⟨dict', ho, hentries⟩

lemma mem_of_object? {id : ObjectId} {o : Object} (h : d.object? id = some o) :
    (id, o) ∈ d.objects := by
  obtain ⟨before, after, hobjects, _⟩ := List.lookup_eq_some_iff.mp h
  rw [hobjects]
  simp

/-- No object is lost, so there are at least as many. -/
lemma KeepsObjects.length_le (h : KeepsObjects d d') (hnodup : (d.objects.map Prod.fst).Nodup) :
    d.objects.length ≤ d'.objects.length := by
  have hsubset : d.objects.map Prod.fst ⊆ d'.objects.map Prod.fst := by
    intro id hid
    obtain ⟨⟨_, o⟩, ho, rfl⟩ := List.mem_map.mp hid
    obtain ⟨o', ho', _⟩ := h.objects _ o (object?_of_mem hnodup ho)
    exact List.mem_map.mpr ⟨_, mem_of_object? ho', rfl⟩
  simpa using (List.Nodup.subperm hnodup hsubset).length_le

/-- The page tree is the same if the catalog and the root of the tree are left. -/
lemma HasPages.of_kept {root tree : ObjectId} {catalog pages catalog' pages' : Dict}
    {parts : List PageParts} (hpages : HasPages d root tree catalog pages parts)
    (hroot : d'.trailer.get? "Root" = some (.ref root))
    (hcatalog : d'.object? root = some (.value (.dict catalog')))
    (hkeptCatalog : KeptEntries catalog catalog')
    (htree : d'.object? tree = some (.value (.dict pages')))
    (hkeptTree : KeptEntries pages pages') : HasPages d' root tree catalog' pages' parts := by
  have hkids : Dict.get? pages' "Kids" = some (.array (parts.map fun p => .ref p.pageId)) := by
    obtain ⟨w, hw, hkept⟩ := hkeptTree.get?_some hpages.tree_kids
    obtain ⟨ws, rfl, hitems⟩ := hkept.array_cases
    have hmap : (parts.map fun p => Value.ref p.pageId) =
        (parts.map PageParts.pageId).map .ref := by simp
    rw [hmap] at hitems ⊢
    rw [hw, hitems.refs_eq]
  exact
    { root_ref := hroot
      catalog_object := hcatalog
      catalog_type := hkeptCatalog.get?_name hpages.catalog_type
      catalog_tree := hkeptCatalog.get?_ref hpages.catalog_tree
      tree_object := htree
      tree_type := hkeptTree.get?_name hpages.tree_type
      tree_count := hkeptTree.get?_int hpages.tree_count
      tree_kids := hkids
      kids_distinct := hpages.kids_distinct
      streams_distinct := hpages.streams_distinct }

lemma KeepsObjects.hasPages (h : KeepsObjects d d') {root tree : ObjectId} {catalog pages : Dict}
    {parts : List PageParts} (hpages : HasPages d root tree catalog pages parts) :
    ∃ catalog' pages', HasPages d' root tree catalog' pages' parts := by
  obtain ⟨catalog', hcatalog, hkeptCatalog⟩ := h.dict_object hpages.catalog_object
  obtain ⟨pages', htree, hkeptTree⟩ := h.dict_object hpages.tree_object
  exact ⟨catalog', pages', hpages.of_kept (h.root_eq hpages.root_ref) hcatalog hkeptCatalog htree
    hkeptTree⟩

end

/-! ## Sizes -/

lemma SameNumber.isFinite {x y : Single} (h : SameNumber x y) (hy : y.isFinite = true) :
    x.isFinite = true := by
  rcases h with rfl | ⟨hzero, _⟩
  · exact hy
  · have hmag : x.magnitude = 0 := of_decide_eq_true hzero
    refine decide_eq_true ?_
    rw [hmag]
    decide

lemma Kept.coordinate {x : Single} {w : Value} (h : Kept (.real x) w) :
    ∃ y, Document.coordinate w = .ok y ∧ SameNumber y x := by
  cases h with
  | same => exact ⟨x, rfl, .inl rfl⟩
  | whole h => exact ⟨_, rfl, h⟩

lemma KeptItems.box_cases {width height : Single} {ws : List Value}
    (h : KeptItems [.int 0, .int 0, .real width, .real height] ws) :
    ∃ right top, ws = [.int 0, .int 0, right, top] ∧ Kept (.real width) right ∧
      Kept (.real height) top := by
  cases h with
  | cons hleft h =>
    cases h with
    | cons hbottom h =>
      cases h with
      | cons hright h =>
        cases h with
        | cons htop h =>
          cases h
          rw [hleft.int_eq, hbottom.int_eq]
          exact ⟨_, _, rfl, hright, htop⟩

section
variable {d d' : Document} {options : DocumentOptions} {tree : ObjectId} {p : PageParts}
  {image : Raster (Rgb UInt8)}

lemma KeepsObjects.typeName? (h : KeepsObjects d d') (hshow : ShowsImage d options tree p image) :
    d'.typeName? p.pageId = some (Bytes.ofText "Page") := by
  obtain ⟨page, hpage, hkept⟩ := h.dict_object hshow.page_object
  have htype : Dict.get? page "Type" = some (.name (Bytes.ofText "Page")) :=
    hkept.get?_name hshow.page_type
  unfold Document.typeName?
  simp only [dictionary_of_object? hpage, htype]

/-- A page has the size that it had. -/
lemma KeepsObjects.pageSize (h : KeepsObjects d d') (hshow : ShowsImage d options tree p image)
    (hwidth : p.width.isFinite = true) (hheight : p.height.isFinite = true) :
    ∃ size, d'.pageSize p.pageId = .ok size ∧ SameNumber size.1 p.width ∧
      SameNumber size.2 p.height := by
  obtain ⟨page, hpage, hkept⟩ := h.dict_object hshow.page_object
  obtain ⟨w, hbox, hkeptBox⟩ := hkept.get?_some hshow.page_box
  obtain ⟨ws, rfl, hitems⟩ := hkeptBox.array_cases
  obtain ⟨right, top, rfl, hkeptRight, hkeptTop⟩ := hitems.box_cases
  obtain ⟨x, hx, hsameWidth⟩ := hkeptRight.coordinate
  obtain ⟨y, hy, hsameHeight⟩ := hkeptTop.coordinate
  have hzero : Document.coordinate (.int 0) = .ok ⟨false, 0⟩ := rfl
  have hmap : [Value.int 0, .int 0, right, top].mapM Document.coordinate =
      .ok [⟨false, 0⟩, ⟨false, 0⟩, x, y] :=
    mapM_of_forall₂ (m := Except Fault) (.cons hzero (.cons hzero (.cons hx (.cons hy .nil))))
  refine ⟨(x, y), ?_, hsameWidth, hsameHeight⟩
  unfold Document.pageSize
  simp only [dictionary_of_object? hpage, hbox, hmap, List.length_cons, List.length_nil]
  rw [sub_zero_of_finite (hsameWidth.isFinite hwidth),
    sub_zero_of_finite (hsameHeight.isFinite hheight)]
  rfl

end

/-! ## Texts -/

lemma toText?_ofText (s : String) : Bytes.toText? (Bytes.ofText s) = some s := by
  have hbytes : (⟨(Bytes.ofText s).toArray⟩ : ByteArray) = s.toByteArray := by
    unfold Bytes.ofText String.toUTF8
    rw [Array.toArray_toList]
  unfold Bytes.toText? String.fromUTF8?
  rw [hbytes, dif_pos s.isValidUTF8]
  rfl

/-- A text of the information dictionary is the same, and one that was not there is not. -/
lemma KeepsObjects.infoText? {d d' : Document} (h : KeepsObjects d d') {info : ObjectId}
    {dict : Dict} (hinfo : d.trailer.get? "Info" = some (.ref info))
    (hobject : d.object? info = some (.value (.dict dict))) {key : String} {text : Option String}
    (htext : dict.get? key = text.map fun s => .str (Bytes.ofText s)) :
    d'.infoText? key = text := by
  obtain ⟨dict', hdict, hkept⟩ := h.dict_object hobject
  have hinfo' : d'.info? = some dict' := by
    unfold Document.info?
    simp only [h.root_eq hinfo, dictionary_of_object? hdict, Except.toOption]
  unfold Document.infoText?
  rw [hinfo', Option.bind_some]
  cases text with
  | none => rw [hkept.get?_none htext]
  | some s =>
    obtain ⟨w, hw, hkeptText⟩ := hkept.get?_some htext
    rw [hw, hkeptText.str_eq]
    exact toText?_ofText s

end ScanBinder.Proofs
