import ScanBinder.Proofs.SavedDocument

/-!
# Compressed documents

Compressing a document changes nothing but some of its streams, and these hold the same data
behind a filter. So a file that keeps the objects of the compressed document keeps those of the
document itself, and what is read from the file is told by the document alone.
-/

namespace ScanBinder.Proofs
open Pdf

/-! ## One stream -/

lemma compressed_cases (z : Packer) (s : Stream) :
    s.compressed z = s ∨
      s.dict.get? "Filter" = none ∧ s.compressed z = s.packed (z.pack s.data) := by
  unfold Stream.compressed
  dsimp only
  split_ifs with hplain
  · rw [Bool.and_eq_true, Option.isNone_iff_eq_none] at hplain
    exact .inr ⟨hplain.2, rfl⟩
  · exact .inl rfl
  · exact .inl rfl

/-- Undoing the filter of a packed stream gives the data, if there are no other parameters. -/
lemma unpacked_packed {z : Packer} {s s' : Stream}
    (h : KeptEntries (s.packed (z.pack s.data)).dict s'.dict) (hdata : s'.data = z.pack s.data)
    (hparams : s.dict.get? "DecodeParms" = none) : s'.unpacked = .ok s.data := by
  have hfilter : s'.dict.get? "Filter" = some (.name flateFilter) :=
    h.get?_name (packed_filter s _)
  have hparams' : s'.dict.get? "DecodeParms" = none := by
    apply h.get?_none
    rw [packed_get? s _ (by decide) (by decide), hparams]
  have hundo : undoFilter [] (z.pack s.data) flateFilter = .ok s.data := by
    unfold undoFilter
    rw [if_pos (show flateFilter = Bytes.ofText "FlateDecode" from rfl), z.unpack_pack]
    rfl
  unfold Stream.unpacked Stream.filters
  simp only [hfilter, hparams', hdata]
  exact hundo

/-- A stream that is read back from what was packed holds the data. -/
lemma KeptObject.of_compressed {z : Packer} {o o' : Object} (h : KeptObject (o.compressed z) o')
    (hparams : ∀ s, o = .stream s → s.dict.get? "DecodeParms" = none) : KeptObject o o' := by
  cases o with
  | value v => exact h
  | stream s =>
    rw [Object.compressed] at h
    rcases compressed_cases z s with hsame | ⟨hplain, hpacked⟩
    · rwa [hsame] at h
    · rw [hpacked] at h
      cases h with
      | @stream _ s' h hdata =>
        have hdata : s'.data = z.pack s.data := hdata
        have hunpacked := unpacked_packed h hdata (hparams s rfl)
        exact .packed hplain (hdata ▸ h) hunpacked
      | packed hfilter =>
        rw [packed_filter] at hfilter
        cases hfilter

/-! ## Documents -/

section
variable {z : Packer} {d d' : Document}

lemma object?_compressed (z : Packer) (d : Document) (id : ObjectId) :
    (d.compressed z).object? id = (d.object? id).map (Object.compressed z) := by
  unfold Document.object? Document.compressed
  dsimp only
  induction d.objects with
  | nil => rfl
  | cons x objects ih =>
    rw [List.map_cons, List.lookup_cons, List.lookup_cons (k := x.1) (b := x.2), ih]
    cases id == x.1 <;> rfl

lemma ids_compressed (z : Packer) (d : Document) :
    (d.compressed z).objects.map Prod.fst = d.objects.map Prod.fst := by
  unfold Document.compressed
  simp [Function.comp_def]

lemma compressed_length (z : Packer) (d : Document) :
    (d.compressed z).objects.length = d.objects.length :=
  List.length_map _

/-- No stream of a document says how a filter is to be undone. -/
def WithoutParameters (d : Document) : Prop :=
  ∀ id s, d.object? id = some (.stream s) → s.dict.get? "DecodeParms" = none

theorem KeepsObjects.of_compressed (h : KeepsObjects (d.compressed z) d')
    (hparams : WithoutParameters d) : KeepsObjects d d' := by
  refine ⟨h.trailer, ?_⟩
  intro id o ho
  have hcompressed : (d.compressed z).object? id = some (o.compressed z) := by
    rw [object?_compressed, ho]
    rfl
  obtain ⟨o', ho', hkept⟩ := h.objects id _ hcompressed
  refine ⟨o', ho', hkept.of_compressed ?_⟩
  rintro s rfl
  exact hparams id s ho

/-- What is read under a number that an object was written under, or none. -/
inductive ReadAs (z : Packer) : Option Object → Option Object → Prop
  | kept {o o' : Object} (hw : WritableObject (o.compressed z)) (h : KeptObject o o') :
    ReadAs z (some o) (some o')
  | lost {o : Object} (hw : ¬WritableObject (o.compressed z)) : ReadAs z (some o) none
  | absent : ReadAs z none none

/-- What is read of a document that was written compressed: the trailer and the objects, without
those beyond the limits of the format. -/
structure ReadsAs (z : Packer) (d d' : Document) : Prop where
  trailer : ∀ key v, d.trailer.get? key = some v → ∃ w, d'.trailer.get? key = some w ∧ Kept v w
  objects : ∀ id, ReadAs z (d.object? id) (d'.object? id)

/-- Bytes that are read as a document. -/
def HoldsDocument (z : Packer) (content : Bytes) (d : Document) : Prop :=
  ∃ d', Document.ofBytes content = .ok d' ∧ ReadsAs z d d'

theorem Fits.holdsDocument (h : Fits (d.compressed z)) (hparams : WithoutParameters d) :
    HoldsDocument z (d.compressed z).bytes d := by
  obtain ⟨d', hload, htrailer, hfound⟩ := h.ofBytes_foundAs
  refine ⟨d', hload, htrailer, ?_⟩
  intro id
  have hid := hfound id
  rw [object?_compressed] at hid
  generalize d'.object? id = r at hid
  cases ho : d.object? id with
  | none =>
    rw [ho] at hid
    cases hid
    exact .absent
  | some o =>
    rw [ho] at hid
    cases hid with
    | kept hw hkept =>
      refine .kept hw (hkept.of_compressed ?_)
      rintro s rfl
      exact hparams id s ho
    | lost hw => exact .lost hw

lemma ReadsAs.object (h : ReadsAs z d d') {id : ObjectId} {o : Object}
    (ho : d.object? id = some o) (hw : WritableObject (o.compressed z)) :
    ∃ o', d'.object? id = some o' ∧ KeptObject o o' := by
  have hid := h.objects id
  rw [ho] at hid
  generalize d'.object? id = r at hid ⊢
  cases hid with
  | kept _ hkept => exact ⟨_, rfl, hkept⟩
  | lost hlost => exact absurd hw hlost

lemma ReadsAs.object_eq_none (h : ReadsAs z d d') {id : ObjectId} {o : Object}
    (ho : d.object? id = some o) (hw : ¬WritableObject (o.compressed z)) :
    d'.object? id = none := by
  have hid := h.objects id
  rw [ho] at hid
  generalize d'.object? id = r at hid ⊢
  cases hid with
  | kept hkept _ => exact absurd hkept hw
  | lost _ => rfl

end

end ScanBinder.Proofs
