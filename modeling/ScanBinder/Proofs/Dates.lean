import ScanBinder.Proofs.Combining

/-!
# What depends on the time of a run

A document carries the moment at which it was made in two texts of its information
dictionary. Nothing else in it depends on that moment, and neither does the way a run ends:
two runs on the same tree end alike and leave trees that differ at most in those two texts.
-/

namespace ScanBinder.Proofs
open FileTree Pdf

/-- The keys of the two dates. -/
def dateKeys : List Bytes :=
  [Bytes.ofText "CreationDate", Bytes.ofText "ModDate"]

/-- A dictionary in which the dates are blotted out. -/
def maskDates (d : Dict) : Dict :=
  d.map fun e => if e.1 ∈ dateKeys then (e.1, .null) else e

def maskObject : Object → Object
  | .value (.dict d) => .value (.dict (maskDates d))
  | o => o

/-- A document in which the dates of its information dictionary are blotted out. -/
def undated (d : Document) : Document :=
  match d.trailer.get? "Info" with
  | some (.ref info) =>
    { d with objects := d.objects.map fun x => if x.1 = info then (x.1, maskObject x.2) else x }
  | _ => d

/-- Trees that are the same, or the same except for a document that has other dates. -/
def SameButDates (t t' : FileTree) : Prop :=
  t = t' ∨ ∃ loc d d', SameElsewhere loc t t' ∧ t.get? loc = some (.file d.bytes) ∧
    t'.get? loc = some (.file d'.bytes) ∧ undated d = undated d'

lemma maskDates_infoDict (options : DocumentOptions) (now now' : Moment) :
    maskDates (infoDict options now) = maskDates (infoDict options now') := by
  have hcreation : Bytes.ofText "CreationDate" ∈ dateKeys := by simp [dateKeys]
  have hmod : Bytes.ofText "ModDate" ∈ dateKeys := by simp [dateKeys]
  simp [maskDates, infoDict, entry, hcreation, hmod]

/-- Documents of the same images differ in their dates only. -/
theorem undated_build {options : DocumentOptions} {now now' : Moment}
    {images : List (Raster (Rgb UInt8))} {d d' : Document} (h : build options now images = .ok d)
    (h' : build options now' images = .ok d') : undated d = undated d' := by
  obtain ⟨streams, hs, rfl⟩ := boundDocument_of_build h
  have hd' := build_ok (build_ok_iff.mp ⟨_, h⟩).1 hs now'
  rw [h'] at hd'
  cases hd'
  generalize images.zip streams = stored
  have hinfo : ∀ now, (boundDocument options now stored).trailer.get? "Info" =
      some (.ref ⟨3 * stored.length + 3, 0⟩) := by
    intro now
    simp [boundDocument, refTo]
  unfold undated
  rw [hinfo, hinfo]
  simp [boundDocument, maskObject, maskDates_infoDict options now now']

lemma maskObject_compressed (z : Packer) (o : Object) :
    maskObject (o.compressed z) = (maskObject o).compressed z := by
  cases o with
  | stream s => rfl
  | value v => cases v <;> rfl

/-- Compressing a document leaves the dates alone. -/
lemma undated_compressed (z : Packer) (d : Document) :
    undated (d.compressed z) = (undated d).compressed z := by
  have htrailer : (d.compressed z).trailer = d.trailer := rfl
  unfold undated
  rw [htrailer]
  split
  · next info _ =>
    unfold Document.compressed
    simp only [List.map_map, Document.mk.injEq, true_and, and_true]
    refine List.map_congr_left fun x _ => ?_
    by_cases hx : x.1 = info
    · simp [hx, maskObject_compressed]
    · simp [hx]
  · rfl

/-! ## Two runs -/

lemma sameButDates_of_write {t₁ t₂ t : FileTree} {p : Path} {d₁ d₂ : Document}
    (h₁ : t.write p d₁.bytes = .ok t₁) (h₂ : t.write p d₂.bytes = .ok t₂)
    (hd : undated d₁ = undated d₂) : SameButDates t₁ t₂ := by
  obtain ⟨loc, hloc, rfl⟩ := write_eq_ok.mp h₁
  obtain ⟨loc', hloc', rfl⟩ := write_eq_ok.mp h₂
  rw [hloc] at hloc'
  cases hloc'
  have hroot := (namesFile_of_writeLocation hloc).2
  have hsame₁ := sameElsewhere_set t loc (.file d₁.bytes)
  have hsame₂ := sameElsewhere_set t loc (.file d₂.bytes)
  exact .inr ⟨loc, d₁, d₂, ⟨hsame₂.current.trans hsame₁.current.symm,
    hsame₂.entries.trans hsame₁.entries.symm⟩, get?_set_self t hroot _, get?_set_self t hroot _, hd⟩

/-- Two runs that differ in the moment end alike. -/
theorem combine_at_other_moment (t : FileTree) (z : Packer) (c : Config)
    (now now' : Moment) :
    (t.combine z c now').1 = (t.combine z c now).1 ∧
      SameButDates (t.combine z c now).2 (t.combine z c now').2 := by
  generalize hr : t.combine z c now = r
  cases combine_eq_iff.mp hr with
  | invalid hconfig => simp [combine_of_ends (.invalid hconfig), SameButDates]
  | noFolder hconfig hfolder => simp [combine_of_ends (.noFolder hconfig hfolder), SameButDates]
  | noImages hconfig hfound => simp [combine_of_ends (.noImages hconfig hfound), SameButDates]
  | unreadable hconfig hfound hpolicy hbefore hf =>
    simp [combine_of_ends (.unreadable hconfig hfound hpolicy hbefore hf), SameButDates]
  | noneReadable hconfig hfound hne hpolicy hnone =>
    simp [combine_of_ends (.noneReadable hconfig hfound hne hpolicy hnone), SameButDates]
  | rejected hready hbuild =>
    have hbuild' : build c.options now' _ = .error (.encode _) :=
      build_encode_iff.mpr (build_encode_iff.mp hbuild)
    simp [combine_of_ends (.rejected hready hbuild'), SameButDates]
  | unwritable hready hbuild hwrite =>
    have hbuild' : ∃ d', build c.options now' _ = .ok d' :=
      build_ok_iff.mpr (build_ok_iff.mp ⟨_, hbuild⟩)
    obtain ⟨d', hbuild'⟩ := hbuild'
    have hwrite' : t.write c.outputFile (d'.compressed z).bytes = .error _ :=
      write_eq_error.mpr (write_eq_error.mp hwrite)
    simp [combine_of_ends (.unwritable hready hbuild' hwrite'), SameButDates]
  | created hready hbuild hwrite =>
    have hbuild' : ∃ d', build c.options now' _ = .ok d' :=
      build_ok_iff.mpr (build_ok_iff.mp ⟨_, hbuild⟩)
    obtain ⟨d', hbuild'⟩ := hbuild'
    have hwrite' : ∃ t', t.write c.outputFile (d'.compressed z).bytes = .ok t' :=
      write_ok_iff.mpr (write_ok_iff.mp ⟨_, hwrite⟩)
    obtain ⟨t', hwrite'⟩ := hwrite'
    rw [combine_of_ends (.created hready hbuild' hwrite')]
    refine ⟨rfl, sameButDates_of_write hwrite hwrite' ?_⟩
    rw [undated_compressed, undated_compressed, undated_build hbuild hbuild']

end ScanBinder.Proofs
