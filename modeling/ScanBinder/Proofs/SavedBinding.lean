import ScanBinder.Proofs.CompressedStreams

/-!
# Saving a document of images

A document that was built from images can be read from its compressed file, if the file is not
too long for the table. All its objects come back if the images have page sizes that can be read
back and the title and the author do not nest parentheses too deep.
-/

namespace ScanBinder.Proofs
open Pdf

/-! ## Texts -/

lemma deepest_of_not_mem {s : Bytes} (h : 0x28 ∉ s) (opened : Nat) : deepest opened s = opened := by
  induction s generalizing opened with
  | nil => rfl
  | cons b s ih =>
    have hopen : b ≠ 0x28 := by
      rintro rfl
      exact h (List.mem_cons_self ..)
    have hmore := ih fun hs => h (List.mem_cons_of_mem _ hs)
    rw [deepest, if_neg hopen, hmore, hmore]
    split_ifs <;> omega

lemma not_mem_padded {b : UInt8} (h : decimalDigit? b = none) (width n : Nat) :
    b ∉ Bytes.ofText (Moment.padded width n) := by
  have hdigits : AllDigits ((Nat.toDigits 10 n).leftpad width '0') :=
    (allDigits_zeros _).append (allDigits_toDigits n)
  unfold Moment.padded
  rw [ofText_ofList hdigits.toNat_lt]
  exact not_mem_digits hdigits h

/-- A date has no parentheses. -/
lemma writable_date (now : Moment) : Writable (.str (Bytes.ofText now.documentText)) := by
  have hnot : (0x28 : UInt8) ∉ Bytes.ofText now.documentText := by
    have hstart : (0x28 : UInt8) ∉ Bytes.ofText "D:" := by decide
    have hend : (0x28 : UInt8) ∉ Bytes.ofText "Z" := by decide
    have hpadded := not_mem_padded (show decimalDigit? 0x28 = none from rfl)
    simp only [Moment.documentText, ofText_append, List.mem_append, hstart, hend, hpadded, or_self,
      not_false_eq_true]
  have hdeepest := deepest_of_not_mem hnot 0
  exact hdeepest.trans_le (Nat.zero_le _)

/-! ## Objects -/

lemma sound_dict {d : Dict} (keys : List String) (hkeys : d.map Prod.fst = keys.map Bytes.ofText)
    (hnodup : keys.Nodup) (h : SoundEntries d) : Sound (.dict d) := by
  refine ⟨h, ?_⟩
  rw [hkeys]
  exact List.Pairwise.map _ (fun _ _ hne heq => hne (ofText_injective heq)) hnodup

lemma sound_refTo {n : Nat} (h : n < 4294967296) : Sound (refTo n) :=
  ⟨h, Nat.zero_lt_succ _⟩

lemma writable_natural {n : Nat} (h : n < 9223372036854775808) : Writable (.int n) :=
  ⟨by omega, by omega⟩

section
variable {z : Packer} {dict : Dict} {data : Bytes} {compressible : Bool}

lemma isPacked_streamOf (htype : dict.get? "Type" ≠ some (.name (Bytes.ofText "ObjStm"))) :
    (streamOf dict data compressible).isPacked = false := by
  unfold Stream.isPacked
  rw [streamOf_get? dict data compressible (by decide)]
  split
  · next n hn =>
    apply decide_eq_false
    rintro rfl
    exact htype hn
  · rfl

lemma sound_compressed (hdict : Sound (.dict dict))
    (htype : dict.get? "Type" ≠ some (.name (Bytes.ofText "ObjStm"))) :
    SoundObject (.stream ((streamOf dict data compressible).compressed z)) := by
  have hstream : Sound (.dict (streamOf dict data compressible).dict) := sound_set hdict _ trivial
  have hplain : (streamOf dict data compressible).isPacked = false := isPacked_streamOf htype
  rcases compressed_cases z (streamOf dict data compressible) with hsame | ⟨_, hpacked⟩
  · rw [hsame]
    exact ⟨hstream, get?_set_same _ _ _, hplain⟩
  · have hfiltered : Sound (.dict (Dict.set (streamOf dict data compressible).dict
        (Bytes.ofText "Filter") (.name flateFilter))) := sound_set hstream _ trivial
    rw [hpacked]
    exact ⟨sound_set hfiltered _ trivial, get?_set_same _ _ _, (isPacked_packed _ _).trans hplain⟩

/-- Only the length that is written has to have room. -/
lemma writable_compressed (hdict : Writable (.dict dict))
    (hdata : ((streamOf dict data compressible).compressed z).data.length < 9223372036854775808) :
    WritableObject (.stream ((streamOf dict data compressible).compressed z)) := by
  rcases compressed_cases z (streamOf dict data compressible) with hsame | ⟨_, hpacked⟩
  · rw [hsame] at hdata ⊢
    exact writable_set hdict _ (writable_natural hdata)
  · rw [hpacked] at hdata ⊢
    refine writableEntries_iff.mpr fun x hx => ?_
    rcases mem_set hx with rfl | ⟨hx, hlength⟩
    · exact writable_natural hdata
    · rcases mem_set hx with rfl | ⟨hx, _⟩
      · trivial
      · rcases mem_set hx with rfl | ⟨hx, _⟩
        · exact absurd rfl hlength
        · exact writableEntries_iff.mp hdict x hx

end

/-- The rectangle of the page that an image fills. -/
def pageBox (options : DocumentOptions) (image : Raster (Rgb UInt8)) : Box :=
  (PageSize.ofImage image.width image.height options.resolution).mediaBox

/-- The page of an image whose width and height can be read back. -/
def PageFits (options : DocumentOptions) (image : Raster (Rgb UInt8)) : Prop :=
  Readable (pageBox options image).right ∧ Readable (pageBox options image).top

instance (options : DocumentOptions) : DecidablePred (PageFits options) :=
  fun _ => inferInstanceAs (Decidable (_ ∧ _))

/-- What a document of images has room for. -/
structure WithinLimits (options : DocumentOptions) (images : List (Raster (Rgb UInt8))) : Prop where
  title_depth : ∀ s ∈ options.title, deepest 0 (Bytes.ofText s) ≤ nestingLimit
  author_depth : ∀ s ∈ options.author, deepest 0 (Bytes.ofText s) ≤ nestingLimit
  image_size : ∀ image ∈ images,
    image.width < 9223372036854775808 ∧ image.height < 9223372036854775808
  page_size : ∀ image ∈ images, PageFits options image

lemma WithinLimits.isFinite {options : DocumentOptions} {images : List (Raster (Rgb UInt8))}
    (h : WithinLimits options images) : ∀ image ∈ images,
      (pageBox options image).right.isFinite = true ∧
        (pageBox options image).top.isFinite = true := by
  intro image himage
  obtain ⟨hright, htop⟩ := h.page_size image himage
  exact ⟨hright.1, htop.1⟩

lemma sound_infoDict (options : DocumentOptions) (now : Moment) :
    Sound (.dict (infoDict options now)) := by
  unfold infoDict
  cases options.title with
  | none =>
    cases options.author with
    | none =>
      exact sound_dict ["Producer", "CreationDate", "ModDate"] rfl (by decide)
        ⟨trivial, trivial, trivial, trivial⟩
    | some author =>
      exact sound_dict ["Producer", "CreationDate", "ModDate", "Author"] rfl (by decide)
        ⟨trivial, trivial, trivial, trivial, trivial⟩
  | some title =>
    cases options.author with
    | none =>
      exact sound_dict ["Producer", "CreationDate", "ModDate", "Title"] rfl (by decide)
        ⟨trivial, trivial, trivial, trivial, trivial⟩
    | some author =>
      exact sound_dict ["Producer", "CreationDate", "ModDate", "Title", "Author"] rfl (by decide)
        ⟨trivial, trivial, trivial, trivial, trivial, trivial⟩

lemma writable_infoDict {options : DocumentOptions} {images : List (Raster (Rgb UInt8))}
    (h : WithinLimits options images) (now : Moment) : Writable (.dict (infoDict options now)) := by
  have hproducer : Writable (.str (Bytes.ofText producer)) := by decide
  have hdate := writable_date now
  refine writableEntries_iff.mpr fun x hx => ?_
  simp only [infoDict, List.mem_append, List.mem_cons, List.not_mem_nil, or_false,
    Option.mem_toList, Option.map_eq_some_iff] at hx
  rcases hx with ((rfl | rfl | rfl) | ⟨title, htitle, rfl⟩) | ⟨author, hauthor, rfl⟩
  · exact hproducer
  · exact hdate
  · exact hdate
  · exact h.title_depth title htitle
  · exact h.author_depth author hauthor

/-- The streams that an image may be stored as. -/
lemma imageStream_eq {encoding : PageEncoding} {image : Raster (Rgb UInt8)} {s : Stream}
    (h : imageStream encoding image = .ok s) : ∃ dict data compressible,
      s = streamOf dict data compressible ∧ (dict = imageDict image ∨
        dict = imageDict image ++ [entry "Filter" (nameValue "DCTDecode")]) := by
  rcases imageStream_cases h with ⟨_, rfl⟩ | ⟨quality, data, _, _, rfl⟩
  · exact ⟨_, _, _, rfl, .inl rfl⟩
  · exact ⟨_, _, _, rfl, .inr rfl⟩

section
variable {z : Packer} {encoding : PageEncoding} {image : Raster (Rgb UInt8)} {s : Stream}
  (hs : imageStream encoding image = .ok s)
include hs

lemma sound_imageStream : SoundObject (.stream (s.compressed z)) := by
  obtain ⟨dict, data, compressible, rfl, rfl | rfl⟩ := imageStream_eq hs
  · exact sound_compressed
      (sound_dict ["Type", "Subtype", "Width", "Height", "ColorSpace", "BitsPerComponent"] rfl
        (by decide) ⟨trivial, trivial, trivial, trivial, trivial, trivial, trivial⟩)
      (by simp [imageDict, nameValue]; decide)
  · exact sound_compressed
      (sound_dict ["Type", "Subtype", "Width", "Height", "ColorSpace", "BitsPerComponent",
        "Filter"] rfl (by decide)
        ⟨trivial, trivial, trivial, trivial, trivial, trivial, trivial, trivial⟩)
      (by simp [imageDict, nameValue]; decide)

/-- An image can be written however it is stored. -/
lemma writable_imageStream
    (hsize : image.width < 9223372036854775808 ∧ image.height < 9223372036854775808)
    (hdata : (s.compressed z).data.length < 9223372036854775808) :
    WritableObject (.stream (s.compressed z)) := by
  have hwidth := writable_natural hsize.1
  have hheight := writable_natural hsize.2
  have hbits : Writable (.int 8) := by decide
  obtain ⟨dict, data, compressible, rfl, rfl | rfl⟩ := imageStream_eq hs
  · exact writable_compressed ⟨trivial, trivial, hwidth, hheight, trivial, hbits, trivial⟩ hdata
  · exact writable_compressed ⟨trivial, trivial, hwidth, hheight, trivial, hbits, trivial, trivial⟩
      hdata

end

lemma sound_pageDict {pages drawing image : Nat} (hpages : pages < 4294967296)
    (hdrawing : drawing < 4294967296) (himage : image < 4294967296) (width height : Single) :
    Sound (.dict (pageDict pages drawing image width height)) := by
  have hbox : Sound (.array [.int 0, .int 0, .real width, .real height]) :=
    ⟨trivial, trivial, trivial, trivial, trivial⟩
  have hobjects : Sound (.dict [entry "Im0" (refTo image)]) :=
    sound_dict ["Im0"] rfl (by decide) ⟨sound_refTo himage, trivial⟩
  have hresources : Sound (.dict [entry "XObject" (.dict [entry "Im0" (refTo image)])]) :=
    sound_dict ["XObject"] rfl (by decide) ⟨hobjects, trivial⟩
  exact sound_dict ["Type", "Parent", "MediaBox", "Contents", "Resources"] rfl (by decide)
    ⟨trivial, sound_refTo hpages, hbox, sound_refTo hdrawing, hresources, trivial⟩

/-- A page can be written if its width and its height can be read back. -/
lemma writable_pageDict_iff {pages drawing image : Nat} {width height : Single} :
    Writable (.dict (pageDict pages drawing image width height)) ↔
      Readable width ∧ Readable height := by
  have hzero : Writable (.int 0) := by decide
  constructor
  · rintro ⟨_, _, ⟨_, _, hwidth, hheight, _⟩, _⟩
    exact ⟨hwidth, hheight⟩
  · rintro ⟨hwidth, hheight⟩
    exact ⟨trivial, trivial, ⟨hzero, hzero, hwidth, hheight, trivial⟩, trivial,
      ⟨⟨trivial, trivial⟩, trivial⟩, trivial⟩

lemma sound_pagesDict {kids : List Nat} (h : ∀ n ∈ kids, n < 4294967296) :
    Sound (.dict (pagesDict kids)) := by
  have hkids : Sound (.array (kids.map refTo)) := by
    induction kids with
    | nil => trivial
    | cons n kids ih =>
      exact ⟨sound_refTo (h n (List.mem_cons_self ..)),
        ih fun m hm => h m (List.mem_cons_of_mem _ hm)⟩
  exact sound_dict ["Type", "Count", "Kids"] rfl (by decide) ⟨trivial, trivial, hkids, trivial⟩

lemma writable_pagesDict {kids : List Nat} (hlength : kids.length < 9223372036854775808) :
    Writable (.dict (pagesDict kids)) := by
  have hkids : Writable (.array (kids.map refTo)) := by
    clear hlength
    induction kids with
    | nil => trivial
    | cons n kids ih => exact ⟨trivial, ih⟩
  exact ⟨trivial, writable_natural hlength, hkids, trivial⟩

lemma sound_catalogDict : Sound (.dict (catalogDict 1)) :=
  sound_dict ["Type", "Pages"] rfl (by decide) ⟨trivial, sound_refTo (by decide), trivial⟩

/-! ## Documents -/

/-- No object is longer than the file. -/
lemma indirectBytes_length_le {d : Document} {x : ObjectId × Object} (hx : x ∈ d.objects) :
    (indirectBytes x.1 x.2).length ≤ d.bytes.length := by
  obtain ⟨place, _, _, rest, hdrop⟩ := exists_of_forall₂_left (offsets_startsAt (bytes_eq d)) hx
  have hlength := congrArg List.length hdrop
  rw [List.length_drop, List.length_append] at hlength
  omega

lemma data_length_le {d : Document} {id : ObjectId} {s : Stream}
    (hs : (id, Object.stream s) ∈ d.objects) : s.data.length ≤ d.bytes.length := by
  have hlength := indirectBytes_length_le hs
  simp only [indirectBytes, Object.bytes, List.length_append, List.length_cons] at hlength
  omega

lemma length_le_bodyBytes (objects : List (ObjectId × Object)) :
    objects.length ≤ (bodyBytes objects).length := by
  induction objects with
  | nil => exact Nat.le_refl 0
  | cons x objects ih =>
    obtain ⟨id, o⟩ := x
    have hbody : bodyBytes ((id, o) :: objects) = indirectBytes id o ++ bodyBytes objects := rfl
    rw [hbody, List.length_append, List.length_cons, indirectBytes]
    simp only [List.length_append, List.length_cons]
    omega

/-- There are fewer objects than bytes. -/
lemma objects_length_lt (d : Document) : d.objects.length + 2 < d.bytes.length := by
  have htext : (Bytes.ofText "xref\n0 1\n0000000000 65535 f \n").length = 29 := rfl
  have hbody := length_le_bodyBytes d.objects
  rw [bytes_eq, tableBytes]
  simp only [List.length_append, htext]
  omega

/-- A document whose objects are numbered from one on can be read from its file if its objects and
its trailer are sound, and the file is not too long. -/
lemma fits_of_numbered {d : Document} {n : Nat} (hversion : d.version = "1.5")
    (hids : d.objects.map Prod.fst = (List.range' 1 n).map fun k => (⟨k, 0⟩ : ObjectId))
    (hobjects : ∀ x ∈ d.objects, SoundObject x.2) (hsound : Sound (.dict d.trailer))
    (htrailer : Writable (.dict d.trailer))
    (hkeys : ∀ key ∈ ["Size", "Prev", "Encrypt"], d.trailer.get? key = none)
    (hlength : d.bytes.length < 4294967296) : Fits d := by
  have hcount : n + 2 < d.bytes.length := by
    have hn := congrArg List.length hids
    rw [List.length_map, List.length_map, List.length_range'] at hn
    exact hn ▸ objects_length_lt d
  have hid : ∀ x ∈ d.objects, x.1.number ≤ n ∧ x.1.generation = 0 := by
    intro x hx
    have hmem : x.1 ∈ d.objects.map Prod.fst := List.mem_map.mpr ⟨x, hx, rfl⟩
    rw [hids] at hmem
    obtain ⟨k, hk, hxk⟩ := List.mem_map.mp hmem
    rw [List.mem_range'_1] at hk
    rw [← hxk]
    exact ⟨by dsimp only; omega, rfl⟩
  have hnumbers : (d.objects.map fun x => x.1.number) = List.range' 1 n := by
    have hmap := congrArg (List.map ObjectId.number) hids
    simpa [Function.comp_def] using hmap
  have htext : Bytes.ofText "1.5" = [0x31, 0x2E, 0x35] := rfl
  exact
    { version_line := by
        rw [hversion]
        simp [htext, isLineEnd]
      numbers_increase := by
        rw [hnumbers]
        exact List.pairwise_lt_range'
      number_lt := fun x hx => by
        have hx := (hid x hx).1
        rw [numberLimit]
        omega
      generation_lt := fun x hx => by
        rw [(hid x hx).2]
        decide
      objects_sound := hobjects
      trailer_sound := hsound
      trailer_writable := htrailer
      no_size := hkeys _ (by simp)
      no_previous := hkeys _ (by simp)
      no_guard := hkeys _ (by simp)
      length_lt := hlength }

section
variable {options : DocumentOptions} {now : Moment} {images : List (Raster (Rgb UInt8))}
  {stored : List (Raster (Rgb UInt8) × Stream)}

lemma boundDocument_length :
    (boundDocument options now stored).objects.length = 3 * stored.length + 3 := by
  have hids := congrArg List.length (boundDocument_ids options now stored)
  simpa using hids

lemma sound_of_mem_pageObjects {z : Packer} {last : Nat} {image : Raster (Rgb UInt8)}
    {s : Stream} {x : ObjectId × Object} (hx : x ∈ pageObjects options 1 last image s)
    (hs : imageStream options.encoding image = .ok s) (hlast : last + 3 < 4294967296) :
    SoundObject (x.2.compressed z) := by
  simp only [pageObjects, List.mem_cons, List.not_mem_nil, or_false] at hx
  rcases hx with rfl | rfl | rfl
  · exact sound_imageStream hs
  · have hempty : Sound (.dict []) := ⟨trivial, List.nodup_nil⟩
    exact sound_compressed hempty (by simp)
  · exact sound_pageDict (by decide) (by omega) (by omega) _ _

section
variable {z : Packer} (hstored : ∀ x ∈ stored, imageStream options.encoding x.1 = .ok x.2)
  (hlength : ((boundDocument options now stored).compressed z).bytes.length < 4294967296)
include hlength

/-- There are not more objects than have room. -/
lemma stored_length_lt : 3 * stored.length + 5 < 4294967296 := by
  have hcount := objects_length_lt ((boundDocument options now stored).compressed z)
  rw [compressed_length, boundDocument_length] at hcount
  omega

/-- No data is longer than has room. -/
lemma data_length_lt {id : ObjectId} {s : Stream}
    (hs : (id, .stream s) ∈ (boundDocument options now stored).objects) :
    (s.compressed z).data.length < 9223372036854775808 := by
  have hmem : (id, Object.stream (s.compressed z)) ∈
      ((boundDocument options now stored).compressed z).objects :=
    List.mem_map.mpr ⟨_, hs, rfl⟩
  have hle := data_length_le hmem
  omega

lemma writable_drawing {id : ObjectId} {drawing : Bytes}
    (h : (id, .stream (streamOf [] drawing true)) ∈ (boundDocument options now stored).objects) :
    WritableObject (.stream ((streamOf [] drawing true).compressed z)) :=
  writable_compressed (show Writable (.dict []) from trivial) (data_length_lt hlength h)

include hstored

lemma boundDocument_sound :
    ∀ x ∈ ((boundDocument options now stored).compressed z).objects, SoundObject x.2 := by
  have hcount := stored_length_lt hlength
  intro y hy
  obtain ⟨x, hx, rfl⟩ := List.mem_map.mp hy
  dsimp only
  rcases List.mem_cons.mp hx with rfl | hx
  · apply sound_pagesDict
    intro n hn
    obtain ⟨k, hk, rfl⟩ := List.mem_map.mp hn
    rw [List.mem_range] at hk
    rw [pageNumber]
    omega
  · rcases List.mem_append.mp hx with hx | hx
    · obtain ⟨k, hk, hx⟩ := mem_allObjects.mp hx
      exact sound_of_mem_pageObjects hx (hstored _ (List.getElem_mem hk)) (by omega)
    · simp only [List.mem_cons, List.not_mem_nil, or_false] at hx
      rcases hx with rfl | rfl
      · exact sound_catalogDict
      · exact sound_infoDict options now

lemma boundDocument_fits : Fits ((boundDocument options now stored).compressed z) := by
  have hcount := stored_length_lt hlength
  refine fits_of_numbered rfl ((ids_compressed z _).trans (boundDocument_ids options now stored))
    (boundDocument_sound hstored hlength) ?_ ?_ ?_ hlength
  · exact sound_dict ["Root", "Info"] rfl (by decide)
      ⟨sound_refTo (by omega), sound_refTo (by omega), trivial⟩
  · exact ⟨trivial, trivial, trivial⟩
  · simp [boundDocument, Document.compressed]

lemma boundDocument_writable (himages : ∀ x ∈ stored, x.1 ∈ images)
    (hlimits : WithinLimits options images) {id : ObjectId} {o : Object}
    (ho : (boundDocument options now stored).object? id = some o) :
    WritableObject (o.compressed z) := by
  have hcount := stored_length_lt hlength
  have hmem := mem_of_object? ho
  rcases List.mem_cons.mp hmem with hx | hx
  · cases hx
    apply writable_pagesDict
    rw [List.length_map, List.length_range]
    omega
  · rcases List.mem_append.mp hx with hx | hx
    · obtain ⟨k, hk, hx⟩ := mem_allObjects.mp hx
      have himage := himages _ (List.getElem_mem hk)
      simp only [pageObjects, List.mem_cons, List.not_mem_nil, or_false, Prod.mk.injEq] at hx
      rcases hx with ⟨_, rfl⟩ | ⟨_, rfl⟩ | ⟨_, rfl⟩
      · exact writable_imageStream (hstored _ (List.getElem_mem hk)) (hlimits.image_size _ himage)
          (data_length_lt hlength hmem)
      · -- Unification would compute the length of the drawing.
        generalize drawingBytes _ = drawing at hmem ⊢
        exact writable_drawing hlength hmem
      · exact writable_pageDict_iff.mpr (hlimits.page_size _ himage)
    · simp only [List.mem_cons, List.not_mem_nil, or_false, Prod.mk.injEq] at hx
      rcases hx with ⟨_, rfl⟩ | ⟨_, rfl⟩
      · exact ⟨trivial, trivial, trivial⟩
      · exact writable_infoDict hlimits now

end

/-- No stream of a document of images speaks of parameters of a filter. -/
lemma boundDocument_withoutParameters
    (hstored : ∀ x ∈ stored, imageStream options.encoding x.1 = .ok x.2) :
    WithoutParameters (boundDocument options now stored) := by
  intro id s hs
  rcases List.mem_cons.mp (mem_of_object? hs) with hx | hx
  · cases hx
  · rcases List.mem_append.mp hx with hx | hx
    · obtain ⟨k, hk, hx⟩ := mem_allObjects.mp hx
      simp only [pageObjects, List.mem_cons, List.not_mem_nil, or_false] at hx
      rcases hx with hx | hx | hx
      · cases hx
        rcases imageStream_cases (hstored _ (List.getElem_mem hk)) with
          ⟨_, hstream⟩ | ⟨_, _, _, _, hstream⟩
        · simp [hstream, streamOf_get?, imageDict]
        · simp [hstream, streamOf_get?, imageDict]
      · cases hx
        simp [streamOf_get?]
      · cases hx
    · simp only [List.mem_cons, List.not_mem_nil, or_false] at hx
      rcases hx with hx | hx
      · cases hx
      · cases hx

end

section
variable {z : Packer} {options : DocumentOptions} {now : Moment}
  {images : List (Raster (Rgb UInt8))} {d d' : Document}

/-- A file that keeps the objects of the compressed document keeps those of the document. -/
theorem keepsObjects_of_build (hbuild : build options now images = .ok d)
    (h : KeepsObjects (d.compressed z) d') : KeepsObjects d d' := by
  obtain ⟨streams, hs, rfl⟩ := boundDocument_of_build hbuild
  exact h.of_compressed (boundDocument_withoutParameters (stored_of_mem_zip hs))

/-- A document of images is read from its file, as far as it is within the limits. -/
theorem holdsDocument_of_build (hbuild : build options now images = .ok d)
    (hlength : (d.compressed z).bytes.length < 4294967296) :
    HoldsDocument z (d.compressed z).bytes d := by
  obtain ⟨streams, hs, rfl⟩ := boundDocument_of_build hbuild
  have hstored := stored_of_mem_zip hs
  exact (boundDocument_fits hstored hlength).holdsDocument (boundDocument_withoutParameters hstored)

/-- A document of images within the limits comes back from its file with all its objects. -/
theorem savedWhole_of_build (hbuild : build options now images = .ok d)
    (hlimits : WithinLimits options images)
    (hlength : (d.compressed z).bytes.length < 4294967296) : SavedWhole (d.compressed z) := by
  obtain ⟨streams, hs, rfl⟩ := boundDocument_of_build hbuild
  have hstored := stored_of_mem_zip hs
  refine (boundDocument_fits hstored hlength).savedWhole ?_
  intro x hx
  obtain ⟨y, hy, rfl⟩ := List.mem_map.mp hx
  exact boundDocument_writable hstored hlength (fun x hx => (List.of_mem_zip hx).1) hlimits
    (object?_of_mem (boundDocument_ids_nodup ..) hy)

end

end ScanBinder.Proofs
