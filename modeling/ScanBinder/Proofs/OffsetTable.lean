import ScanBinder.Pdf.Table
import ScanBinder.Proofs.Values

/-!
# The table of a written file

In the table of a written file each object has a section of its own, whose only row says where
the object starts. A section ends where the next row would be a heading. Each row that is read
is put in front of those before it.
-/

namespace ScanBinder.Proofs
open Pdf

/-! ## Rows -/

lemma paddedBytes_eq (width n : Nat) :
    paddedBytes width n =
      (List.replicate (width - (natBytes n).length) '0' ++ Nat.toDigits 10 n).map charByte := by
  rw [List.map_append, List.map_replicate, ← natBytes_eq]
  rfl

lemma natural_padded {n limit : Nat} (h : n < limit) (width : Nat) {rest : Bytes}
    (hrest : NoDigit rest) : natural limit (paddedBytes width n ++ rest) = some (n, rest) := by
  have hdigits := (allDigits_zeros (width - (natBytes n).length)).append (allDigits_toDigits n)
  rw [paddedBytes_eq, natural_digits hdigits (by simp) hrest, Nat.ofDigitChars_append,
    Nat.ofDigitChars_replicate_zero, Nat.mul_zero, Nat.ofDigitChars_ten_toDigits, if_pos h]

lemma oneSpace_cons (bs : Bytes) : oneSpace (0x20 :: bs) = some bs :=
  expect_append [0x20] bs

section
variable {offset generation : Nat} (hoffset : offset < 4294967296)
include hoffset

lemma row_used (hgeneration : generation < 65536) (rest : Bytes) :
    row (paddedBytes 10 offset ++ 0x20 :: (paddedBytes 5 generation ++ 0x20 :: 0x6E :: 0x20 ::
      0x0A :: rest)) = some (some (.plain offset generation), rest) := by
  have hgeneration' : generation < 4294967296 := by omega
  simp only [row, Option.bind_eq_bind, natural_padded hoffset 10 (noDigit_space _),
    natural_padded hgeneration' 5 (noDigit_space _), Option.bind_some, oneSpace_cons, rowEnd,
    if_pos hgeneration]
  rfl

lemma row_free (hgeneration : generation < 4294967296) (rest : Bytes) :
    row (paddedBytes 10 offset ++ 0x20 :: (paddedBytes 5 generation ++ 0x20 :: 0x66 :: 0x20 ::
      0x0A :: rest)) = some (none, rest) := by
  simp only [row, Option.bind_eq_bind, natural_padded hoffset 10 (noDigit_space _),
    natural_padded hgeneration 5 (noDigit_space _), Option.bind_some, oneSpace_cons, rowEnd]
  rfl

end

/-- The heading of a section for one object. -/
def heading (number : Nat) : Bytes :=
  natBytes number ++ [0x20, 0x31, 0x0A]

lemma natural_one (rest : Bytes) :
    natural 4294967296 (0x31 :: 0x0A :: rest) = some (1, 0x0A :: rest) :=
  natural_natBytes (n := 1) (by decide) (noDigit_cons rfl rest)

/-- A heading is not a row: its second number ends with the line. -/
lemma row_heading {number : Nat} (h : number < 4294967296) (rest : Bytes) :
    row (heading number ++ rest) = none := by
  have hspace : oneSpace (0x0A :: rest) = none := rfl
  simp only [row, heading, List.append_assoc, List.cons_append, List.nil_append,
    Option.bind_eq_bind, natural_natBytes h (noDigit_space _), Option.bind_some, oneSpace_cons,
    natural_one, hspace, Option.bind_none]

lemma sectionStart_heading {number : Nat} (h : number < 4294967296) (rest : Bytes) :
    sectionStart (heading number ++ rest) = some (number, rest) := by
  have hnumber : number < 18446744073709551616 := by omega
  have hspace : oneSpace (0x0A :: rest) = none := rfl
  have hline : lineEnd (0x0A :: rest) = some rest := rfl
  simp only [sectionStart, heading, List.append_assoc, List.cons_append, List.nil_append,
    Option.bind_eq_bind, natural_natBytes hnumber (noDigit_space _), Option.bind_some,
    oneSpace_cons, natural_one, hspace, Option.getD_none, hline]
  rfl

/-! ## Sections -/

lemma rows_of_none {bs : Bytes} (h : row bs = none) (fuel number : Nat) (t : Table) :
    rows fuel number t bs = (t, bs) := by
  cases fuel with
  | zero => rfl
  | succ fuel => rw [rows, h]

/-- A section with a single row. -/
lemma rows_single {bs rest : Bytes} {entry : Option TableEntry} (h : row bs = some (entry, rest))
    (hrest : row rest = none) (number : Nat) (t : Table) :
    rows bs.length number t bs =
      ((entry.map fun e => (number % numberLimit, e)).toList ++ t, rest) := by
  cases bs with
  | nil => cases h
  | cons b bs =>
    rw [List.length_cons, rows, h]
    cases entry with
    | none => exact rows_of_none hrest _ _ _
    | some e => exact rows_of_none hrest _ _ _

lemma sections_single {number : Nat} (hnumber : number < 4294967296) {bs rest : Bytes}
    {entry : Option TableEntry} (h : row bs = some (entry, rest)) (hrest : row rest = none)
    (fuel : Nat) (t : Table) :
    sections (fuel + 1) t (heading number ++ bs) =
      sections fuel ((entry.map fun e => (number, e)).toList ++ t) rest := by
  have hmod : number % numberLimit = number := Nat.mod_eq_of_lt hnumber
  rw [sections, sectionStart_heading hnumber]
  simp only [rows_single h hrest, hmod]

/-- The numbers that a section has room for. -/
structure RowFits (id : ObjectId) (offset : Nat) : Prop where
  number_lt : id.number < 4294967296
  generation_lt : id.generation < 65536
  offset_lt : offset < 4294967296

/-- What the table says about an object. -/
def placed (x : ObjectId × Nat) : Nat × TableEntry :=
  (x.1.number, .plain x.2 x.1.generation)

/-- The sections of objects, each with the place where it starts. -/
def placeBytes (places : List (ObjectId × Nat)) : Bytes :=
  places.flatMap fun (id, offset) => tableEntry id offset

lemma placeBytes_cons (id : ObjectId) (offset : Nat) (places : List (ObjectId × Nat))
    (rest : Bytes) :
    placeBytes ((id, offset) :: places) ++ rest = heading id.number ++ (paddedBytes 10 offset ++
      0x20 :: (paddedBytes 5 id.generation ++ 0x20 :: 0x6E :: 0x20 :: 0x0A ::
        (placeBytes places ++ rest))) := by
  have hheading : Bytes.ofText " 1\n" = [0x20, 0x31, 0x0A] := rfl
  have hend : Bytes.ofText " n \n" = [0x20, 0x6E, 0x20, 0x0A] := rfl
  simp [placeBytes, tableEntry, heading, hheading, hend]

section
variable {rest : Bytes} (hrow : row rest = none)
include hrow

/-- No section goes on into the next one. -/
lemma row_places {places : List (ObjectId × Nat)} (hfits : ∀ x ∈ places, RowFits x.1 x.2) :
    row (placeBytes places ++ rest) = none := by
  cases places with
  | nil => exact hrow
  | cons x places =>
    obtain ⟨id, offset⟩ := x
    have hx : RowFits id offset := hfits _ (List.mem_cons_self ..)
    rw [placeBytes_cons]
    exact row_heading hx.number_lt _

/-- The run over the sections: each object is put in front of those before it. -/
lemma sections_places (hstart : sectionStart rest = none) {places : List (ObjectId × Nat)}
    (hfits : ∀ x ∈ places, RowFits x.1 x.2) {fuel : Nat} (hfuel : places.length < fuel)
    (t : Table) :
    sections fuel t (placeBytes places ++ rest) = ((places.map placed).reverse ++ t, rest) := by
  induction places generalizing fuel t with
  | nil =>
    obtain ⟨fuel, rfl⟩ := Nat.exists_eq_add_of_lt hfuel
    rw [placeBytes, List.flatMap_nil, List.nil_append, sections, hstart]
    rfl
  | cons x places ih =>
    obtain ⟨id, offset⟩ := x
    have hx : RowFits id offset := hfits _ (List.mem_cons_self ..)
    have hmore := fun y hy => hfits y (List.mem_cons_of_mem _ hy)
    obtain ⟨fuel, rfl⟩ := Nat.exists_eq_succ_of_ne_zero (Nat.ne_zero_of_lt hfuel)
    rw [placeBytes_cons, sections_single hx.number_lt
      (row_used hx.offset_lt hx.generation_lt _) (row_places hrow hmore),
      ih hmore (Nat.lt_of_succ_lt_succ hfuel)]
    simp [placed]

end

/-! ## The table -/

/-- A table as it is written: the sections of the objects behind one for the number zero, which is
not in use. -/
def tableBytes (places : List (ObjectId × Nat)) : Bytes :=
  Bytes.ofText "xref\n0 1\n0000000000 65535 f \n" ++ placeBytes places

/-- The section for the number zero, up to the end of its line. -/
def unusedSection (rest : Bytes) : Bytes :=
  heading 0 ++ (paddedBytes 10 0 ++ 0x20 :: (paddedBytes 5 65535 ++ 0x20 :: 0x66 :: 0x20 :: 0x0A ::
    rest))

lemma tableBytes_eq (places : List (ObjectId × Nat)) (rest : Bytes) :
    tableBytes places ++ rest =
      Bytes.ofText "xref" ++ 0x0A :: unusedSection (placeBytes places ++ rest) := by
  have htext : Bytes.ofText "xref\n0 1\n0000000000 65535 f \n" =
      Bytes.ofText "xref" ++ 0x0A :: unusedSection [] := by decide
  rw [tableBytes, htext]
  simp [unusedSection]

lemma length_le_placeBytes (places : List (ObjectId × Nat)) :
    places.length ≤ (placeBytes places).length := by
  induction places with
  | nil => exact Nat.le_refl 0
  | cons x places ih =>
    obtain ⟨id, offset⟩ := x
    have hbytes := congrArg List.length (placeBytes_cons id offset places [])
    simp only [List.length_append, List.length_cons, List.length_nil] at hbytes ⊢
    omega

lemma sections_table {places : List (ObjectId × Nat)} (hfits : ∀ x ∈ places, RowFits x.1 x.2)
    {rest : Bytes} (hrow : row rest = none) (hstart : sectionStart rest = none) :
    sections ((unusedSection (placeBytes places ++ rest)).length + 1) []
      (unusedSection (placeBytes places ++ rest)) = ((places.map placed).reverse, rest) := by
  have hlength : places.length < (unusedSection (placeBytes places ++ rest)).length := by
    have hplaces := length_le_placeBytes places
    simp only [unusedSection, List.length_append, List.length_cons]
    omega
  rw [unusedSection] at hlength ⊢
  rw [sections_single (by decide) (row_free (by decide) (by decide) _) (row_places hrow hfits),
    sections_places hrow hstart hfits hlength]
  simp

/-- The trailer of a table, as it is written. -/
def trailerBytes (trailer : Dict) : Bytes :=
  Bytes.ofText "trailer\n" ++ (Value.dict trailer).bytes

lemma trailer_bytes {trailer : Dict} (hsound : Sound (.dict trailer))
    (h : Writable (.dict trailer)) (rest : Bytes) :
    ∃ bs trailer', keyword "trailer" (space (trailerBytes trailer ++ rest)) = some bs ∧
      dictionary (fuelFor bs) (space bs) = some (trailer', rest) ∧
      KeptEntries trailer trailer' := by
  have htext : Bytes.ofText "trailer\n" = Bytes.ofText "trailer" ++ [0x0A] := by decide
  have hbytes : trailerBytes trailer ++ rest =
      Bytes.ofText "trailer" ++ 0x0A :: ((Value.dict trailer).bytes ++ rest) := by
    simp [trailerBytes, htext]
  have hsolid : Solid (trailerBytes trailer ++ rest) := ⟨0x74, _, rfl, rfl, by decide⟩
  have hfuel : (Value.dict trailer).bytes.length ≤
      fuelFor (0x0A :: ((Value.dict trailer).bytes ++ rest)) := by
    simp only [fuelFor, List.length_cons, List.length_append]
    omega
  obtain ⟨trailer', hdict, hkept⟩ := (readsBack _).dictionary trailer rest hsound h hfuel
  refine ⟨0x0A :: ((Value.dict trailer).bytes ++ rest), trailer', ?_, ?_, hkept⟩
  · rw [space_of_solid hsolid, hbytes, keyword_append]
  · rw [space_cons rfl, space_of_solid ((solid_bytes _).append rest), hdict]

/-- A written table is read back with its trailer. -/
theorem textTable_bytes {places : List (ObjectId × Nat)} (hfits : ∀ x ∈ places, RowFits x.1 x.2)
    {trailer : Dict} (hsound : Sound (.dict trailer)) (htrailer : Writable (.dict trailer))
    (rest : Bytes) :
    ∃ trailer', textTable (tableBytes places ++ (trailerBytes trailer ++ rest)) =
        some ((places.map placed).reverse, trailer') ∧ KeptEntries trailer trailer' := by
  obtain ⟨bs, trailer', hkeyword, hdict, hkept⟩ := trailer_bytes hsound htrailer rest
  generalize hafter : trailerBytes trailer ++ rest = after at hkeyword ⊢
  have hsections := sections_table hfits (show row after = none by rw [← hafter]; rfl)
    (show sectionStart after = none by rw [← hafter]; rfl)
  have hxref : ∀ bs, (keyword "xref" (Bytes.ofText "xref" ++ 0x0A :: bs)).bind lineEnd =
      some bs := by
    intro bs
    rw [keyword_append]
    rfl
  have hfirst : sectionStart (unusedSection (placeBytes places ++ after)) = some (0, _) :=
    sectionStart_heading (by decide) _
  refine ⟨trailer', ?_, hkept⟩
  rw [tableBytes_eq]
  simp only [textTable, Option.bind_eq_bind, hxref, Option.bind_some, hfirst, hsections, hkeyword,
    hdict]
  rfl

end ScanBinder.Proofs
