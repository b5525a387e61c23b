import ScanBinder.Pdf.Load
import ScanBinder.Proofs.OffsetTable

/-!
# A saved document is read back

The end of a written file leads to its table, the table to the objects. An object is read back
from the place where it was written if it is within the limits of the format, and nothing is read
there if it is not.
-/

namespace ScanBinder.Proofs
open Pdf

/-! ## Objects -/

/-- An object that can be told from its written form. A stream has to give the length of its
data, and not to say that it holds other objects. -/
def SoundObject : Object → Prop
  | .value v => Sound v
  | .stream s => Sound (.dict s.dict) ∧ s.dict.get? "Length" = some (.int s.data.length) ∧
      s.isPacked = false

/-- An object within the limits of the format. -/
def WritableObject : Object → Prop
  | .value v => Writable v
  | .stream s => Writable (.dict s.dict)

instance : DecidablePred WritableObject
  | .value v => inferInstanceAs (Decidable (Writable v))
  | .stream s => inferInstanceAs (Decidable (Writable (.dict s.dict)))

lemma dictionary_of_head {b : UInt8} (h : b ≠ 0x3C) (fuel : Nat) (bs : Bytes) :
    dictionary fuel (b :: bs) = none := by
  cases fuel with
  | zero => rfl
  | succ fuel =>
    unfold dictionary
    split
    · next heq =>
      cases heq
      exact absurd rfl h
    · rfl

/-- What stands behind the written form of an object. -/
def objectEnd (rest : Bytes) : Bytes :=
  Bytes.ofText "\nendobj\n" ++ rest

lemma clear_objectEnd (rest : Bytes) : Clear (objectEnd rest) :=
  clear_cons (.inr rfl) rfl (by decide) rfl (by decide) _

/-- A value is not taken for a stream. -/
lemma stream_value (lengthOf : ObjectId → Option Int) {v : Value} (h : Sound v) (rest : Bytes) :
    stream lengthOf (v.bytes ++ objectEnd rest) = .notStream := by
  obtain ⟨b, r, hb, _, _, _, _, hdict⟩ := bytes_head v
  by_cases hbracket : b = 0x3C
  · obtain ⟨d, rfl⟩ := hdict hbracket
    unfold stream
    by_cases hd : Writable (.dict d)
    · obtain ⟨e, he, _⟩ := dictionary_bytes h hd (objectEnd rest)
      have hword : keyword "stream" (space (objectEnd rest)) = none := rfl
      simp only [he, hword, Option.bind_none]
    · rw [dictionary_eq_none h hd]
  · unfold stream
    rw [hb, List.cons_append, dictionary_of_head hbracket]

/-- The data of a stream between its two words. -/
def dataBytes (data rest : Bytes) : Bytes :=
  Bytes.ofText "stream" ++ 0x0A :: (data ++ 0x0A :: (Bytes.ofText "endstream" ++ rest))

lemma streamBytes_eq (s : Stream) (rest : Bytes) :
    (Object.stream s).bytes ++ rest = (Value.dict s.dict).bytes ++ dataBytes s.data rest := by
  have hstart : Bytes.ofText "stream\n" = Bytes.ofText "stream" ++ [0x0A] := by decide
  have hend : Bytes.ofText "\nendstream" = 0x0A :: Bytes.ofText "endstream" := by decide
  simp [Object.bytes, dataBytes, hstart, hend]

/-- The data of a stream is read back, because its dictionary tells how long it is. -/
lemma stream_bytes (lengthOf : ObjectId → Option Int) {s : Stream}
    (hs : SoundObject (.stream s)) (h : WritableObject (.stream s)) (rest : Bytes) :
    ∃ s', stream lengthOf ((Object.stream s).bytes ++ rest) = .read s' ∧
      KeptEntries s.dict s'.dict ∧ s'.data = s.data := by
  obtain ⟨hdict, hlength, _⟩ := hs
  obtain ⟨e, he, hkept⟩ := dictionary_bytes hdict h (dataBytes s.data rest)
  have hsolid : Solid (dataBytes s.data rest) := ⟨0x73, _, rfl, rfl, by decide⟩
  have hstart : (keyword "stream" (space (dataBytes s.data rest))).bind
      (fun rest => lineEnd (skipBlanks rest)) =
        some (s.data ++ 0x0A :: (Bytes.ofText "endstream" ++ rest)) := by
    rw [space_of_solid hsolid, dataBytes, keyword_append]
    rfl
  have hsplit : ∀ bs, Bytes.split? s.data.length (s.data ++ bs) = some (s.data, bs) := by
    intro bs
    simp [Bytes.split?]
  have hline : ∀ bs, lineEnd (0x0A :: bs) = some bs := fun _ => rfl
  refine ⟨⟨e, s.data, true⟩, ?_, hkept, rfl⟩
  rw [streamBytes_eq]
  unfold stream
  simp only [he, hstart, hkept.get?_int hlength, Int.toNat_natCast, hsplit, hline,
    Option.getD_some, keyword_append]
  exact if_neg (by omega)

/-- A stream whose dictionary is beyond the limits is not read as anything. -/
lemma stream_refused (lengthOf : ObjectId → Option Int) {s : Stream}
    (hs : SoundObject (.stream s)) (h : ¬WritableObject (.stream s)) (rest : Bytes) :
    stream lengthOf ((Object.stream s).bytes ++ rest) = .notStream ∧
      value (fuelFor ((Object.stream s).bytes ++ rest)) ((Object.stream s).bytes ++ rest) =
        none := by
  have hfuel : (Value.dict s.dict).bytes.length <
      fuelFor ((Value.dict s.dict).bytes ++ dataBytes s.data rest) - 1 := by
    rw [fuelFor, List.length_append, dataBytes]
    simp only [List.length_append, List.length_cons]
    omega
  have hnone := fun fuel hfuel =>
    (refuses fuel).dictionary s.dict (dataBytes s.data rest) hs.1 h hfuel
  rw [streamBytes_eq]
  constructor
  · unfold stream
    rw [hnone _ (by omega)]
  · obtain ⟨fuel, hsucc⟩ : ∃ fuel,
        fuelFor ((Value.dict s.dict).bytes ++ dataBytes s.data rest) = fuel + 1 := ⟨_, rfl⟩
    rw [hsucc] at hfuel ⊢
    rw [value_dict, hnone fuel (by omega)]
    rfl

lemma solid_object (o : Object) : Solid o.bytes := by
  cases o with
  | value v => exact solid_bytes v
  | stream s =>
    have hbytes := streamBytes_eq s []
    rw [List.append_nil] at hbytes
    rw [hbytes]
    exact (solid_bytes _).append _

lemma objectStart_bytes {id : ObjectId} (hnumber : id.number < 4294967296)
    (hgeneration : id.generation < 65536) (o : Object) (rest : Bytes) :
    objectStart none (indirectBytes id o ++ rest) = some (id, o.bytes ++ objectEnd rest) := by
  have hstart : Bytes.ofText " obj\n" = 0x20 :: (Bytes.ofText "obj" ++ [0x0A]) := by decide
  have hbytes : indirectBytes id o ++ rest = natBytes id.number ++ 0x20 ::
      (natBytes id.generation ++ 0x20 :: (Bytes.ofText "obj" ++ 0x0A ::
        (o.bytes ++ objectEnd rest))) := by
    simp [indirectBytes, hstart, objectEnd]
  have hsolid : Solid (Bytes.ofText "obj" ++ 0x0A :: (o.bytes ++ objectEnd rest)) :=
    ⟨0x6F, _, rfl, rfl, by decide⟩
  rw [hbytes]
  unfold objectStart
  rw [space_of_solid ((solid_natBytes _).append _), objectId_bytes hnumber hgeneration]
  simp only [space_of_solid hsolid, keyword_append, space_cons (b := 0x0A) rfl,
    space_of_solid ((solid_object o).append _)]
  rfl

section
variable (lengthOf : ObjectId → Option Int) {id : ObjectId} (hnumber : id.number < 4294967296)
  (hgeneration : id.generation < 65536) {o : Object} (ho : SoundObject o)
include hnumber hgeneration ho

/-- An object is read back from its place, whatever follows it. -/
theorem indirectObject_bytes (h : WritableObject o) (rest : Bytes) :
    ∃ o', indirectObject lengthOf none (indirectBytes id o ++ rest) = some (id, o') ∧
      KeptObject o o' := by
  unfold indirectObject
  simp only [objectStart_bytes hnumber hgeneration o rest]
  cases o with
  | value v =>
    obtain ⟨w, hw, hkept⟩ := value_bytes ho h (clear_objectEnd rest)
    refine ⟨.value w, ?_, .value hkept⟩
    simp only [Object.bytes, stream_value lengthOf ho, hw]
  | stream s =>
    obtain ⟨s', hs, hkept, hdata⟩ := stream_bytes lengthOf ho h (objectEnd rest)
    refine ⟨.stream s', ?_, .stream hkept hdata⟩
    simp only [hs]

/-- Nothing is read from the place of an object beyond the limits. -/
theorem indirectObject_eq_none (h : ¬WritableObject o) (rest : Bytes) :
    indirectObject lengthOf none (indirectBytes id o ++ rest) = none := by
  unfold indirectObject
  simp only [objectStart_bytes hnumber hgeneration o rest]
  cases o with
  | value v =>
    simp only [Object.bytes, stream_value lengthOf ho, value_eq_none ho h (clear_objectEnd rest)]
  | stream s =>
    obtain ⟨hstream, hvalue⟩ := stream_refused lengthOf ho h (objectEnd rest)
    simp only [hstream, hvalue]

end

/-! ## The ends of the file -/

lemma fromFirst_append {b : UInt8} (front rest : Bytes) :
    fromFirst (b :: front) (b :: front ++ rest) = some (b :: front ++ rest) := by
  rw [List.cons_append, fromFirst, if_pos]
  rw [List.isPrefixOf_iff_prefix]
  exact List.prefix_append (b :: front) rest

lemma headerBytes_eq (version : String) (rest : Bytes) :
    headerBytes version ++ rest = Bytes.ofText "%PDF-" ++ (Bytes.ofText version ++ 0x0A ::
      (0x25 :: 0xBB :: 0xAD :: 0xC0 :: 0xDE :: 0x0A :: rest)) := by
  have hline : Bytes.ofText "\n" = [0x0A] := rfl
  simp [headerBytes, ofText_append, hline]

/-- A file starts at its first byte. -/
lemma fromFirst_header (version : String) (rest : Bytes) :
    fromFirst (Bytes.ofText "%PDF-") (headerBytes version ++ rest) =
      some (headerBytes version ++ rest) := by
  rw [headerBytes_eq]
  exact fromFirst_append [0x50, 0x44, 0x46, 0x2D] _

/-- The version is the first line behind the mark. -/
lemma header_bytes {version : String} (h : ∀ b ∈ Bytes.ofText version, isLineEnd b = false)
    (rest : Bytes) : header (headerBytes version ++ rest) = some version := by
  rw [headerBytes_eq]
  generalize (0x25 :: 0xBB :: 0xAD :: 0xC0 :: 0xDE :: 0x0A :: rest : Bytes) = more
  have hany : (Bytes.ofText version ++ 0x0A :: more).any isLineEnd = true := by simp [isLineEnd]
  have htake : (Bytes.ofText version ++ 0x0A :: more).takeWhile (fun b => !isLineEnd b) =
      Bytes.ofText version := by
    rw [List.takeWhile_append_of_pos (fun b hb => by simp [h b hb])]
    simp [isLineEnd]
  simp only [header, Option.bind_eq_bind, keyword_append, Option.bind_some, hany, htake]
  exact toText?_ofText version

lemma lastPlace_append (pattern : Bytes) (place : Nat) (best : Option Nat) (front back : Bytes) :
    ∃ best', lastPlace pattern place best (front ++ back) =
      lastPlace pattern (place + front.length) best' back := by
  induction front generalizing place best with
  | nil => exact ⟨best, rfl⟩
  | cons b front ih =>
    obtain ⟨best', h⟩ := ih (place + 1) _
    refine ⟨best', ?_⟩
    rw [List.cons_append, lastPlace, h, List.length_cons]
    congr 1
    omega

lemma lastPlace_of_not_mem {b : UInt8} {bs : Bytes} (h : b ∉ bs) (front : Bytes) (place : Nat)
    (best : Option Nat) : lastPlace (b :: front) place best bs = best := by
  induction bs generalizing place with
  | nil => rfl
  | cons a bs ih =>
    have hne : b ≠ a := fun hba => h (hba ▸ List.mem_cons_self ..)
    have hnot : (b :: front).isPrefixOf (a :: bs) = false := by
      simp [List.isPrefixOf, hne]
    rw [lastPlace, hnot]
    exact ih (fun hb => h (List.mem_cons_of_mem _ hb)) (place + 1)

/-- The last place is found if nothing behind it looks like it. -/
lemma lastFrom_append {pattern front back : Bytes} {start : Nat} (hstart : start ≤ front.length)
    (h : ∀ best, lastPlace pattern front.length best back = some front.length) :
    lastFrom pattern start (front ++ back) = some front.length := by
  rw [lastFrom, List.drop_append_of_le_length hstart]
  obtain ⟨best, hbest⟩ := lastPlace_append pattern start none (front.drop start) back
  rw [hbest, List.length_drop, Nat.add_sub_cancel' hstart, h]

lemma skipSpaces_of_solid {bs : Bytes} (h : Solid bs) : skipSpaces bs = bs := by
  obtain ⟨b, r, rfl, hspace, _⟩ := h
  have hne : b ≠ 0x20 := by
    rintro rfl
    cases hspace
  simp [skipSpaces, hne]

/-- The end of a file, which says where its table starts. -/
def endBytes (start : Nat) : Bytes :=
  Bytes.ofText "startxref" ++ 0x0A :: (natBytes start ++ 0x0A :: Bytes.ofText "%%EOF")

/-- The last mark is the one at the end. -/
lemma lastFrom_mark (front : Bytes) :
    lastFrom (Bytes.ofText "%%EOF") ((front ++ Bytes.ofText "%%EOF").length - tailLength)
      (front ++ Bytes.ofText "%%EOF") = some front.length := by
  apply lastFrom_append
  · have htext : (Bytes.ofText "%%EOF").length = 5 := rfl
    rw [List.length_append, htext, tailLength]
    omega
  · exact fun best => rfl

/-- The last place of the word is the one in the end of the file, since the letter that it starts
with does not come again. -/
lemma lastFrom_word {place : Nat} {front : Bytes} (h : place ≤ front.length) (start : Nat) :
    lastFrom (Bytes.ofText "startxref") place (front ++ endBytes start) = some front.length := by
  have hnot : (0x73 : UInt8) ∉ [0x74, 0x61, 0x72, 0x74, 0x78, 0x72, 0x65, 0x66, 0x0A] ++
      (natBytes start ++ 0x0A :: Bytes.ofText "%%EOF") := by
    rw [List.mem_append, List.mem_append]
    rintro (hword | hdigits | hmark)
    · revert hword
      decide
    · exact not_mem_digits (allDigits_toDigits start) rfl hdigits
    · revert hmark
      decide
  exact lastFrom_append h fun best =>
    lastPlace_of_not_mem hnot _ (front.length + 1) (some front.length)

/-- The end of a file is read back. -/
lemma tableStart_bytes {start : Nat} (hstart : start < 4294967296) {front : Bytes}
    (hfront : 25 ≤ front.length) : tableStart (front ++ endBytes start) = some (start : Int) := by
  obtain ⟨digits, hdigits⟩ : ∃ digits, digits = natBytes start := ⟨_, rfl⟩
  obtain ⟨before, hbefore⟩ : ∃ before, before = front ++ (Bytes.ofText "startxref" ++ 0x0A ::
      (digits ++ [0x0A])) := ⟨_, rfl⟩
  have hlength : before.length = front.length + 11 + digits.length := by
    have htext : (Bytes.ofText "startxref").length = 9 := rfl
    simp only [hbefore, List.length_append, List.length_cons, List.length_nil, htext]
    omega
  have hmark := lastFrom_mark before
  have hfile : before ++ Bytes.ofText "%%EOF" = front ++ endBytes start := by
    simp [endBytes, hbefore, hdigits]
  rw [hfile] at hmark
  have hplace : lastFrom (Bytes.ofText "startxref") (before.length - startReach)
      (front ++ endBytes start) = some front.length := by
    have hshort : digits.length ≤ 10 := hdigits ▸ natBytes_length_le hstart
    apply lastFrom_word
    rw [hlength, startReach]
    omega
  have hword : (keyword "startxref" (endBytes start)).bind lineEnd =
      some (natBytes start ++ 0x0A :: Bytes.ofText "%%EOF") := by
    rw [endBytes, keyword_append]
    rfl
  have hnumber : integer (natBytes start ++ 0x0A :: Bytes.ofText "%%EOF") =
      some ((start : Int), 0x0A :: Bytes.ofText "%%EOF") :=
    integer_natBytes (by omega) (noDigit_cons rfl _)
  simp only [tableStart, Option.bind_eq_bind, hmark, Option.bind_some, hplace, List.drop_left,
    hword, skipSpaces_of_solid ((solid_natBytes start).append _), hnumber]
  rw [if_neg (by rw [hlength, startReach]; omega)]
  rfl

end ScanBinder.Proofs
