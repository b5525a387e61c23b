import ScanBinder.Proofs.SavedFile

/-!
# A saved document is read back

The objects of a document are written one after another, and the table is read back as the list
of the places where they start. Objects are read in the order of their numbers, which is the
order in which they were written. So a document comes back from its file with all its objects
that are within the limits of the format, and without those that are not.
-/

namespace ScanBinder.Proofs
open Pdf

/-! ## Order -/

lemma eraseDups_of_nodup {κ : Type} [BEq κ] [LawfulBEq κ] {keys : List κ} (h : keys.Nodup) :
    keys.eraseDups = keys := by
  induction keys with
  | nil => rfl
  | cons k keys ih =>
    rw [List.nodup_cons] at h
    have hfilter : keys.filter (fun a => !a == k) = keys := by
      rw [List.filter_eq_self]
      intro a ha
      have hne : a ≠ k := fun hak => h.1 (hak ▸ ha)
      simp [hne]
    rw [List.eraseDups_cons, hfilter, ih h.2]

section
variable {κ α : Type} [BEq κ] [LawfulBEq κ] {le : κ → κ → Bool}

/-- Going through the keys in order gives a list in order back, however its entries were mixed up
before. -/
lemma byKey_eq (htrans : ∀ a b c, le a b = true → le b c = true → le a c = true)
    (htotal : ∀ a b, (le a b || le b a) = true)
    (hanti : ∀ a b, le a b = true → le b a = true → a = b) {keyed found sorted : List (κ × α)}
    (hkeyed : keyed.Perm sorted) (hfound : found.Perm sorted)
    (hnodup : (sorted.map Prod.fst).Nodup)
    (hsorted : (sorted.map Prod.fst).Pairwise fun a b => le a b = true) :
    ((keyed.map Prod.fst).eraseDups.mergeSort le).filterMap
      (fun k => (found.lookup k).map (k, ·)) = sorted := by
  have hkeys : (keyed.map Prod.fst).eraseDups.mergeSort le = sorted.map Prod.fst := by
    rw [eraseDups_of_nodup ((hkeyed.map Prod.fst).nodup_iff.mpr hnodup)]
    exact List.Perm.eq_of_pairwise (fun a b _ _ => hanti a b)
      (List.pairwise_mergeSort htrans htotal _) hsorted
      ((List.mergeSort_perm _ _).trans (hkeyed.map Prod.fst))
  rw [hkeys, List.filterMap_map]
  have hsame : sorted.filterMap ((fun k => (found.lookup k).map (k, ·)) ∘ Prod.fst) =
      sorted.filterMap some := by
    apply List.filterMap_congr
    intro x hx
    have hlookup := lookup_of_mem ((hfound.map Prod.fst).nodup_iff.mpr hnodup)
      (hfound.mem_iff.mpr hx)
    simp [hlookup]
  rw [hsame, List.filterMap_some]

end

/-! ## Places -/

/-- Objects as they are written, one after another. -/
def bodyBytes (objects : List (ObjectId × Object)) : Bytes :=
  objects.flatMap fun (id, o) => indirectBytes id o

/-- The place of an object in a file. -/
def StartsAt (file : Bytes) (x : ObjectId × Object) (place : ObjectId × Nat) : Prop :=
  place.1 = x.1 ∧ ∃ rest, file.drop place.2 = indirectBytes x.1 x.2 ++ rest

/-- Each object starts where the ones before it end. -/
lemma offsets_startsAt {file front back : Bytes} {objects : List (ObjectId × Object)}
    (h : file = front ++ (bodyBytes objects ++ back)) :
    List.Forall₂ (StartsAt file) objects (offsets front.length objects) := by
  induction objects generalizing front with
  | nil => exact .nil
  | cons x objects ih =>
    obtain ⟨id, o⟩ := x
    have hbody : bodyBytes ((id, o) :: objects) = indirectBytes id o ++ bodyBytes objects := rfl
    rw [hbody] at h
    have hnext : file = (front ++ indirectBytes id o) ++ (bodyBytes objects ++ back) := by
      rw [h]
      simp
    refine .cons ⟨rfl, bodyBytes objects ++ back, ?_⟩ ?_
    · rw [h, List.drop_left, List.append_assoc]
    · have hmore := ih hnext
      rwa [List.length_append] at hmore

lemma StartsAt.lt_length {file : Bytes} {x : ObjectId × Object} {place : ObjectId × Nat}
    (h : StartsAt file x place) : place.2 < file.length := by
  obtain ⟨_, rest, hdrop⟩ := h
  by_contra hle
  rw [List.drop_of_length_le (by omega)] at hdrop
  have hlength := congrArg List.length hdrop
  simp [indirectBytes] at hlength

/-! ## The objects of a table -/

/-- What an object may come back as, under its number. -/
def ComesBackAs (x y : ObjectId × Object) : Prop :=
  y.1 = x.1 ∧ KeptObject x.2 y.2

/-- The objects within the limits of the format. -/
def readable (objects : List (ObjectId × Object)) : List (ObjectId × Object) :=
  objects.filter fun x => WritableObject x.2

lemma numbers_eq {α β : Type} {R : ObjectId × α → ObjectId × β → Prop}
    (hR : ∀ x y, R x y → y.1 = x.1) {xs : List (ObjectId × α)} {ys : List (ObjectId × β)}
    (h : List.Forall₂ R xs ys) : (ys.map fun y => y.1.number) = xs.map fun x => x.1.number := by
  induction h with
  | nil => rfl
  | cons hxy _ ih => rw [List.map_cons, List.map_cons, hR _ _ hxy, ih]

section
variable {objects found : List (ObjectId × Object)} {places : List (ObjectId × Nat)}

lemma effective_places (h : (places.map fun x => x.1.number).Pairwise (· < ·)) :
    Table.effective (places.map placed).reverse = places.map placed := by
  have hkeys : (places.map placed).map Prod.fst = places.map fun x => x.1.number := by
    simp [placed, Function.comp_def]
  apply byKey_eq
  · intro a b c hab hbc
    simp only [decide_eq_true_eq] at hab hbc ⊢
    omega
  · intro a b
    simp only [Bool.or_eq_true, decide_eq_true_eq]
    omega
  · intro a b hab hba
    simp only [decide_eq_true_eq] at hab hba
    omega
  · exact List.reverse_perm _
  · exact List.reverse_perm _
  · rw [hkeys]
    exact h.imp fun hlt => Nat.ne_of_lt hlt
  · rw [hkeys]
    exact h.imp fun hlt => decide_eq_true (Nat.le_of_lt hlt)

/-- Objects in the order of their numbers stay as they are. -/
lemma inOrder_of_increasing (h : (found.map fun x => x.1.number).Pairwise (· < ·)) :
    inOrder found = found := by
  have hids : (found.map Prod.fst).Pairwise fun a b => a.number < b.number := by
    rw [List.pairwise_map] at h ⊢
    exact h
  apply byKey_eq
  · intro a b c hab hbc
    simp only [ObjectId.le, Bool.or_eq_true, Bool.and_eq_true, decide_eq_true_eq] at hab hbc ⊢
    omega
  · intro a b
    simp only [ObjectId.le, Bool.or_eq_true, Bool.and_eq_true, decide_eq_true_eq]
    omega
  · intro a b hab hba
    simp only [ObjectId.le, Bool.or_eq_true, Bool.and_eq_true, decide_eq_true_eq] at hab hba
    have hnumber : a.number = b.number := by omega
    have hgeneration : a.generation = b.generation := by omega
    cases a
    cases b
    simp_all
  · exact .refl _
  · exact List.reverse_perm _
  · exact hids.imp fun hlt heq => by simp [heq] at hlt
  · exact hids.imp fun hlt => by simp [ObjectId.le, hlt]

/-- The places of the table lead to the objects that were written there. -/
lemma found_of_places {file : Bytes} (t : Table) (h : List.Forall₂ (StartsAt file) objects places)
    (hfits : ∀ x ∈ places, RowFits x.1 x.2) (hobjects : ∀ x ∈ objects, SoundObject x.2) :
    List.Forall₂ ComesBackAs (readable objects)
      ((places.map placed).filterMap fun e => objectAt? file t e.2) := by
  induction h with
  | nil => exact .nil
  | @cons x place objects places hplace _ ih =>
    have hback := ih (fun y hy => hfits y (List.mem_cons_of_mem _ hy))
      fun y hy => hobjects y (List.mem_cons_of_mem _ hy)
    have hrow := hfits place (List.mem_cons_self ..)
    have hlength := hplace.lt_length
    have hx := hobjects x (List.mem_cons_self ..)
    obtain ⟨hid, rest, hdrop⟩ := hplace
    rw [hid] at hrow
    have hat : objectAt? file t (placed place).2 =
        indirectObject (lengthIn file t) none (indirectBytes x.1 x.2 ++ rest) := by
      rw [placed, objectAt?, if_neg (by omega), hdrop]
    rw [List.map_cons, List.filterMap_cons, hat, readable, List.filter_cons]
    by_cases hw : WritableObject x.2
    · obtain ⟨o, ho, hkept⟩ := indirectObject_bytes (lengthIn file t) hrow.number_lt
        hrow.generation_lt hx hw rest
      rw [ho, if_pos (decide_eq_true hw)]
      exact .cons ⟨rfl, hkept⟩ hback
    · rw [indirectObject_eq_none _ hrow.number_lt hrow.generation_lt hx hw,
        if_neg (by simpa using hw)]
      exact hback

/-- What is found under a number that an object was written under or none. -/
inductive FoundAs : Option Object → Option Object → Prop
  | kept {o o' : Object} (hw : WritableObject o) (h : KeptObject o o') :
    FoundAs (some o) (some o')
  | lost {o : Object} (hw : ¬WritableObject o) : FoundAs (some o) none
  | absent : FoundAs none none

lemma lookup_eq_none_of_keys {id : ObjectId} (h : id ∉ found.map Prod.fst) :
    found.lookup id = none := by
  rw [List.lookup_eq_none_iff]
  rintro ⟨id', o⟩ hmem
  exact bne_iff_ne.mpr fun heq => h (List.mem_map.mpr ⟨_, hmem, heq.symm⟩)

lemma ids_readable (h : List.Forall₂ ComesBackAs (readable objects) found) :
    (found.map Prod.fst).Sublist (objects.map Prod.fst) := by
  have hids : found.map Prod.fst = (readable objects).map Prod.fst := by
    generalize readable objects = kept at h
    induction h with
    | nil => rfl
    | cons hxy _ ih => rw [List.map_cons, List.map_cons, hxy.1, ih]
  rw [hids]
  exact List.filter_sublist.map _

/-- Under each number there is what is left of the object. -/
lemma lookup_foundAs (h : List.Forall₂ ComesBackAs (readable objects) found)
    (hnodup : (objects.map Prod.fst).Nodup) (id : ObjectId) :
    FoundAs (objects.lookup id) (found.lookup id) := by
  induction objects generalizing found with
  | nil =>
    cases h
    exact .absent
  | cons x objects ih =>
    rw [List.map_cons, List.nodup_cons] at hnodup
    rw [readable, List.filter_cons] at h
    rw [List.lookup_cons (k := x.1) (b := x.2)]
    by_cases hw : WritableObject x.2
    · rw [if_pos (decide_eq_true hw)] at h
      cases h with
      | @cons _ y _ found hxy hrest =>
        rw [List.lookup_cons, hxy.1]
        by_cases hid : id = x.1
        · rw [beq_iff_eq.mpr hid]
          exact .kept hw hxy.2
        · rw [beq_eq_false_iff_ne.mpr hid]
          exact ih hrest hnodup.2
    · rw [if_neg (by simpa using hw)] at h
      by_cases hid : id = x.1
      · have hnone : found.lookup id = none :=
          lookup_eq_none_of_keys fun hmem => hnodup.1 (hid ▸ (ids_readable h).subset hmem)
        rw [beq_iff_eq.mpr hid, hnone]
        exact .lost hw
      · rw [beq_eq_false_iff_ne.mpr hid]
        exact ih h hnodup.2

/-- A stream that is read back holds no other objects if it held none before. -/
lemma KeptEntries.isPacked {s s' : Stream} (h : KeptEntries s.dict s'.dict) :
    s'.isPacked = s.isPacked := by
  unfold Stream.isPacked
  rcases h.get?_cases "Type" with ⟨hd, he⟩ | ⟨v, w, hd, he, hkept⟩
  · rw [hd, he]
  · rw [hd, he]
    cases hkept <;> rfl

lemma isPacked_packed (s : Stream) (data : Bytes) : (s.packed data).isPacked = s.isPacked := by
  unfold Stream.isPacked
  rw [packed_get? s data (by decide) (by decide)]

lemma ComesBackAs.usable {x y : ObjectId × Object} (h : ComesBackAs x y)
    (hx : SoundObject x.2) : y.2.isUsable = true ∧ objectsWithin y = [] := by
  obtain ⟨id, o⟩ := x
  obtain ⟨id', o'⟩ := y
  obtain ⟨_, hkept⟩ := h
  cases hkept with
  | value _ => exact ⟨rfl, rfl⟩
  | stream hkept _ =>
    have hpacked := hkept.isPacked.trans hx.2.2
    simp only [Object.isUsable, objectsWithin, hpacked]
    exact ⟨rfl, rfl⟩
  | packed _ hkept _ =>
    have hpacked := (hkept.isPacked.trans (isPacked_packed _ _)).trans hx.2.2
    simp only [Object.isUsable, objectsWithin, hpacked]
    exact ⟨rfl, rfl⟩

/-- The objects of the table are there, in the order in which they were written. -/
lemma objects_of_places {file : Bytes} (h : List.Forall₂ (StartsAt file) objects places)
    (hfits : ∀ x ∈ places, RowFits x.1 x.2) (hobjects : ∀ x ∈ objects, SoundObject x.2)
    (hincreasing : (objects.map fun x => x.1.number).Pairwise (· < ·)) :
    List.Forall₂ ComesBackAs (readable objects)
      (Table.objects (places.map placed).reverse file fun _ o => o) := by
  have hplaces : (places.map fun x => x.1.number).Pairwise (· < ·) := by
    rwa [numbers_eq (fun _ _ hxy => hxy.1) h]
  have hback := found_of_places (places.map placed).reverse h hfits hobjects
  generalize hfound : (places.map placed).filterMap
    (fun e => objectAt? file (places.map placed).reverse e.2) = found at hback
  have husable : ∀ y ∈ found, y.2.isUsable = true ∧ objectsWithin y = [] := by
    intro y hy
    obtain ⟨x, hx, hxy⟩ := exists_of_forall₂_left hback.flip hy
    exact ComesBackAs.usable hxy (hobjects x (List.mem_of_mem_filter hx))
  have hwithin : found.flatMap objectsWithin = [] := by
    rw [List.flatMap_eq_nil_iff]
    exact fun y hy => (husable y hy).2
  have hfilter : found.filter (fun y => y.2.isUsable) = found := by
    rw [List.filter_eq_self]
    exact fun y hy => (husable y hy).1
  have heq : Table.objects (places.map placed).reverse file (fun _ o => o) = found := by
    unfold Table.objects
    rw [effective_places hplaces]
    simp only [hfound, List.map_id', hfilter, hwithin, List.nil_append]
    apply inOrder_of_increasing
    rw [numbers_eq (fun _ _ hxy => hxy.1) hback]
    exact hincreasing.sublist (List.filter_sublist.map _)
  rw [heq]
  exact hback

end

/-! ## Documents -/

lemma ok_bind {ε α β : Type} (a : α) (f : α → Except ε β) : (Except.ok a >>= f) = f a := rfl

/-- A document that comes back from its file with all its objects. -/
def SavedWhole (d : Document) : Prop :=
  ∃ d', Document.ofBytes d.bytes = .ok d' ∧ KeepsObjects d d'

/-- The trailer as it is written, with the number of objects. -/
def writtenTrailer (d : Document) : Dict :=
  Dict.set d.trailer (Bytes.ofText "Size") (.int d.size)

/-- A document whose file can be read. Its objects are in the order of their numbers, and nothing
in its trailer sends a reader elsewhere. -/
structure Fits (d : Document) : Prop where
  version_line : ∀ b ∈ Bytes.ofText d.version, isLineEnd b = false
  numbers_increase : (d.objects.map fun x => x.1.number).Pairwise (· < ·)
  number_lt : ∀ x ∈ d.objects, x.1.number + 1 < numberLimit
  generation_lt : ∀ x ∈ d.objects, x.1.generation < 65536
  objects_sound : ∀ x ∈ d.objects, SoundObject x.2
  trailer_sound : Sound (.dict d.trailer)
  trailer_writable : Writable (.dict d.trailer)
  no_size : d.trailer.get? "Size" = none
  no_previous : d.trailer.get? "Prev" = none
  no_guard : d.trailer.get? "Encrypt" = none
  length_lt : d.bytes.length < 4294967296

lemma size_le {d : Document} {limit : Nat} (hlimit : 1 ≤ limit)
    (h : ∀ x ∈ d.objects, x.1.number + 1 ≤ limit) : d.size ≤ limit :=
  List.foldlRecOn (motive := (· ≤ limit)) d.objects _ hlimit
    fun _ hn x hx => Nat.max_le.mpr ⟨hn, h x hx⟩

/-- The places of the objects of a document in its file. -/
def places (d : Document) : List (ObjectId × Nat) :=
  offsets (headerBytes d.version).length d.objects

/-- Where the table of a document starts in its file. -/
def tablePlace (d : Document) : Nat :=
  (headerBytes d.version).length + (bodyBytes d.objects).length

lemma bytes_eq (d : Document) :
    d.bytes = headerBytes d.version ++ (bodyBytes d.objects ++ (tableBytes (places d) ++
      (trailerBytes (writtenTrailer d) ++ 0x0A :: endBytes (tablePlace d)))) := by
  have hstart : Bytes.ofText "\nstartxref\n" = 0x0A :: (Bytes.ofText "startxref" ++ [0x0A]) := by
    decide
  have hend : Bytes.ofText "\n%%EOF" = 0x0A :: Bytes.ofText "%%EOF" := by decide
  simp [Document.bytes, bodyBytes, tableBytes, placeBytes, places, tablePlace, trailerBytes,
    writtenTrailer, endBytes, hstart, hend]

section
variable {d : Document} (h : Fits d)
include h

lemma Fits.rowFits : ∀ x ∈ places d, RowFits x.1 x.2 := by
  have hplaces := offsets_startsAt (bytes_eq d)
  intro place hplace
  obtain ⟨x, hx, hstarts⟩ := exists_of_forall₂_left hplaces.flip hplace
  have hlength := StartsAt.lt_length hstarts
  have hnumber := h.number_lt x hx
  have hlimit := h.length_lt
  rw [numberLimit] at hnumber
  refine ⟨?_, ?_, ?_⟩
  · rw [hstarts.1]
    omega
  · rw [hstarts.1]
    exact h.generation_lt x hx
  · omega

lemma Fits.writtenTrailer_sound : Sound (.dict (writtenTrailer d)) :=
  sound_set h.trailer_sound _ trivial

lemma Fits.writtenTrailer_writable : Writable (.dict (writtenTrailer d)) := by
  have hsize : d.size ≤ numberLimit := by
    apply size_le (by decide)
    exact fun x hx => Nat.le_of_lt (h.number_lt x hx)
  rw [numberLimit] at hsize
  exact writable_set h.trailer_writable _ ⟨by omega, by omega⟩

lemma Fits.tableStart_eq : tableStart d.bytes = some (tablePlace d : Int) := by
  have hlength := congrArg List.length (bytes_eq d)
  have hlimit := h.length_lt
  have htext : (Bytes.ofText "xref\n0 1\n0000000000 65535 f \n").length = 29 := rfl
  have hfile : d.bytes = (headerBytes d.version ++ (bodyBytes d.objects ++ (tableBytes (places d) ++
      (trailerBytes (writtenTrailer d) ++ [0x0A])))) ++ endBytes (tablePlace d) := by
    rw [bytes_eq]
    simp
  rw [hfile]
  apply tableStart_bytes
  · simp only [List.length_append] at hlength
    rw [tablePlace]
    omega
  · simp only [List.length_append, tableBytes, htext]
    omega

/-- The table and the trailer are read back. -/
lemma Fits.tableAt_eq : ∃ trailer, tableAt d.bytes (tablePlace d) .badStart =
      .ok (((places d).map placed).reverse, trailer) ∧ KeptEntries (writtenTrailer d) trailer := by
  obtain ⟨trailer, htable, hkept⟩ :=
    textTable_bytes h.rowFits h.writtenTrailer_sound h.writtenTrailer_writable
      (0x0A :: endBytes (tablePlace d))
  refine ⟨trailer, ?_, hkept⟩
  have hlength : tablePlace d ≤ d.bytes.length := by
    rw [bytes_eq, tablePlace]
    simp only [List.length_append]
    omega
  have hdrop : d.bytes.drop (tablePlace d) = tableBytes (places d) ++
      (trailerBytes (writtenTrailer d) ++ 0x0A :: endBytes (tablePlace d)) := by
    rw [bytes_eq, ← List.append_assoc]
    exact List.drop_left' (List.length_append ..)
  have hsize : Dict.get? trailer "Size" = some (.int d.size) := by
    apply hkept.get?_int
    rw [writtenTrailer, get?_set_same]
  unfold tableAt table
  rw [if_neg (by omega), Int.toNat_natCast, hdrop]
  simp only [htable, hsize]

/-- The document is read back, object by object. -/
theorem Fits.ofBytes_bytes : ∃ objects trailer,
    Document.ofBytes d.bytes = .ok ⟨d.version, objects, trailer⟩ ∧
      List.Forall₂ ComesBackAs (readable d.objects) objects ∧
      KeptEntries (writtenTrailer d) trailer := by
  obtain ⟨trailer, htable, hkept⟩ := h.tableAt_eq
  have hfirst : (fromFirst (Bytes.ofText "%PDF-") d.bytes).getD d.bytes = d.bytes := by
    rw [bytes_eq, fromFirst_header]
    rfl
  have hheader : header d.bytes = some d.version := by
    rw [bytes_eq]
    exact header_bytes h.version_line _
  have hprevious : Dict.get? trailer "Prev" = none := by
    apply hkept.get?_none
    rw [writtenTrailer, get?_set_of_ne _ (by decide)]
    exact h.no_previous
  have hguard : Dict.get? trailer "Encrypt" = none := by
    apply hkept.get?_none
    rw [writtenTrailer, get?_set_of_ne _ (by decide)]
    exact h.no_guard
  have holder : olderTables d.bytes trailer (d.bytes.length + 2) []
      ((places d).map placed).reverse trailer = .ok ((places d).map placed).reverse := by
    rw [olderTables, hprevious]
  have hlimit : (((places d).map placed).reverse.any fun e => decide (e.1 + 1 = numberLimit)) =
      false := by
    rw [List.any_eq_false]
    intro e he
    obtain ⟨place, hplace, rfl⟩ := List.mem_map.mp (List.mem_reverse.mp he)
    obtain ⟨x, hx, hstarts⟩ := exists_of_forall₂_left (offsets_startsAt (bytes_eq d)).flip hplace
    have hnumber := h.number_lt x hx
    rw [placed, hstarts.1]
    simp only [decide_eq_true_eq]
    omega
  refine ⟨_, trailer, ?_, objects_of_places (offsets_startsAt (bytes_eq d)) h.rowFits
    h.objects_sound h.numbers_increase, hkept⟩
  unfold Document.ofBytes
  simp only [hfirst, hheader, h.tableStart_eq, htable, ok_bind, holder, hlimit, hguard]
  rfl

lemma Fits.ids_nodup : (d.objects.map Prod.fst).Nodup := by
  have hnumbers := h.numbers_increase
  rw [List.pairwise_map] at hnumbers
  rw [List.nodup_iff_pairwise_ne, List.pairwise_map]
  exact hnumbers.imp fun hlt heq => by simp [heq] at hlt

/-- Under each number there is what is left of its object, and the trailer is kept. -/
theorem Fits.ofBytes_foundAs : ∃ d', Document.ofBytes d.bytes = .ok d' ∧
    (∀ key v, d.trailer.get? key = some v → ∃ w, d'.trailer.get? key = some w ∧ Kept v w) ∧
    ∀ id, FoundAs (d.object? id) (d'.object? id) := by
  obtain ⟨objects, trailer, hload, hobjects, htrailer⟩ := h.ofBytes_bytes
  refine ⟨_, hload, ?_, lookup_foundAs hobjects h.ids_nodup⟩
  intro key v hv
  apply htrailer.get?_some
  have hne : key ≠ "Size" := by
    rintro rfl
    rw [h.no_size] at hv
    cases hv
  rw [writtenTrailer, get?_set_of_ne _ hne, hv]

theorem Fits.savedWhole (hobjects : ∀ x ∈ d.objects, WritableObject x.2) : SavedWhole d := by
  obtain ⟨d', hload, htrailer, hfound⟩ := h.ofBytes_foundAs
  refine ⟨d', hload, htrailer, ?_⟩
  intro id o ho
  have hid := hfound id
  rw [ho] at hid
  generalize hfind : d'.object? id = r at hid
  cases hid with
  | kept _ hkept => exact ⟨_, rfl, hkept⟩
  | lost hw => exact absurd (hobjects _ (mem_of_object? ho)) hw

end

end ScanBinder.Proofs
