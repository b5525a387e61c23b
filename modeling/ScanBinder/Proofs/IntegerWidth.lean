import Mathlib.Tactic.Common
import ScanBinder.Pdf.Load
import ScanBinder.Proofs.PaletteColours

/-!
# Integers of documents

The reader takes an integer only if it has 64 bits, and nothing that comes after it makes new
integers: deciphering changes strings, and the objects inside a stream are read like the others.
So all integers of a document that was read from a file have 64 bits.
-/

namespace ScanBinder.Proofs
open Pdf

/-- An integer of 64 bits, one of them for the sign. -/
def IsWord (n : Int) : Prop :=
  -9223372036854775808 ≤ n ∧ n < 9223372036854775808

/-- The first value is the second, or it stands in it at any depth. -/
inductive Inside : Value → Value → Prop
  | self (v : Value) : Inside v v
  | item {v w : Value} {vs : List Value} (hw : w ∈ vs) (h : Inside v w) : Inside v (.array vs)
  | entry {v : Value} {e : Bytes × Value} {d : Dict} (he : e ∈ d) (h : Inside v e.2) :
    Inside v (.dict d)

/-- Every integer in the value has 64 bits. -/
def HoldsWords (v : Value) : Prop :=
  ∀ n, Inside (.int n) v → IsWord n

/-- Every integer in the values of the dictionary has 64 bits. -/
def EntriesHoldWords (d : Dict) : Prop :=
  ∀ e ∈ d, HoldsWords e.2

def ObjectHoldsWords : Object → Prop
  | .value v => HoldsWords v
  | .stream s => EntriesHoldWords s.dict

/-! ## Values -/

lemma holdsWords_int {n : Int} (h : IsWord n) : HoldsWords (.int n) := by
  rintro m ⟨⟩
  exact h

lemma holdsWords_array {vs : List Value} (h : ∀ v ∈ vs, HoldsWords v) : HoldsWords (.array vs) := by
  rintro n (_ | ⟨hw, hn⟩)
  exact h _ hw n hn

lemma holdsWords_dict {d : Dict} (h : EntriesHoldWords d) : HoldsWords (.dict d) := by
  rintro n (_ | _ | ⟨he, hn⟩)
  exact h _ he n hn

lemma entriesHoldWords_of_dict {d : Dict} (h : HoldsWords (.dict d)) : EntriesHoldWords d :=
  fun _ he n hn => h n (.entry he hn)

lemma EntriesHoldWords.get? {d : Dict} (h : EntriesHoldWords d) {key : String} {v : Value}
    (hv : d.get? key = some v) : HoldsWords v := by
  obtain ⟨before, after, rfl, _⟩ := List.lookup_eq_some_iff.mp hv
  exact h (Bytes.ofText key, v) (List.mem_append_right _ (List.mem_cons_self ..))

lemma entriesHoldWords_set {d : Dict} (h : EntriesHoldWords d) (key : Bytes) {v : Value}
    (hv : HoldsWords v) : EntriesHoldWords (Dict.set d key v) := by
  intro e he
  unfold Dict.set at he
  split_ifs at he
  · obtain ⟨x, hx, rfl⟩ := List.mem_map.mp he
    split_ifs
    · exact hv
    · exact h x hx
  · rcases List.mem_append.mp he with he | he
    · exact h e he
    · obtain rfl := List.mem_singleton.mp he
      exact hv

/-! ## Reading -/

lemma isWord_of_integer {bs rest : Bytes} {n : Int} (h : integer bs = some (n, rest)) : IsWord n := by
  unfold integer at h
  dsimp only at h
  split at h
  · cases h
  · obtain ⟨hword, hn⟩ := Option.ite_none_right_eq_some.mp h
    cases hn
    exact hword

lemma holdsWords_of_atom {bs rest : Bytes} {v : Value} (h : atom bs = some (v, rest)) :
    HoldsWords v := by
  unfold atom at h
  repeat' split at h
  all_goals cases h
  · rintro n ⟨⟩
  · rintro n ⟨⟩
  · rintro n ⟨⟩
  · rintro n ⟨⟩
  · rintro n ⟨⟩
  · next hinteger => exact holdsWords_int (isWord_of_integer hinteger)
  · rintro n ⟨⟩

/-- What the readers of values give with the given fuel. -/
structure ReadsWords (fuel : Nat) : Prop where
  value : ∀ {bs v rest}, value fuel bs = some (v, rest) → HoldsWords v
  items : ∀ bs, ∀ v ∈ (items fuel bs).1, HoldsWords v
  dictionary : ∀ {bs d rest}, dictionary fuel bs = some (d, rest) → EntriesHoldWords d
  entries : ∀ {known} bs, EntriesHoldWords known → EntriesHoldWords (entries fuel known bs).1

section
variable {fuel : Nat} (ih : ReadsWords fuel)
include ih

lemma value_holdsWords {bs rest : Bytes} {v : Value} (h : value (fuel + 1) bs = some (v, rest)) :
    HoldsWords v := by
  unfold Pdf.value at h
  split at h
  · next hatom =>
    cases h
    exact holdsWords_of_atom hatom
  · split at h
    · obtain ⟨x, _, hx⟩ := Option.map_eq_some_iff.mp h
      cases hx
      rintro n ⟨⟩
    · next bs _ =>
      have hitems := ih.items (space bs)
      split at h
      · next vs _ hvs =>
        cases h
        rw [hvs] at hitems
        exact holdsWords_array hitems
      · cases h
    · split at h
      · cases h
        rintro n ⟨⟩
      · split at h
        · next hdict =>
          cases h
          exact holdsWords_dict (ih.dictionary hdict)
        · cases h
    · cases h

lemma items_holdWords (bs : Bytes) : ∀ v ∈ (items (fuel + 1) bs).1, HoldsWords v := by
  rw [Pdf.items]
  cases hvalue : value fuel bs with
  | none => simp
  | some x =>
    obtain ⟨v, rest⟩ := x
    intro w hw
    rcases List.mem_cons.mp hw with rfl | hw
    · exact ih.value hvalue
    · exact ih.items rest w hw

lemma dictionary_holdsWords {bs rest : Bytes} {d : Dict}
    (h : dictionary (fuel + 1) bs = some (d, rest)) : EntriesHoldWords d := by
  unfold Pdf.dictionary at h
  split at h
  · next bs =>
    have hentries := ih.entries (space bs) (List.forall_mem_nil _)
    split at h
    · next hread =>
      cases h
      rwa [hread] at hentries
    · cases h
  · cases h

lemma entries_holdWords {known : Dict} (bs : Bytes) (h : EntriesHoldWords known) :
    EntriesHoldWords (entries (fuel + 1) known bs).1 := by
  rw [Pdf.entries]
  split
  · exact h
  · split
    · next hvalue => exact ih.entries _ (entriesHoldWords_set h _ (ih.value hvalue))
    · exact h

end

/-- By induction on the fuel, with one step for each reader. -/
theorem readsWords (fuel : Nat) : ReadsWords fuel := by
  induction fuel with
  | zero =>
    refine ⟨?_, ?_, ?_, fun _ h => h⟩
    · intro bs v rest h
      cases h
    · intro bs v hv
      cases hv
    · intro bs d rest h
      cases h
  | succ fuel ih =>
    exact ⟨value_holdsWords ih, items_holdWords ih, dictionary_holdsWords ih, entries_holdWords ih⟩

/-! ## Objects -/

lemma entriesHoldWords_of_stream {lengthOf : ObjectId → Option Int} {bs : Bytes} {s : Stream}
    (h : stream lengthOf bs = .read s) : EntriesHoldWords s.dict := by
  unfold stream at h
  split at h
  · cases h
  · next hdict =>
    have hwords := (readsWords _).dictionary hdict
    split at h
    · cases h
    · dsimp only at h
      split at h
      · cases h
        exact hwords
      · split_ifs at h
        split at h
        · cases h
        · split at h
          · cases h
            exact hwords
          · cases h

lemma objectHoldsWords_of_indirect {lengthOf : ObjectId → Option Int} {expected : Option ObjectId}
    {bs : Bytes} {x : ObjectId × Object} (h : indirectObject lengthOf expected bs = some x) :
    ObjectHoldsWords x.2 := by
  unfold indirectObject at h
  split at h
  · cases h
  · split at h
    · cases h
    · next hstream =>
      cases h
      exact entriesHoldWords_of_stream hstream
    · split at h
      · next hvalue =>
        cases h
        exact (readsWords _).value hvalue
      · cases h

lemma objectHoldsWords_of_packed {first : Nat} {data : Bytes} {number place : Option Nat}
    {x : ObjectId × Object} (h : packedObject? first data number place = some x) :
    ObjectHoldsWords x.2 := by
  unfold packedObject? at h
  obtain ⟨n, _, h⟩ := Option.bind_eq_some_iff.mp h
  obtain ⟨k, _, h⟩ := Option.bind_eq_some_iff.mp h
  dsimp only at h
  split_ifs at h
  obtain ⟨v, hvalue, h⟩ := Option.bind_eq_some_iff.mp h
  cases h
  exact (readsWords _).value hvalue

lemma packedObjects_holdWords (first : Nat) (data : Bytes) (numbers : List (Option Nat)) :
    ∀ x ∈ packedObjects first data numbers, ObjectHoldsWords x.2 := by
  fun_induction packedObjects first data numbers with
  | case1 number place more ih =>
    intro x hx
    rcases List.mem_append.mp hx with hx | hx
    · exact objectHoldsWords_of_packed (Option.mem_toList.mp hx)
    · exact ih x hx
  | case2 => exact List.forall_mem_nil _

lemma objects?_holdWords {s : Stream} {xs : List (ObjectId × Object)} (h : s.objects? = some xs) :
    ∀ x ∈ xs, ObjectHoldsWords x.2 := by
  unfold Stream.objects? at h
  dsimp only at h
  split_ifs at h
  · cases h
    exact List.forall_mem_nil _
  · split at h
    · split_ifs at h
      obtain ⟨index, _, rfl⟩ := Option.map_eq_some_iff.mp h
      exact packedObjects_holdWords _ _ _
    · cases h

lemma objectsWithin_holdWords (y : ObjectId × Object) :
    ∀ x ∈ objectsWithin y, ObjectHoldsWords x.2 := by
  unfold objectsWithin
  split
  · next s =>
    split_ifs
    · cases hobjects : s.objects? with
      | none => exact List.forall_mem_nil _
      | some xs =>
        exact objects?_holdWords hobjects
    · exact List.forall_mem_nil _
  · exact List.forall_mem_nil _

/-! ## Deciphering -/

mutual

lemma holdsWords_mapStrings (f : Bytes → Bytes) :
    ∀ v : Value, HoldsWords v → HoldsWords (v.mapStrings f)
  | .str _, _ => by
    rintro n ⟨⟩
  | .array vs, h => by
    rw [Value.mapStrings]
    exact holdsWords_array (items_mapStrings f vs fun v hv n hn => h n (.item hv hn))
  | .dict d, h => by
    rw [Value.mapStrings]
    exact holdsWords_dict (entries_mapStrings f d (entriesHoldWords_of_dict h))
  | .null, h => h
  | .bool _, h => h
  | .int _, h => h
  | .real _, h => h
  | .name _, h => h
  | .ref _, h => h

lemma items_mapStrings (f : Bytes → Bytes) :
    ∀ vs : List Value, (∀ v ∈ vs, HoldsWords v) → ∀ v ∈ mapItemStrings f vs, HoldsWords v
  | [], h => h
  | v :: vs, h => by
    rw [mapItemStrings, List.forall_mem_cons]
    rw [List.forall_mem_cons] at h
    exact ⟨holdsWords_mapStrings f v h.1, items_mapStrings f vs h.2⟩

lemma entries_mapStrings (f : Bytes → Bytes) :
    ∀ d : List (Bytes × Value), EntriesHoldWords d → EntriesHoldWords (mapEntryStrings f d)
  | [], h => h
  | (key, v) :: d, h => by
    unfold EntriesHoldWords at h ⊢
    rw [mapEntryStrings, List.forall_mem_cons]
    rw [List.forall_mem_cons] at h
    exact ⟨holdsWords_mapStrings f v h.1, entries_mapStrings f d h.2⟩

end

lemma decipher_holdsWords (p : Protection) (key : Bytes) (id : ObjectId) {o : Object}
    (h : ObjectHoldsWords o) : ObjectHoldsWords (p.decipher key id o) := by
  cases o with
  | value v => exact holdsWords_mapStrings _ v h
  | stream s =>
    unfold Protection.decipher
    dsimp only
    split
    · split_ifs
      · exact h
      · exact h
    · exact h

/-! ## Documents -/

lemma mem_of_inOrder {os : List (ObjectId × Object)} {x : ObjectId × Object} (h : x ∈ inOrder os) :
    x ∈ os := by
  obtain ⟨id, _, hx⟩ := List.mem_filterMap.mp h
  obtain ⟨o, ho, rfl⟩ := Option.map_eq_some_iff.mp hx
  obtain ⟨before, after, hsplit, _⟩ := List.lookup_eq_some_iff.mp ho
  rw [← List.mem_reverse, hsplit]
  simp

lemma objectAt?_holdsWords {file : Bytes} {t : Table} {e : TableEntry} {x : ObjectId × Object}
    (h : objectAt? file t e = some x) : ObjectHoldsWords x.2 := by
  cases e with
  | packed => cases h
  | plain offset generation =>
    rw [objectAt?] at h
    split_ifs at h
    exact objectHoldsWords_of_indirect h

/-- The objects of a table, if deciphering makes no new integers. -/
lemma objects_holdWords (t : Table) (file : Bytes) {decipher : ObjectId → Object → Object}
    (h : ∀ id o, ObjectHoldsWords o → ObjectHoldsWords (decipher id o)) :
    ∀ x ∈ t.objects file decipher, ObjectHoldsWords x.2 := by
  intro x hx
  rcases List.mem_append.mp (mem_of_inOrder hx) with hx | hx
  · obtain ⟨y, _, hx⟩ := List.mem_flatMap.mp hx
    exact objectsWithin_holdWords y x hx
  · obtain ⟨y, hy, rfl⟩ := List.mem_map.mp (List.mem_filter.mp hx).1
    obtain ⟨e, _, he⟩ := List.mem_filterMap.mp hy
    exact h _ _ (objectAt?_holdsWords he)

lemma object?_holdsWords {t : Table} {file : Bytes} {id : ObjectId} {o : Object}
    (h : t.object? file id = some o) : ObjectHoldsWords o := by
  obtain ⟨before, after, hsplit, _⟩ := List.lookup_eq_some_iff.mp h
  have hmem : (id, o) ∈ t.effective.filterMap fun x => objectAt? file t x.2 := by
    rw [← List.mem_reverse, hsplit]
    simp
  obtain ⟨e, _, he⟩ := List.mem_filterMap.mp hmem
  exact objectAt?_holdsWords he

lemma protectedObjects_holdWords {t : Table} {file : Bytes} {trailer : Dict} {guard : Value}
    {xs : List (ObjectId × Object)} (h : t.protectedObjects file trailer guard = .ok xs) :
    ∀ x ∈ xs, ObjectHoldsWords x.2 := by
  have hone : ∀ {id : ObjectId} {o : Object}, t.object? file id = some o →
      ∀ x ∈ [(id, o)], ObjectHoldsWords x.2 :=
    fun ho => List.forall_mem_singleton.mpr (object?_holdsWords ho)
  unfold Table.protectedObjects at h
  split at h
  · split at h
    · next hdict =>
      split at h
      · cases h
        exact hone hdict
      · next p _ =>
        split_ifs at h
        · cases h
          exact hone hdict
        · split at h
          · split_ifs at h
            cases h
            apply objects_holdWords
            intro i o ho
            split_ifs
            · exact ho
            · exact decipher_holdsWords p _ i ho
          · cases h
          · cases h
    · next ho =>
      cases h
      exact hone ho
    · cases h
      exact List.forall_mem_nil _
  · cases h
    exact List.forall_mem_nil _

/-- All integers in the objects of a document that was read have 64 bits. -/
theorem ofBytes_holdsWords {bytes : Bytes} {d : Document} (h : Document.ofBytes bytes = .ok d) :
    ∀ x ∈ d.objects, ObjectHoldsWords x.2 := by
  unfold Document.ofBytes at h
  dsimp only at h
  split at h
  · cases h
  · split at h
    · cases h
    · obtain ⟨⟨newest, trailer⟩, _, h⟩ := bind_eq_ok.mp h
      obtain ⟨t, _, h⟩ := bind_eq_ok.mp h
      dsimp only at h
      obtain ⟨_, h⟩ := check_eq_ok.mp h
      split at h
      · obtain ⟨xs, hxs, h⟩ := bind_eq_ok.mp h
        cases h
        exact protectedObjects_holdWords hxs
      · cases h
        dsimp only
        apply objects_holdWords
        exact fun _ _ ho => ho

end ScanBinder.Proofs
