import ScanBinder.Proofs.Atoms

/-!
# Values are read back

A value within the limits of the format is read back from its written form, whole reals as
integers and all else as it was. A value that is not cannot be read at all, and neither can one
that contains it. The reader is given more fuel than the value has bytes.
-/

namespace ScanBinder.Proofs
open Pdf

/-! ## What stands between values -/

/-- A byte that no reference continues with may follow a value behind one of the bytes that end
it. -/
lemma clear_cons {b c : UInt8} (hb : b = 0x20 ∨ b = 0x0A) (hspace : isSpace c = false)
    (hcomment : c ≠ 0x25) (hdigit : decimalDigit? c = none) (hletter : c ≠ 0x52) (bs : Bytes) :
    Clear (b :: c :: bs) := by
  have hb' : isSpace b = true := by rcases hb with rfl | rfl <;> rfl
  have hrest : space (b :: c :: bs) = c :: bs := by
    rw [space_cons hb', space_of_solid ⟨c, bs, rfl, hspace, hcomment⟩]
  refine ⟨⟨b, _, rfl, hb.imp_right .inl⟩, ?_, ?_⟩
  · rw [hrest, List.head?_cons]
    simpa using hletter
  · intro n bs' hn
    rw [hrest, natural_of_noDigit (noDigit_cons hdigit bs)] at hn
    cases hn

lemma clear_bracket (rest : Bytes) : Clear (0x5D :: rest) := by
  have hrest : space (0x5D :: rest) = 0x5D :: rest := space_of_solid ⟨_, _, rfl, rfl, by decide⟩
  refine ⟨⟨0x5D, rest, rfl, .inr (.inr rfl)⟩, ?_, ?_⟩
  · rw [hrest]
    simp
  · intro n bs hn
    rw [hrest, natural_of_noDigit (noDigit_cons rfl rest)] at hn
    cases hn

lemma clear_items (vs : List Value) (rest : Bytes) :
    Clear (itemBytes vs ++ 0x5D :: rest) := by
  induction vs with
  | nil => exact clear_bracket rest
  | cons v vs ih =>
    have hbytes : itemBytes (v :: vs) ++ 0x5D :: rest =
        0x20 :: (v.bytes ++ (itemBytes vs ++ 0x5D :: rest)) := by simp [itemBytes]
    rw [hbytes]
    exact clear_value v ih

/-- The entries of a dictionary and its closing bracket start with a slash or with the bracket. -/
lemma entryBytes_head (es : Dict) (rest : Bytes) :
    ∃ b r, entryBytes es ++ 0x3E :: rest = b :: r ∧ (b = 0x2F ∨ b = 0x3E) := by
  cases es with
  | nil => exact ⟨0x3E, rest, rfl, .inr rfl⟩
  | cons e es => exact ⟨0x2F, _, rfl, .inl rfl⟩

lemma solid_entries (es : Dict) (rest : Bytes) : Solid (entryBytes es ++ 0x3E :: rest) := by
  obtain ⟨b, r, hb, hcases⟩ := entryBytes_head es rest
  refine ⟨b, r, hb, ?_⟩
  rcases hcases with rfl | rfl <;> decide

lemma clear_entries (es : Dict) (rest : Bytes) :
    Clear (0x20 :: (entryBytes es ++ 0x3E :: rest)) := by
  obtain ⟨b, r, hb, hcases⟩ := entryBytes_head es rest
  rw [hb]
  rcases hcases with rfl | rfl
  · exact clear_cons (.inl rfl) rfl (by decide) rfl (by decide) r
  · exact clear_cons (.inl rfl) rfl (by decide) rfl (by decide) r

/-! ## New keys -/

/-- A new key comes last. -/
lemma set_of_new {d : Dict} {key : Bytes} (h : key ∉ d.map Prod.fst) (v : Value) :
    Dict.set d key v = d ++ [(key, v)] := by
  have hany : d.any (fun e => decide (e.1 = key)) = false := by
    rw [List.any_eq_false]
    intro e he hkey
    exact h (List.mem_map.mpr ⟨e, he, of_decide_eq_true hkey⟩)
  rw [Dict.set, hany]
  rfl

/-- An entry of a dictionary in which a key was set has that key and its value, or it was there
with another key. -/
lemma mem_set {d : Dict} {key : Bytes} {v : Value} {x : Bytes × Value}
    (h : x ∈ Dict.set d key v) : x = (key, v) ∨ x ∈ d ∧ x.1 ≠ key := by
  unfold Dict.set at h
  split_ifs at h with hany
  · obtain ⟨e, he, rfl⟩ := List.mem_map.mp h
    split_ifs with hkey
    · exact .inl rfl
    · exact .inr ⟨he, hkey⟩
  · rcases List.mem_append.mp h with h | h
    · refine .inr ⟨h, fun hkey => hany ?_⟩
      exact List.any_eq_true.mpr ⟨x, h, decide_eq_true hkey⟩
    · exact .inl (List.mem_singleton.mp h)

lemma keys_set_nodup {d : Dict} (h : (d.map Prod.fst).Nodup) (key : Bytes) (v : Value) :
    ((Dict.set d key v).map Prod.fst).Nodup := by
  by_cases hmem : key ∈ d.map Prod.fst
  · have hany : d.any (·.1 = key) = true := by
      obtain ⟨e, he, hkey⟩ := List.mem_map.mp hmem
      exact List.any_eq_true.mpr ⟨e, he, decide_eq_true hkey⟩
    have hkeys : (d.map fun e => if e.1 = key then (key, v) else e).map Prod.fst =
        d.map Prod.fst := by
      rw [List.map_map]
      refine List.map_congr_left fun e _ => ?_
      by_cases he : e.1 = key
      · simp [he]
      · simp [he]
    rw [Dict.set, if_pos hany, hkeys]
    exact h
  · rw [set_of_new hmem, List.map_append, List.nodup_append]
    refine ⟨h, by simp, ?_⟩
    intro k hk k' hk' heq
    rw [heq, List.mem_singleton.mp hk'] at hk
    exact hmem hk

lemma soundEntries_iff {d : Dict} : SoundEntries d ↔ ∀ x ∈ d, Sound x.2 := by
  induction d with
  | nil => simp [SoundEntries]
  | cons x d ih => rw [SoundEntries, ih, List.forall_mem_cons]

lemma writableEntries_iff {d : Dict} : WritableEntries d ↔ ∀ x ∈ d, Writable x.2 := by
  induction d with
  | nil => simp [WritableEntries]
  | cons x d ih => rw [WritableEntries, ih, List.forall_mem_cons]

lemma sound_set {d : Dict} (hd : Sound (.dict d)) (key : Bytes) {v : Value} (hv : Sound v) :
    Sound (.dict (Dict.set d key v)) := by
  refine ⟨soundEntries_iff.mpr fun x hx => ?_, keys_set_nodup hd.2 key v⟩
  rcases mem_set hx with rfl | ⟨hx, _⟩
  · exact hv
  · exact soundEntries_iff.mp hd.1 x hx

lemma writable_set {d : Dict} (hd : Writable (.dict d)) (key : Bytes) {v : Value}
    (hv : Writable v) : Writable (.dict (Dict.set d key v)) := by
  refine writableEntries_iff.mpr fun x hx => ?_
  rcases mem_set hx with rfl | ⟨hx, _⟩
  · exact hv
  · exact writableEntries_iff.mp hd x hx

/-- The next of several keys is a new one. -/
lemma set_next {known es : Dict} {key : Bytes} {v : Value}
    (h : ((known ++ (key, v) :: es).map Prod.fst).Nodup) (w : Value) :
    Dict.set known key w = known ++ [(key, w)] ∧
      (((known ++ [(key, w)]) ++ es).map Prod.fst).Nodup := by
  refine ⟨set_of_new ?_ w, by simpa using h⟩
  rw [List.map_append, List.nodup_append] at h
  intro hkey
  exact h.2.2 key hkey key (by simp) rfl

/-! ## Brackets -/

lemma arrayBytes_eq (vs : List Value) (rest : Bytes) :
    (Value.array vs).bytes ++ rest = 0x5B :: (itemBytes vs ++ 0x5D :: rest) := by
  simp [Value.bytes]

lemma dictBytes_eq (d : Dict) (rest : Bytes) :
    (Value.dict d).bytes ++ rest = 0x3C :: 0x3C :: (entryBytes d ++ 0x3E :: 0x3E :: rest) := by
  simp [Value.bytes]

lemma itemBytes_cons (v : Value) (vs : List Value) (rest : Bytes) :
    itemBytes (v :: vs) ++ 0x5D :: rest = 0x20 :: (v.bytes ++ (itemBytes vs ++ 0x5D :: rest)) := by
  simp [itemBytes]

lemma entryBytes_cons (key : Bytes) (v : Value) (es : Dict) (rest : Bytes) :
    entryBytes ((key, v) :: es) ++ 0x3E :: rest =
      nameBytes key ++ 0x20 :: (v.bytes ++ 0x20 :: (entryBytes es ++ 0x3E :: rest)) := by
  simp [entryBytes]

lemma arrayBytes_length (vs : List Value) :
    (Value.array vs).bytes.length = (itemBytes vs).length + 2 := by
  simp [Value.bytes]

lemma dictBytes_length (d : Dict) : (Value.dict d).bytes.length = (entryBytes d).length + 4 := by
  simp [Value.bytes]

lemma itemBytes_length (v : Value) (vs : List Value) :
    (itemBytes (v :: vs)).length = 1 + v.bytes.length + (itemBytes vs).length := by
  simp [itemBytes]
  omega

lemma entryBytes_length (key : Bytes) (v : Value) (es : Dict) :
    v.bytes.length + (entryBytes es).length + 2 ≤ (entryBytes ((key, v) :: es)).length := by
  simp [entryBytes]
  omega

/-! ## One step of each reader -/

lemma value_of_atom {fuel : Nat} {bs rest : Bytes} {v : Value} (h : atom bs = some (v, rest)) :
    value (fuel + 1) bs = some (v, space rest) := by
  simp only [value, h]

/-- What is no atom is a string, an array or a dictionary, as its first byte tells. -/
lemma value_cons {b : UInt8} {bs : Bytes} (h : atom (b :: bs) = none) (fuel : Nat) :
    value (fuel + 1) (b :: bs) =
      if b = 0x28 then (literal 0 [] bs).map fun x => (.str x.1, space x.2)
      else if b = 0x5B then
        if (items fuel (space bs)).2.head? = some 0x5D then
          some (.array (items fuel (space bs)).1, space (List.tail (items fuel (space bs)).2))
        else none
      else if b = 0x3C then
        ((hexString [] bs).map fun x => (.str x.1, space x.2)).or
          ((dictionary fuel (0x3C :: bs)).map fun x => (.dict x.1, space x.2))
      else none := by
  unfold value
  rw [h]
  dsimp only
  split
  · next heq =>
    cases heq
    rfl
  · next heq =>
    cases heq
    rw [if_neg (by decide), if_pos rfl]
    split
    · next hitems =>
      rw [hitems]
      rfl
    · next hstop =>
      refine (if_neg fun hend => ?_).symm
      obtain ⟨r, hr⟩ := List.head?_eq_some_iff.mp hend
      exact hstop _ r (Prod.ext rfl hr)
  · next heq =>
    cases heq
    rw [if_neg (by decide), if_neg (by decide), if_pos rfl]
    cases hexString [] _ with
    | some x => rfl
    | none => cases dictionary fuel _ <;> rfl
  · next hround hsquare hangle =>
    rw [if_neg fun hb => hround bs (congrArg (· :: bs) hb),
      if_neg fun hb => hsquare bs (congrArg (· :: bs) hb),
      if_neg fun hb => hangle bs (congrArg (· :: bs) hb)]

lemma items_succ (fuel : Nat) (bs : Bytes) :
    items (fuel + 1) bs = (value fuel bs).elim ([], bs)
      fun x => (x.1 :: (items fuel x.2).1, (items fuel x.2).2) := by
  rw [items]
  cases value fuel bs <;> rfl

lemma entries_succ (fuel : Nat) (known : Dict) (bs : Bytes) :
    entries (fuel + 1) known bs = (name bs).elim (known, bs)
      fun n => (value fuel (space n.2)).elim (known, bs)
        fun x => entries fuel (Dict.set known n.1 x.1) x.2 := by
  rw [entries]
  cases name bs with
  | none => rfl
  | some n =>
    dsimp only [Option.elim_some]
    cases value fuel (space n.2) <;> rfl

/-- What is no atom and starts with no bracket is no value. -/
lemma value_of_no_atom {b : UInt8} {bs : Bytes} (h : atom (b :: bs) = none) (hround : b ≠ 0x28)
    (hsquare : b ≠ 0x5B) (hangle : b ≠ 0x3C) (fuel : Nat) : value fuel (b :: bs) = none := by
  cases fuel with
  | zero => rfl
  | succ fuel => rw [value_cons h, if_neg hround, if_neg hsquare, if_neg hangle]

/-- A number that is no atom is no value. -/
lemma value_of_no_number {bs rest : Bytes}
    (h : (∃ negative cs, bs = numeral negative cs ∧ AllDigits cs ∧ cs ≠ []) ∨ bs ∈ numberWords)
    (hatom : atom (bs ++ rest) = none) (fuel : Nat) : value fuel (bs ++ rest) = none := by
  have hhead : ∃ b r, bs = b :: r ∧ b ≠ 0x28 ∧ b ≠ 0x5B ∧ b ≠ 0x3C := by
    rcases h with ⟨negative, cs, rfl, hcs, hne⟩ | hword
    · obtain ⟨b, r, hb, hfirst⟩ := numeral_head negative hcs hne
      refine ⟨b, r, hb, ?_, ?_, ?_⟩
      all_goals
        rintro rfl
        rcases hfirst with h | h
        · cases h
        · cases h
    · simp only [numberWords, List.mem_cons, List.not_mem_nil, or_false] at hword
      rcases hword with rfl | rfl | rfl
      · exact ⟨0x4E, [0x61, 0x4E], by decide, by decide, by decide, by decide⟩
      · exact ⟨0x69, [0x6E, 0x66], by decide, by decide, by decide, by decide⟩
      · exact ⟨0x2D, [0x69, 0x6E, 0x66], by decide, by decide, by decide, by decide⟩
  obtain ⟨b, r, rfl, hround, hsquare, hangle⟩ := hhead
  exact value_of_no_atom hatom hround hsquare hangle fuel

lemma value_bracket (fuel : Nat) (rest : Bytes) : value fuel (0x5D :: rest) = none := by
  refine value_of_no_atom ?_ (by decide) (by decide) (by decide) fuel
  rw [atom_of_noNumber (noWord_of_head (by decide) (by decide) (by decide) rest) rfl (by decide)
    (by decide) (by decide)]
  rfl

lemma value_str (fuel : Nat) (s rest : Bytes) :
    value (fuel + 1) ((Value.str s).bytes ++ rest) =
      if deepest 0 s ≤ nestingLimit then some (.str s, space rest) else none := by
  rw [Value.bytes, stringBytes_append, value_cons (atom_of_bracket (.inl rfl)), if_pos rfl,
    literal_stringBytes]
  split_ifs
  · rfl
  · rfl

/-- An array is read if its items stop in front of its end. -/
lemma value_array {fuel : Nat} {vs ws : List Value} {rest bs : Bytes} {b : UInt8}
    (h : items fuel (space (itemBytes vs ++ 0x5D :: rest)) = (ws, b :: bs)) :
    value (fuel + 1) ((Value.array vs).bytes ++ rest) =
      if b = 0x5D then some (.array ws, space bs) else none := by
  rw [arrayBytes_eq, value_cons (atom_of_bracket (.inr (.inl rfl))), if_neg (by decide),
    if_pos rfl, h, List.head?_cons, List.tail_cons]
  simp only [Option.some.injEq]

lemma value_dict (fuel : Nat) (d : Dict) (rest : Bytes) :
    value (fuel + 1) ((Value.dict d).bytes ++ rest) =
      (dictionary fuel ((Value.dict d).bytes ++ rest)).map fun x => (.dict x.1, space x.2) := by
  have hhex : hexString [] (0x3C :: (entryBytes d ++ 0x3E :: 0x3E :: rest)) = none := rfl
  rw [dictBytes_eq, value_cons (atom_of_bracket (.inr (.inr rfl))), if_neg (by decide),
    if_neg (by decide), if_pos rfl, hhex]
  rfl

/-! ## Values within the limits -/

/-- What each of the readers gives back with the given fuel. -/
structure ReadsBack (fuel : Nat) : Prop where
  value : ∀ v rest, Sound v → Writable v → v.bytes.length < fuel → Clear rest →
    ∃ w, value fuel (v.bytes ++ rest) = some (w, space rest) ∧ Kept v w
  items : ∀ vs rest, SoundItems vs → WritableItems vs → (itemBytes vs).length < fuel →
    ∃ ws, items fuel (space (itemBytes vs ++ 0x5D :: rest)) = (ws, 0x5D :: rest) ∧ KeptItems vs ws
  dictionary : ∀ d rest, Sound (.dict d) → Writable (.dict d) →
    (Value.dict d).bytes.length ≤ fuel →
    ∃ e, dictionary fuel ((Value.dict d).bytes ++ rest) = some (e, rest) ∧ KeptEntries d e
  entries : ∀ known es rest, SoundEntries es → WritableEntries es →
    ((known ++ es).map Prod.fst).Nodup → (entryBytes es).length < fuel →
    ∃ es', entries fuel known (entryBytes es ++ 0x3E :: rest) = (known ++ es', 0x3E :: rest) ∧
      KeptEntries es es'

section
variable {fuel : Nat} (ih : ReadsBack fuel)

include ih

lemma value_step {v : Value} {rest : Bytes} (hv : Sound v) (h : Writable v)
    (hfuel : v.bytes.length < fuel + 1) (hclear : Clear rest) :
    ∃ w, value (fuel + 1) (v.bytes ++ rest) = some (w, space rest) ∧ Kept v w := by
  cases v with
  | null => exact ⟨_, value_of_atom (atom_null rest), .same _⟩
  | bool b => exact ⟨_, value_of_atom (atom_word b rest), .same _⟩
  | int n => exact ⟨_, value_of_atom ((atom_int hclear n).trans (if_pos h)), .same _⟩
  | real x =>
    obtain ⟨w, hatom, hkept⟩ := atom_realBytes hclear h
    exact ⟨w, value_of_atom hatom, hkept⟩
  | name n => exact ⟨_, value_of_atom (atom_nameBytes hclear n), .same _⟩
  | ref id => exact ⟨_, value_of_atom (atom_ref hv rest), .same _⟩
  | str s => exact ⟨.str s, (value_str fuel s rest).trans (if_pos h), .same _⟩
  | array vs =>
    rw [arrayBytes_length] at hfuel
    obtain ⟨ws, hws, hkept⟩ := ih.items vs rest hv h (by omega)
    exact ⟨.array ws, value_array hws, .array hkept⟩
  | dict d =>
    obtain ⟨e, he, hkept⟩ := ih.dictionary d rest hv h (by omega)
    refine ⟨.dict e, ?_, .dict hkept⟩
    rw [value_dict, he]
    rfl

lemma items_step {vs : List Value} (rest : Bytes) (hvs : SoundItems vs) (h : WritableItems vs)
    (hfuel : (itemBytes vs).length < fuel + 1) :
    ∃ ws, items (fuel + 1) (space (itemBytes vs ++ 0x5D :: rest)) = (ws, 0x5D :: rest) ∧
      KeptItems vs ws := by
  cases vs with
  | nil =>
    have hrest : space (0x5D :: rest) = 0x5D :: rest := space_of_solid ⟨_, _, rfl, rfl, by decide⟩
    refine ⟨[], ?_, .nil⟩
    rw [itemBytes, List.nil_append, hrest, items_succ, value_bracket]
    rfl
  | cons v vs =>
    rw [itemBytes_length] at hfuel
    obtain ⟨w, hw, hkept⟩ := ih.value v _ hvs.1 h.1 (by omega) (clear_items vs rest)
    obtain ⟨ws, hws, hkepts⟩ := ih.items vs rest hvs.2 h.2 (by omega)
    refine ⟨w :: ws, ?_, .cons hkept hkepts⟩
    rw [itemBytes_cons, space_bytes, items_succ, hw, Option.elim_some, hws]

lemma dictionary_step {d : Dict} (rest : Bytes) (hd : Sound (.dict d)) (h : Writable (.dict d))
    (hfuel : (Value.dict d).bytes.length ≤ fuel + 1) :
    ∃ e, dictionary (fuel + 1) ((Value.dict d).bytes ++ rest) = some (e, rest) ∧
      KeptEntries d e := by
  rw [dictBytes_length] at hfuel
  obtain ⟨e, he, hkept⟩ := ih.entries [] d (0x3E :: rest) hd.1 h hd.2 (by omega)
  refine ⟨e, ?_, hkept⟩
  rw [dictBytes_eq, dictionary, space_of_solid (solid_entries d _), he]
  rfl

lemma entries_step {known es : Dict} (rest : Bytes) (hes : SoundEntries es)
    (h : WritableEntries es) (hnodup : ((known ++ es).map Prod.fst).Nodup)
    (hfuel : (entryBytes es).length < fuel + 1) :
    ∃ es', entries (fuel + 1) known (entryBytes es ++ 0x3E :: rest) =
      (known ++ es', 0x3E :: rest) ∧ KeptEntries es es' := by
  cases es with
  | nil =>
    refine ⟨[], ?_, .nil⟩
    rw [List.append_nil]
    exact entries_succ fuel known (0x3E :: rest)
  | cons e es =>
    obtain ⟨key, v⟩ := e
    have hlength := entryBytes_length key v es
    obtain ⟨w, hw, hkept⟩ := ih.value v _ hes.1 h.1 (by omega) (clear_entries es rest)
    obtain ⟨hset, hnodup'⟩ := set_next hnodup w
    obtain ⟨es', hes', hkepts⟩ :=
      ih.entries (known ++ [(key, w)]) es rest hes.2 h.2 hnodup' (by omega)
    refine ⟨(key, w) :: es', ?_, .cons key hkept hkepts⟩
    rw [entryBytes_cons, entries_succ, name_bytes key rfl (by decide), Option.elim_some,
      space_bytes, hw, Option.elim_some, hset, space_cons rfl,
      space_of_solid (solid_entries es rest), hes', List.append_assoc]
    rfl

end

/-- By induction on the fuel, with one step for each reader. -/
theorem readsBack (fuel : Nat) : ReadsBack fuel := by
  induction fuel with
  | zero =>
    refine ⟨fun _ _ _ _ hfuel => by omega, fun _ _ _ _ hfuel => by omega,
      fun d _ _ _ hfuel => ?_, fun _ _ _ _ _ _ hfuel => by omega⟩
    simp [Value.bytes] at hfuel
  | succ fuel ih =>
    exact ⟨fun v rest hv h hfuel hclear => value_step ih hv h hfuel hclear,
      fun vs rest hvs h hfuel => items_step ih rest hvs h hfuel,
      fun d rest hd h hfuel => dictionary_step ih rest hd h hfuel,
      fun known es rest hes h hnodup hfuel => entries_step ih rest hes h hnodup hfuel⟩

/-! ## Values beyond the limits -/

/-- What becomes of a value beyond the limits with the given fuel. The readers of items and of
entries stop in front of the first one that is, so that no bracket comes next. -/
structure Refuses (fuel : Nat) : Prop where
  value : ∀ v rest, Sound v → ¬Writable v → v.bytes.length < fuel → Clear rest →
    value fuel (v.bytes ++ rest) = none
  items : ∀ vs rest, SoundItems vs → ¬WritableItems vs → (itemBytes vs).length < fuel →
    ∃ ws b bs, items fuel (space (itemBytes vs ++ 0x5D :: rest)) = (ws, b :: bs) ∧ b ≠ 0x5D
  dictionary : ∀ d rest, Sound (.dict d) → ¬Writable (.dict d) →
    (Value.dict d).bytes.length ≤ fuel → dictionary fuel ((Value.dict d).bytes ++ rest) = none
  entries : ∀ known es rest, SoundEntries es → ¬WritableEntries es →
    ((known ++ es).map Prod.fst).Nodup → (entryBytes es).length < fuel →
    ∃ es' bs, entries fuel known (entryBytes es ++ 0x3E :: rest) = (es', 0x2F :: bs)

section
variable {fuel : Nat} (ih : Refuses fuel)
include ih

lemma value_refuse {v : Value} {rest : Bytes} (hv : Sound v) (h : ¬Writable v)
    (hfuel : v.bytes.length < fuel + 1) (hclear : Clear rest) :
    value (fuel + 1) (v.bytes ++ rest) = none := by
  cases v with
  | null => exact absurd trivial h
  | bool b => exact absurd trivial h
  | name n => exact absurd trivial h
  | ref id => exact absurd trivial h
  | int n =>
    exact value_of_no_number (.inl ⟨_, _, intBytes_eq n, allDigits_toDigits _,
      Nat.toDigits_ne_nil⟩) ((atom_int hclear n).trans (if_neg h)) _
  | real x =>
    refine value_of_no_number ?_ (atom_real_of_unreadable hclear h) _
    rcases unreadable_bytes_cases h with ⟨negative, cs, hbytes, hcs, hne, _⟩ | hword
    · exact .inl ⟨negative, cs, hbytes, hcs, hne⟩
    · exact .inr hword
  | str s => exact (value_str fuel s rest).trans (if_neg h)
  | array vs =>
    rw [arrayBytes_length] at hfuel
    obtain ⟨ws, b, bs, hws, hb⟩ := ih.items vs rest hv h (by omega)
    exact (value_array hws).trans (if_neg hb)
  | dict d =>
    rw [value_dict, ih.dictionary d rest hv h (by omega)]
    rfl

lemma items_refuse {vs : List Value} (rest : Bytes) (hvs : SoundItems vs) (h : ¬WritableItems vs)
    (hfuel : (itemBytes vs).length < fuel + 1) :
    ∃ ws b bs, items (fuel + 1) (space (itemBytes vs ++ 0x5D :: rest)) = (ws, b :: bs) ∧
      b ≠ 0x5D := by
  cases vs with
  | nil => exact absurd trivial h
  | cons v vs =>
    rw [itemBytes_length] at hfuel
    rw [itemBytes_cons, space_bytes, items_succ]
    by_cases hv : Writable v
    · have hmore : ¬WritableItems vs := fun hall => h ⟨hv, hall⟩
      obtain ⟨w, hw, _⟩ := (readsBack fuel).value v _ hvs.1 hv (by omega) (clear_items vs rest)
      obtain ⟨ws, b, bs, hws, hb⟩ := ih.items vs rest hvs.2 hmore (by omega)
      refine ⟨w :: ws, b, bs, ?_, hb⟩
      rw [hw, Option.elim_some, hws]
    · obtain ⟨b, r, hbytes, _, _, _, hb, _⟩ := bytes_head v
      have hnone := ih.value v _ hvs.1 hv (by omega) (clear_items vs rest)
      refine ⟨[], b, r ++ (itemBytes vs ++ 0x5D :: rest), ?_, hb⟩
      rw [hnone, Option.elim_none, hbytes, List.cons_append]

lemma dictionary_refuse {d : Dict} (rest : Bytes) (hd : Sound (.dict d))
    (h : ¬Writable (.dict d)) (hfuel : (Value.dict d).bytes.length ≤ fuel + 1) :
    dictionary (fuel + 1) ((Value.dict d).bytes ++ rest) = none := by
  rw [dictBytes_length] at hfuel
  obtain ⟨es, bs, hes⟩ := ih.entries [] d (0x3E :: rest) hd.1 h hd.2 (by omega)
  rw [dictBytes_eq, dictionary, space_of_solid (solid_entries d _), hes]
  rfl

lemma entries_refuse {known es : Dict} (rest : Bytes) (hes : SoundEntries es)
    (h : ¬WritableEntries es) (hnodup : ((known ++ es).map Prod.fst).Nodup)
    (hfuel : (entryBytes es).length < fuel + 1) :
    ∃ es' bs, entries (fuel + 1) known (entryBytes es ++ 0x3E :: rest) = (es', 0x2F :: bs) := by
  cases es with
  | nil => exact absurd trivial h
  | cons e es =>
    obtain ⟨key, v⟩ := e
    have hlength := entryBytes_length key v es
    rw [entryBytes_cons, entries_succ, name_bytes key rfl (by decide), Option.elim_some,
      space_bytes]
    by_cases hv : Writable v
    · have hmore : ¬WritableEntries es := fun hall => h ⟨hv, hall⟩
      obtain ⟨w, hw, _⟩ := (readsBack fuel).value v _ hes.1 hv (by omega) (clear_entries es rest)
      obtain ⟨hset, hnodup'⟩ := set_next hnodup w
      obtain ⟨es', bs, hes'⟩ :=
        ih.entries (known ++ [(key, w)]) es rest hes.2 hmore hnodup' (by omega)
      refine ⟨es', bs, ?_⟩
      rw [hw, Option.elim_some, hset, space_cons rfl, space_of_solid (solid_entries es rest), hes']
    · have hnone := ih.value v _ hes.1 hv (by omega) (clear_entries es rest)
      rw [hnone, Option.elim_none]
      exact ⟨known, _, rfl⟩

end

theorem refuses (fuel : Nat) : Refuses fuel := by
  induction fuel with
  | zero =>
    refine ⟨fun _ _ _ _ hfuel => by omega, fun _ _ _ _ hfuel => by omega,
      fun d _ _ _ hfuel => ?_, fun _ _ _ _ _ _ hfuel => by omega⟩
    simp [Value.bytes] at hfuel
  | succ fuel ih =>
    exact ⟨fun v rest hv h hfuel hclear => value_refuse ih hv h hfuel hclear,
      fun vs rest hvs h hfuel => items_refuse ih rest hvs h hfuel,
      fun d rest hd h hfuel => dictionary_refuse ih rest hd h hfuel,
      fun known es rest hes h hnodup hfuel => entries_refuse ih rest hes h hnodup hfuel⟩

/-! ## Enough fuel -/

lemma length_lt_fuelFor (bs rest : Bytes) : bs.length < fuelFor (bs ++ rest) := by
  rw [fuelFor, List.length_append]
  omega

/-- A value is read back from the front of a byte string. -/
theorem value_bytes {v : Value} (hv : Sound v) (h : Writable v) {rest : Bytes}
    (hclear : Clear rest) :
    ∃ w, value (fuelFor (v.bytes ++ rest)) (v.bytes ++ rest) = some (w, space rest) ∧ Kept v w :=
  (readsBack _).value v rest hv h (length_lt_fuelFor _ _) hclear

/-- So is a dictionary, whatever follows it. -/
theorem dictionary_bytes {d : Dict} (hd : Sound (.dict d)) (h : Writable (.dict d))
    (rest : Bytes) :
    ∃ e, dictionary (fuelFor ((Value.dict d).bytes ++ rest)) ((Value.dict d).bytes ++ rest) =
      some (e, rest) ∧ KeptEntries d e :=
  (readsBack _).dictionary d rest hd h (Nat.le_of_lt (length_lt_fuelFor _ _))

theorem value_eq_none {v : Value} (hv : Sound v) (h : ¬Writable v) {rest : Bytes}
    (hclear : Clear rest) : value (fuelFor (v.bytes ++ rest)) (v.bytes ++ rest) = none :=
  (refuses _).value v rest hv h (length_lt_fuelFor _ _) hclear

theorem dictionary_eq_none {d : Dict} (hd : Sound (.dict d)) (h : ¬Writable (.dict d))
    (rest : Bytes) :
    dictionary (fuelFor ((Value.dict d).bytes ++ rest)) ((Value.dict d).bytes ++ rest) = none :=
  (refuses _).dictionary d rest hd h (Nat.le_of_lt (length_lt_fuelFor _ _))

end ScanBinder.Proofs
