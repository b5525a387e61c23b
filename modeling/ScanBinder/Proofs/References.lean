import Mathlib.Tactic.Common
import ScanBinder.Pdf.Object

/-!
# Chains of references

An object may be nothing but a reference to another one. What a reference leads to is at the end
of such a chain: an object, or nothing where the last reference dangles. Only so many references
are followed, so a longer chain ends in a fault, and so does one that runs into a cycle. These
are all the cases.
-/

namespace ScanBinder.Proofs
open Pdf

section
variable {d : Document}

/-- From `id` on, `k` objects that are only references lead to `last`. -/
inductive RefChain (d : Document) : Nat → ObjectId → ObjectId → Prop
  | nil (id : ObjectId) : RefChain d 0 id id
  | cons {k : Nat} {id next last : ObjectId} (h : d.object? id = some (.value (.ref next)))
    (rest : RefChain d k next last) : RefChain d (k + 1) id last

/-- What is met from `id` on, if at most `limit` references are followed. -/
inductive Meets (d : Document) (limit : Nat) (id : ObjectId) : Except Fault Object → Prop
  | object {k : Nat} {last : ObjectId} {o : Object} (hk : k ≤ limit) (hchain : RefChain d k id last)
    (ho : d.object? last = some o) (hend : ∀ next, o ≠ .value (.ref next)) :
    Meets d limit id (.ok o)
  | nothing {k : Nat} {last : ObjectId} (hk : k ≤ limit + 1) (hchain : RefChain d k id last)
    (hnone : d.object? last = none) : Meets d limit id (.error (.notFound last))
  | tooMany {k : Nat} {last : ObjectId} (hk : limit < k) (hchain : RefChain d k id last)
    (hsome : (d.object? last).isSome = true) : Meets d limit id (.error .tooManyReferences)

/-- The object of a number, with at most `limit` references followed. -/
def visit (d : Document) (limit : Nat) (id : ObjectId) : Except Fault Object :=
  match d.object? id with
  | some o => d.follow limit o
  | none => .error (.notFound id)

lemma get_eq_visit (d : Document) (id : ObjectId) :
    d.get id = visit d Document.referenceLimit id := rfl

lemma visit_of_none {limit : Nat} {id : ObjectId} (h : d.object? id = none) :
    visit d limit id = .error (.notFound id) := by
  rw [visit, h]

lemma visit_of_end {limit : Nat} {id : ObjectId} {o : Object} (h : d.object? id = some o)
    (hend : ∀ next, o ≠ .value (.ref next)) : visit d limit id = .ok o := by
  rw [visit, h]
  cases o with
  | stream s => cases limit <;> rfl
  | value v =>
    cases v with
    | ref next => exact absurd rfl (hend next)
    | _ => cases limit <;> rfl

lemma visit_of_ref {limit : Nat} {id next : ObjectId}
    (h : d.object? id = some (.value (.ref next))) :
    visit d (limit + 1) id = visit d limit next := by
  rw [visit, h]
  rfl

lemma visit_zero_of_ref {id next : ObjectId} (h : d.object? id = some (.value (.ref next))) :
    visit d 0 id =
      if (d.object? next).isSome then .error .tooManyReferences else .error (.notFound next) := by
  rw [visit, h]
  rfl

lemma RefChain.isSome {k : Nat} {id last : ObjectId} (h : RefChain d k id last)
    (hlast : (d.object? last).isSome = true) : (d.object? id).isSome = true := by
  cases h with
  | nil => exact hlast
  | cons h _ => rw [h]; rfl

/-! ## What is met is what is found -/

lemma visit_of_chain_end {k : Nat} {id last : ObjectId} {o : Object} (hchain : RefChain d k id last)
    (ho : d.object? last = some o) (hend : ∀ next, o ≠ .value (.ref next)) {limit : Nat}
    (hk : k ≤ limit) : visit d limit id = .ok o := by
  induction hchain generalizing limit with
  | nil => exact visit_of_end ho hend
  | cons h _ ih =>
    obtain ⟨limit, rfl⟩ := Nat.exists_eq_add_one_of_ne_zero (Nat.ne_of_gt (Nat.zero_lt_of_lt hk))
    rw [visit_of_ref h]
    exact ih ho (Nat.le_of_succ_le_succ hk)

lemma visit_of_chain_none {k : Nat} {id last : ObjectId} (hchain : RefChain d k id last)
    (hnone : d.object? last = none) {limit : Nat} (hk : k ≤ limit + 1) :
    visit d limit id = .error (.notFound last) := by
  induction hchain generalizing limit with
  | nil => exact visit_of_none hnone
  | cons h rest ih =>
    cases limit with
    | succ limit =>
      rw [visit_of_ref h]
      exact ih hnone (Nat.le_of_succ_le_succ hk)
    | zero =>
      -- The last reference that may be followed is the one that dangles.
      obtain rfl := Nat.le_zero.mp (Nat.le_of_succ_le_succ hk)
      cases rest
      rw [visit_zero_of_ref h, hnone]
      rfl

lemma visit_of_long_chain {k : Nat} {id last : ObjectId} (hchain : RefChain d k id last)
    (hsome : (d.object? last).isSome = true) {limit : Nat} (hk : limit < k) :
    visit d limit id = .error .tooManyReferences := by
  induction hchain generalizing limit with
  | nil => exact absurd hk (Nat.not_lt_zero _)
  | cons h rest ih =>
    cases limit with
    | succ limit =>
      rw [visit_of_ref h]
      exact ih hsome (Nat.lt_of_succ_lt_succ hk)
    | zero => rw [visit_zero_of_ref h, if_pos (rest.isSome hsome)]

lemma visit_of_meets {limit : Nat} {id : ObjectId} {r : Except Fault Object}
    (h : Meets d limit id r) : visit d limit id = r := by
  cases h with
  | object hk hchain ho hend => exact visit_of_chain_end hchain ho hend hk
  | nothing hk hchain hnone => exact visit_of_chain_none hchain hnone hk
  | tooMany hk hchain hsome => exact visit_of_long_chain hchain hsome hk

/-- A reference in front makes a chain longer, and one more may be followed. -/
lemma Meets.cons {limit : Nat} {id next : ObjectId} {r : Except Fault Object}
    (h : d.object? id = some (.value (.ref next))) (hnext : Meets d limit next r) :
    Meets d (limit + 1) id r := by
  cases hnext with
  | object hk hchain ho hend => exact .object (Nat.succ_le_succ hk) (.cons h hchain) ho hend
  | nothing hk hchain hnone => exact .nothing (Nat.succ_le_succ hk) (.cons h hchain) hnone
  | tooMany hk hchain hsome => exact .tooMany (Nat.succ_lt_succ hk) (.cons h hchain) hsome

lemma visit_meets_of_no_ref {limit : Nat} {id : ObjectId}
    (h : ∀ next, d.object? id ≠ some (.value (.ref next))) :
    Meets d limit id (visit d limit id) := by
  cases hid : d.object? id with
  | none =>
    rw [visit_of_none hid]
    exact .nothing (Nat.zero_le _) (.nil id) hid
  | some o =>
    have hend : ∀ next, o ≠ .value (.ref next) := by
      rintro next rfl
      exact h next hid
    rw [visit_of_end hid hend]
    exact .object (Nat.zero_le _) (.nil id) hid hend

lemma visit_meets (limit : Nat) (id : ObjectId) : Meets d limit id (visit d limit id) := by
  induction limit generalizing id with
  | zero =>
    by_cases href : ∃ next, d.object? id = some (.value (.ref next))
    · obtain ⟨next, hid⟩ := href
      rw [visit_zero_of_ref hid]
      split_ifs with hsome
      · exact .tooMany Nat.one_pos (.cons hid (.nil next)) hsome
      · exact .nothing (Nat.le_refl 1) (.cons hid (.nil next))
          (Option.not_isSome_iff_eq_none.mp hsome)
    · exact visit_meets_of_no_ref (not_exists.mp href)
  | succ limit ih =>
    by_cases href : ∃ next, d.object? id = some (.value (.ref next))
    · obtain ⟨next, hid⟩ := href
      rw [visit_of_ref hid]
      exact (ih next).cons hid
    · exact visit_meets_of_no_ref (not_exists.mp href)

/-- Following references finds what they lead to, and fails as they do. -/
theorem get_eq_iff {id : ObjectId} {r : Except Fault Object} :
    d.get id = r ↔ Meets d Document.referenceLimit id r := by
  rw [get_eq_visit]
  constructor
  · rintro rfl
    exact visit_meets _ _
  · exact visit_of_meets

/-! ## Dictionaries -/

/-- A reference to `id` leads to the dictionary over at most `limit` further references. -/
def LeadsTo (d : Document) (limit : Nat) (id : ObjectId) (dict : Dict) : Prop :=
  Meets d limit id (.ok (.value (.dict dict)))

/-- Why a reference to `id` does not lead to a dictionary. -/
inductive NoDictionary (d : Document) (limit : Nat) (id : ObjectId) : Fault → Prop
  | unmet {f : Fault} (h : Meets d limit id (.error f)) : NoDictionary d limit id f
  | other {o : Object} (h : Meets d limit id (.ok o)) (ho : ∀ dict, o ≠ .value (.dict dict)) :
    NoDictionary d limit id (.wrongKind "Dictionary" o.kind)

theorem dictionary_eq_ok_iff {id : ObjectId} {dict : Dict} :
    d.dictionary id = .ok dict ↔ LeadsTo d Document.referenceLimit id dict := by
  unfold LeadsTo
  rw [← get_eq_iff, Document.dictionary]
  constructor
  · intro h
    split at h
    · next hget => rw [hget, Except.ok.inj h]
    · cases h
    · cases h
  · intro h
    rw [h]

lemma toOption_dictionary_eq_some_iff {id : ObjectId} {dict : Dict} :
    (d.dictionary id).toOption = some dict ↔ LeadsTo d Document.referenceLimit id dict := by
  rw [← dictionary_eq_ok_iff]
  cases d.dictionary id with
  | ok e => simp [Except.toOption]
  | error f => simp [Except.toOption]

theorem dictionary_eq_error_iff {id : ObjectId} {f : Fault} :
    d.dictionary id = .error f ↔ NoDictionary d Document.referenceLimit id f := by
  constructor
  · intro h
    rw [Document.dictionary] at h
    split at h
    · cases h
    · next o ho hget =>
      cases h
      exact .other (get_eq_iff.mp hget) ho
    · next hget =>
      cases h
      exact .unmet (get_eq_iff.mp hget)
  · intro h
    rw [Document.dictionary]
    cases h with
    | unmet h => rw [get_eq_iff.mpr h]
    | other h ho =>
      rw [get_eq_iff.mpr h]
      split
      · next heq => exact absurd (Except.ok.inj heq) (ho _)
      · next heq => rw [Except.ok.inj heq]; rfl
      · next heq => cases heq

/-- There is a reason exactly if there is no dictionary. -/
lemma exists_noDictionary_iff {id : ObjectId} :
    (∃ f, NoDictionary d Document.referenceLimit id f) ↔
      ∀ dict, ¬LeadsTo d Document.referenceLimit id dict := by
  simp only [← dictionary_eq_error_iff, ← dictionary_eq_ok_iff]
  cases d.dictionary id with
  | ok dict => simp
  | error f => simp

end

end ScanBinder.Proofs
