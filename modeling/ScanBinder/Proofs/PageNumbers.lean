import ScanBinder.Proofs.Tokens
import ScanBinder.SortKey

/-!
# Page numbers

The page number of a name is the value of its first parenthesised group of digits. The search
goes from left to right and starts anew at every opening parenthesis, so an unfinished group
hides none that comes after it. It is first followed over marks, and then told of the characters
that the marks stand for.
-/

namespace ScanBinder.Proofs

/-! ## Groups among marks -/

/-- Marks split around a parenthesised group of digits. -/
structure MarkSplit (ms before : List Mark) (ds : List Nat) (after : List Mark) : Prop where
  split : ms = before ++ .opening :: (ds.map .digit ++ .closing :: after)
  nonempty : ds ≠ []

lemma digitRun_group (ds : List Nat) (after : List Mark) :
    digitRun (ds.map .digit ++ .closing :: after) = (ds, .closing :: after) := by
  induction ds with
  | nil => rfl
  | cons d ds ih => rw [List.map_cons, List.cons_append, digitRun, ih]

lemma digitRun_append (ms : List Mark) : (digitRun ms).1.map .digit ++ (digitRun ms).2 = ms := by
  fun_induction digitRun ms with
  | case1 d ms ds rest hrun ih =>
    rw [hrun] at ih
    exact congrArg (Mark.digit d :: ·) ih
  | case2 ms => rfl

lemma groupValue?_of_split {ms after : List Mark} {ds : List Nat}
    (h : MarkSplit (.opening :: ms) [] ds after) : groupValue? ms = some (digitsValue ds) := by
  have hms : ms = ds.map .digit ++ .closing :: after := (List.cons.inj h.split).2
  unfold groupValue?
  rw [hms, digitRun_group]
  cases ds with
  | nil => exact absurd rfl h.nonempty
  | cons d ds => rfl

lemma groupValue?_of_no_split {ms : List Mark}
    (h : ∀ ds after, ¬MarkSplit (.opening :: ms) [] ds after) : groupValue? ms = none := by
  have happend := digitRun_append ms
  unfold groupValue?
  split
  · rename_i d ds after hrun
    rw [hrun] at happend
    exact absurd ⟨congrArg (Mark.opening :: ·) happend.symm, List.cons_ne_nil d ds⟩ (h _ _)
  · rfl

lemma MarkSplit.cons {ms before after : List Mark} {ds : List Nat}
    (h : MarkSplit ms before ds after) (m : Mark) : MarkSplit (m :: ms) (m :: before) ds after :=
  ⟨congrArg (m :: ·) h.split, h.nonempty⟩

lemma pageNumber?_cons {m : Mark} {ms : List Mark}
    (h : ∀ ds after, ¬MarkSplit (m :: ms) [] ds after) :
    pageNumber? (m :: ms) = pageNumber? ms := by
  cases m with
  | opening => rw [pageNumber?, groupValue?_of_no_split h]
  | closing | digit | other => rfl

/-- The search finds the group with the fewest marks before it. -/
theorem pageNumber?_of_first {ms before after : List Mark} {ds : List Nat}
    (h : MarkSplit ms before ds after)
    (hfirst : ∀ before' ds' after', MarkSplit ms before' ds' after' →
      before.length ≤ before'.length) : pageNumber? ms = some (digitsValue ds) := by
  induction before generalizing ms with
  | nil =>
    obtain ⟨rest, rfl⟩ : ∃ rest, ms = .opening :: rest := ⟨_, h.split⟩
    rw [pageNumber?, groupValue?_of_split h]
  | cons m before ih =>
    obtain ⟨rest, rfl⟩ : ∃ rest, ms = m :: rest := ⟨_, h.split⟩
    have hskip : ∀ ds' after', ¬MarkSplit (m :: rest) [] ds' after' :=
      fun ds' after' h' => absurd (hfirst _ _ _ h') (by simp)
    rw [pageNumber?_cons hskip]
    refine ih ⟨(List.cons.inj h.split).2, h.nonempty⟩ ?_
    intro before' ds' after' h'
    exact Nat.le_of_succ_le_succ (hfirst _ _ _ (h'.cons m))

/-- A group is found wherever there is one: what comes before it can only hold another. -/
lemma pageNumber?_isSome {ms before after : List Mark} {ds : List Nat}
    (h : MarkSplit ms before ds after) : (pageNumber? ms).isSome = true := by
  induction before generalizing ms with
  | nil =>
    obtain ⟨rest, rfl⟩ : ∃ rest, ms = .opening :: rest := ⟨_, h.split⟩
    rw [pageNumber?, groupValue?_of_split h]
    rfl
  | cons m before ih =>
    obtain ⟨rest, rfl⟩ : ∃ rest, ms = m :: rest := ⟨_, h.split⟩
    have hrest := ih ⟨(List.cons.inj h.split).2, h.nonempty⟩
    cases m with
    | opening =>
      rw [pageNumber?]
      cases groupValue? rest with
      | none => exact hrest
      | some n => rfl
    | closing | digit | other => exact hrest

theorem pageNumber?_eq_none_iff {ms : List Mark} :
    pageNumber? ms = none ↔ ∀ before ds after, ¬MarkSplit ms before ds after := by
  constructor
  · intro hnone before ds after h
    have hsome := pageNumber?_isSome h
    rw [hnone] at hsome
    cases hsome
  · intro h
    induction ms with
    | nil => rfl
    | cons m ms ih =>
      rw [pageNumber?_cons (h [])]
      exact ih fun before ds after h' => h _ _ _ (h'.cons m)

/-- A group that begins in front of an opening parenthesis is closed there: the parenthesis is
neither a digit nor the closing of a group. -/
lemma MarkSplit.of_append {front before rest after : List Mark} {ds : List Nat}
    (h : MarkSplit (front ++ .opening :: rest) before ds after)
    (hshort : before.length < front.length) : ∃ after', MarkSplit front before ds after' := by
  rcases List.append_eq_append_iff.mp h.split with ⟨as, rfl, _⟩ | ⟨bs, rfl, hbs⟩
  · simp only [List.length_append] at hshort
    omega
  · cases bs with
    | nil => simp at hshort
    | cons b bs =>
      obtain ⟨rfl, hgroup⟩ := List.cons.inj hbs
      rcases List.append_eq_append_iff.mp hgroup with ⟨cs, rfl, hcs⟩ | ⟨cs, hcs, hrest⟩
      · cases cs with
        | nil => cases hcs
        | cons c cs =>
          obtain ⟨rfl, _⟩ := List.cons.inj hcs
          exact ⟨cs, rfl, h.nonempty⟩
      · cases cs with
        | nil => cases hrest
        | cons c cs =>
          obtain ⟨rfl, _⟩ := List.cons.inj hrest
          have hopening : Mark.opening ∈ ds.map Mark.digit := by simp [hcs]
          simp at hopening

/-- Where the marks of a list split, the list does. -/
lemma MarkSplit.exists_split {α : Type} {f : α → Mark} {l : List α} {before after : List Mark}
    {ds : List Nat} (h : MarkSplit (l.map f) before ds after) :
    ∃ bs o cs e as, l = bs ++ o :: (cs ++ e :: as) ∧ bs.map f = before ∧ f o = .opening ∧
      cs.map f = ds.map .digit ∧ f e = .closing := by
  obtain ⟨bs, rest, rfl, hbs, hrest⟩ := List.map_eq_append_iff.mp h.split
  obtain ⟨o, rest, rfl, ho, hrest⟩ := List.map_eq_cons_iff.mp hrest
  obtain ⟨cs, rest, rfl, hcs, hrest⟩ := List.map_eq_append_iff.mp hrest
  obtain ⟨e, as, rfl, he, _⟩ := List.map_eq_cons_iff.mp hrest
  exact ⟨bs, o, cs, e, as, rfl, hbs, ho, hcs, he⟩

/-! ## Groups in a text -/

/-- A text split around a parenthesised group of digits. -/
structure GroupSplit (text before digits after : String) : Prop where
  text : text = before ++ "(" ++ digits ++ ")" ++ after
  nonempty : digits ≠ ""
  allDigits : AllDigits digits.toList

/-- A text in which there is no such group; there may be parts of one. -/
def Ungrouped (text : String) : Prop :=
  ∀ before digits after, ¬GroupSplit text before digits after

/-- The marks of a text. -/
def marks (text : String) : List Mark :=
  text.toList.map .ofChar

lemma marks_append (a b : String) : marks (a ++ b) = marks a ++ marks b := by
  unfold marks
  rw [String.toList_append, List.map_append]

lemma length_marks (text : String) : (marks text).length = text.length := by
  rw [marks, List.length_map, String.length_toList]

lemma digit?_eq_some {c : Char} {d : Nat} :
    digit? c = some d ↔ c.isDigit = true ∧ c.toNat - 48 = d := by
  unfold digit? Char.isDigit
  simp only [Bool.and_eq_true, decide_eq_true_eq]
  split_ifs with h
  · rw [Option.some_inj]
    exact (and_iff_right h).symm
  · simp only [false_iff, not_and]
    exact fun h' => absurd h' h

lemma ofChar_eq_opening {c : Char} (h : Mark.ofChar c = .opening) : c = '(' := by
  by_contra hopening
  unfold Mark.ofChar at h
  rw [if_neg hopening] at h
  split_ifs at h
  split at h <;> cases h

lemma ofChar_eq_closing {c : Char} (h : Mark.ofChar c = .closing) : c = ')' := by
  by_contra hclosing
  unfold Mark.ofChar at h
  rw [if_neg hclosing] at h
  split_ifs at h
  split at h <;> cases h

lemma ofChar_eq_digit {c : Char} {d : Nat} :
    Mark.ofChar c = .digit d ↔ c.isDigit = true ∧ c.toNat - 48 = d := by
  rw [← digit?_eq_some]
  unfold Mark.ofChar
  split_ifs with hopening hclosing
  · subst hopening
    simp [digit?]
  · subst hclosing
    simp [digit?]
  · cases digit? c with
    | none => simp
    | some d' => simp

/-- Beyond ASCII every character counts as any letter does. -/
lemma ofChar_of_not_ascii {c : Char} (h : 127 < c.toNat) : Mark.ofChar c = .other := by
  have hne : ∀ d : Char, d.toNat ≤ 127 → c ≠ d := by
    rintro d hd rfl
    omega
  have hdigit : digit? c = none := by
    rw [Option.eq_none_iff_forall_ne_some]
    intro d hd
    have hle := (toNat_of_isDigit (digit?_eq_some.mp hd).1).2
    omega
  unfold Mark.ofChar
  rw [if_neg (hne _ (by decide)), if_neg (hne _ (by decide)), hdigit]

lemma marks_digits {digits : String} (h : AllDigits digits.toList) :
    marks digits = (digits.toList.map fun c => c.toNat - 48).map .digit := by
  rw [marks, List.map_map]
  apply List.map_congr_left
  intro c hc
  exact ofChar_eq_digit.mpr ⟨h c hc, rfl⟩

lemma GroupSplit.markSplit {text before digits after : String}
    (h : GroupSplit text before digits after) :
    MarkSplit (marks text) (marks before) (digits.toList.map fun c => c.toNat - 48)
      (marks after) := by
  refine ⟨?_, by simpa using h.nonempty⟩
  rw [h.text, ← marks_digits h.allDigits]
  simp only [marks_append, List.append_assoc]
  rfl

lemma MarkSplit.groupSplit {text : String} {before after : List Mark} {ds : List Nat}
    (h : MarkSplit (marks text) before ds after) :
    ∃ before' digits after', GroupSplit text before' digits after' ∧
      before'.length = before.length := by
  obtain ⟨bs, o, cs, e, as, htext, rfl, ho, hcs, he⟩ := h.exists_split
  obtain rfl := ofChar_eq_opening ho
  obtain rfl := ofChar_eq_closing he
  refine ⟨.ofList bs, .ofList cs, .ofList as, ⟨?_, ?_, ?_⟩, ?_⟩
  · apply String.toList_inj.mp
    simp [htext]
  · rintro hempty
    have hnil : cs = [] := by simpa using hempty
    rw [hnil] at hcs
    exact h.nonempty (List.map_eq_nil_iff.mp hcs.symm)
  · intro c hc
    rw [String.toList_ofList] at hc
    have hmem : Mark.ofChar c ∈ ds.map Mark.digit := hcs ▸ List.mem_map_of_mem hc
    obtain ⟨d, _, hd⟩ := List.mem_map.mp hmem
    exact (ofChar_eq_digit.mp hd.symm).1
  · simp

lemma ungrouped_iff {text : String} : Ungrouped text ↔ pageNumber? (marks text) = none := by
  rw [pageNumber?_eq_none_iff]
  constructor
  · intro h before ds after hsplit
    obtain ⟨before', digits, after', hgroup, _⟩ := hsplit.groupSplit
    exact h before' digits after' hgroup
  · intro h before digits after hgroup
    exact h _ _ _ hgroup.markSplit

instance (text : String) : Decidable (Ungrouped text) :=
  decidable_of_iff _ ungrouped_iff.symm

/-! ## The key of a name -/

lemma sortKey_of_group {name before digits after : String}
    (h : GroupSplit name before digits after)
    (hfirst : ∀ before' digits' after', GroupSplit name before' digits' after' →
      before.length ≤ before'.length) :
    sortKey name = min (Nat.ofDigitChars 10 digits.toList 0) (2 ^ 64 - 1) := by
  have hnumber : pageNumber? (marks name) = some (Nat.ofDigitChars 10 digits.toList 0) := by
    rw [← digitsValue_digits]
    apply pageNumber?_of_first h.markSplit
    intro before' ds' after' h'
    obtain ⟨front, digits', back, hgroup, hlength⟩ := h'.groupSplit
    rw [length_marks, ← hlength]
    exact hfirst front digits' back hgroup
  change min ((pageNumber? (marks name)).getD 0) maxSortKey = _
  rw [hnumber]
  rfl

lemma sortKey_of_ungrouped {name : String} (h : Ungrouped name) : sortKey name = 0 := by
  change min ((pageNumber? (marks name)).getD 0) maxSortKey = _
  rw [ungrouped_iff.mp h]
  rfl

/-- After a text without a group the next group is the first. -/
lemma GroupSplit.isFirst {name before digits after : String} (hbefore : Ungrouped before)
    (h : GroupSplit name before digits after) {before' digits' after' : String}
    (h' : GroupSplit name before' digits' after') : before.length ≤ before'.length := by
  by_contra hshort
  have hsplit := h'.markSplit
  rw [h.markSplit.split] at hsplit
  obtain ⟨rest, hrest⟩ := hsplit.of_append (by rw [length_marks, length_marks]; omega)
  exact pageNumber?_eq_none_iff.mp (ungrouped_iff.mp hbefore) _ _ _ hrest

/-- The key of a name is the number in its first parenthesised group of digits, held to 64 bits,
and zero if there is none. Characters outside ASCII are no digits, whatever they stand for. -/
theorem sortKey_of_first_group (name : String) :
    (∀ before digits after, GroupSplit name before digits after →
      (∀ before' digits' after', GroupSplit name before' digits' after' →
        before.length ≤ before'.length) →
      sortKey name = min (Nat.ofDigitChars 10 digits.toList 0) (2 ^ 64 - 1)) ∧
    (Ungrouped name → sortKey name = 0) ∧
    (∀ before after zeros n, Ungrouped before →
      name = before ++ "(" ++ (String.ofList (List.replicate zeros '0') ++ toString n) ++ ")" ++
        after → sortKey name = min n (2 ^ 64 - 1)) ∧
    (∀ before c after, 127 < c.toNat → name = before ++ String.singleton c ++ after →
      sortKey name = sortKey (before ++ "x" ++ after)) := by
  refine ⟨fun _ _ _ h hfirst => sortKey_of_group h hfirst, sortKey_of_ungrouped, ?_, ?_⟩
  · intro before after zeros n hbefore hname
    have hdigits : (String.ofList (List.replicate zeros '0') ++ toString n).toList =
        List.replicate zeros '0' ++ Nat.toDigits 10 n := by
      rw [String.toList_append, String.toList_ofList, Nat.toString_eq_repr, Nat.toList_repr]
    have hgroup : GroupSplit name before (String.ofList (List.replicate zeros '0') ++ toString n)
        after := by
      refine ⟨hname, ?_, ?_⟩
      · rw [ne_eq, ← String.toList_eq_nil_iff, hdigits]
        simp
      · rw [hdigits]
        exact (allDigits_zeros zeros).append (allDigits_toDigits n)
    rw [sortKey_of_group hgroup fun _ _ _ h' => hgroup.isFirst hbefore h', hdigits,
      Nat.ofDigitChars_append, Nat.ofDigitChars_replicate_zero, Nat.mul_zero,
      Nat.ofDigitChars_ten_toDigits]
  · intro before c after hc hname
    have hmarks : marks (String.singleton c) = marks "x" := by
      rw [marks, String.toList_singleton, List.map_singleton, ofChar_of_not_ascii hc]
      rfl
    change sortKeyOf (marks name) = sortKeyOf (marks (before ++ "x" ++ after))
    rw [hname, marks_append, marks_append, hmarks, ← marks_append, ← marks_append]

theorem sortKey_of_first_group_near_misses :
    sortKey "draft (1a) ((12(007) copy (9).png" = 7 ∧
      sortKey "scan ().png" = 0 ∧
      sortKey ("(1 (" ++ "(" ++ (String.ofList (List.replicate 30 '0') ++ toString (10 ^ 20)) ++
        ")" ++ ".png") = 2 ^ 64 - 1 ∧
      sortKey ("scan (" ++ String.singleton '٣' ++ ") (4).png") =
        sortKey ("scan (" ++ "x" ++ ") (4).png") := by
  have hgroup : GroupSplit "draft (1a) ((12(007) copy (9).png" "draft (1a) ((12" "007"
      " copy (9).png" := by
    have hdigits : "007".toList.all Char.isDigit = true := by decide
    exact ⟨by decide, by decide, List.all_eq_true.mp hdigits⟩
  have hbefore : Ungrouped "draft (1a) ((12" := by decide
  refine ⟨?_, ?_, ?_, ?_⟩
  · exact (sortKey_of_first_group _).1 _ _ _ hgroup fun _ _ _ h' => hgroup.isFirst hbefore h'
  · exact (sortKey_of_first_group _).2.1 (by decide)
  · rw [(sortKey_of_first_group _).2.2.1 "(1 (" ".png" 30 (10 ^ 20) (by decide) rfl]
    decide
  · exact (sortKey_of_first_group _).2.2.2 "scan (" '٣' ") (4).png" (by decide) rfl

end ScanBinder.Proofs
