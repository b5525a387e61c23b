import Mathlib.Tactic.Common
import ScanBinder.Files.Tree

/-!
# What writing changes in a file tree

A path that can be written leads to a file or to a free name. Writing replaces or adds the
entry of that one location. A walk that ended there meets nothing else that has changed, so
it ends there again and finds the new content.
-/

namespace ScanBinder.Proofs
open FileTree

/-! ## One entry is set -/

/-- Two trees with the same entries in the same order, except at one location. -/
structure SameElsewhere (loc : Location) (t t' : FileTree) : Prop where
  current : t'.current = t.current
  entries : t'.entries.filter (fun x => decide (x.1 ≠ loc)) =
    t.entries.filter (fun x => decide (x.1 ≠ loc))

lemma lookup_filter_of_ne (entries : List (Location × Entry)) {loc l : Location} (hl : l ≠ loc) :
    (entries.filter fun x => decide (x.1 ≠ loc)).lookup l = entries.lookup l := by
  induction entries with
  | nil => rfl
  | cons x entries ih =>
    obtain ⟨k, e⟩ := x
    by_cases hk : k = loc
    · subst hk
      rw [List.filter_cons_of_neg (by simp), List.lookup_cons, beq_eq_false_iff_ne.mpr hl]
      exact ih
    · rw [List.filter_cons_of_pos (by simpa using hk), List.lookup_cons, List.lookup_cons, ih]

lemma SameElsewhere.get?_eq {loc l : Location} {t t' : FileTree} (h : SameElsewhere loc t t')
    (hl : l ≠ loc) : t'.get? l = t.get? l := by
  unfold FileTree.get?
  rw [← lookup_filter_of_ne t'.entries hl, h.entries, lookup_filter_of_ne t.entries hl]

lemma filter_replace (entries : List (Location × Entry)) (loc : Location) (e : Entry) :
    (entries.map fun x => if x.1 = loc then (loc, e) else x).filter (fun x => decide (x.1 ≠ loc)) =
      entries.filter (fun x => decide (x.1 ≠ loc)) := by
  induction entries with
  | nil => rfl
  | cons x entries ih =>
    rw [List.map_cons, List.filter_cons, List.filter_cons, ih]
    by_cases hx : x.1 = loc
    · simp [hx]
    · simp [hx]

lemma sameElsewhere_set (t : FileTree) (loc : Location) (e : Entry) :
    SameElsewhere loc t (t.set loc e) := by
  unfold FileTree.set
  split_ifs with h
  · exact ⟨rfl, filter_replace _ _ _⟩
  · refine ⟨rfl, ?_⟩
    rw [List.filter_append]
    simp

lemma lookup_replace {entries : List (Location × Entry)} {loc : Location}
    (h : entries.any (·.1 = loc) = true) (e : Entry) :
    (entries.map fun x => if x.1 = loc then (loc, e) else x).lookup loc = some e := by
  induction entries with
  | nil => simp at h
  | cons x entries ih =>
    rw [List.map_cons]
    by_cases hx : x.1 = loc
    · rw [if_pos hx, List.lookup_cons, beq_self_eq_true]
    · rw [if_neg hx, List.lookup_cons, beq_eq_false_iff_ne.mpr (Ne.symm hx)]
      rw [List.any_cons, decide_eq_false hx, Bool.false_or] at h
      exact ih h

lemma get?_set_self (t : FileTree) {loc : Location} (hloc : loc ≠ []) (e : Entry) :
    (t.set loc e).get? loc = some e := by
  unfold FileTree.get? FileTree.set
  rw [if_neg hloc]
  split_ifs with h
  · exact lookup_replace h e
  · have hnone : t.entries.lookup loc = none := by
      rw [List.lookup_eq_none_iff]
      intro x hx
      simp only [List.any_eq_true, decide_eq_true_eq, not_exists, not_and] at h
      simpa using Ne.symm (h x hx)
    simp [List.lookup_append, hnone]

/-! ## Walks -/

/-- A path names the file at a location: there is one already, or the name is free. -/
def NamesFile (t : FileTree) (p : Path) (loc : Location) : Prop :=
  t.find p = .ok (.free loc) ∨ ∃ old, t.find p = .ok (.taken loc (.file old))

/-- A step of a walk into what a name stands for. -/
lemma walk_name {t : FileTree} {n : Name} (hn : ¬(n = [] ∨ n = Path.here)) (ha : n ≠ Path.above)
    (hlong : ¬nameLimit < n.length) {links : Nat} {start : Location} {rest : List Name} :
    t.walk links start (n :: rest) =
      match t.get? (start ++ [n]) with
      | none => if rest = [] then .ok (.free (start ++ [n])) else .error .notFound
      | some .folder => t.walk links (start ++ [n]) rest
      | some (.file content) =>
        if rest = [] then .ok (.taken (start ++ [n]) (.file content)) else .error .notDirectory
      | some (.link target) =>
        match links with
        | 0 => .error .tooManyLinks
        | links + 1 =>
          t.walk links (if Path.isAbsolute target then [] else start)
            (Path.pieces target ++ rest) := by
  rw [FileTree.walk]
  exact (if_neg hn).trans ((if_neg ha).trans (if_neg hlong))

/-- What a walk says about the place it ended at is so. -/
def PlaceHolds (t : FileTree) : Place → Prop
  | .taken _ .folder => True
  | .taken loc (.file content) => loc ≠ [] ∧ t.get? loc = some (.file content)
  | .taken _ (.link _) => False
  | .free loc => loc ≠ [] ∧ t.get? loc = none

lemma walk_holds {t : FileTree} {links : Nat} {start : Location} {pieces : List Name} {p : Place}
    (h : t.walk links start pieces = .ok p) : PlaceHolds t p := by
  fun_induction FileTree.walk t links start pieces with
  | case1 =>
    cases h
    trivial
  | case2 _ _ _ _ _ ih => exact ih h
  | case3 _ _ _ _ ih => exact ih h
  | case4 => cases h
  | case5 links loc n _ _ _ next hnext =>
    cases h
    exact ⟨List.append_ne_nil_of_right_ne_nil _ (List.cons_ne_nil _ _), hnext⟩
  | case6 => cases h
  | case7 _ _ _ _ _ _ _ _ _ ih => exact ih h
  | case8 links loc n _ _ _ next content hnext =>
    cases h
    exact ⟨List.append_ne_nil_of_right_ne_nil _ (List.cons_ne_nil _ _), hnext⟩
  | case9 => cases h
  | case10 => cases h
  | case11 _ _ _ _ _ _ _ _ _ _ ih => exact ih h

/-- A file with the given content was written at a free name or in the place of a file. -/
structure WrittenAt (loc : Location) (content : Bytes) (t t' : FileTree) : Prop
    extends SameElsewhere loc t t' where
  before : t.get? loc = none ∨ ∃ old, t.get? loc = some (.file old)
  after : t'.get? loc = some (.file content)

/-- What is found before a file is written at `loc`, and what is found afterwards: the same,
the written file, or a file in the way where there was nothing. -/
inductive AfterWrite (t : FileTree) (loc : Location) (content : Bytes) :
    Except PathError Place → Except PathError Place → Prop
  | untouched {r : Except PathError Place} : r ≠ .ok (.free loc) →
      (∀ old, r ≠ .ok (.taken loc (.file old))) → AfterWrite t loc content r r
  | written {r : Except PathError Place} :
      r = .ok (.free loc) ∨ (∃ old, r = .ok (.taken loc (.file old))) →
      AfterWrite t loc content r (.ok (.taken loc (.file content)))
  | blocked : t.get? loc = none →
      AfterWrite t loc content (.error .notFound) (.error .notDirectory)

section
variable {t t' : FileTree} {loc : Location} {content : Bytes}

lemma WrittenAt.get?_of_eq (h : WrittenAt loc content t t') {l : Location} {e : Entry}
    (hl : t.get? l = some e) (he : ∀ old, e ≠ .file old) : t'.get? l = some e := by
  rw [h.get?_eq, hl]
  rintro rfl
  rcases h.before with hbefore | ⟨old, hbefore⟩
  · rw [hl] at hbefore
    cases hbefore
  · rw [hl] at hbefore
    exact he old (Option.some.inj hbefore)

/-- On its way a walk meets folders and links, which are not touched. It can meet the written
file only where it ends, or where it has to go on and fails. -/
lemma walk_afterWrite (h : WrittenAt loc content t t') (links : Nat) (start : Location)
    (pieces : List Name) :
    AfterWrite t loc content (t.walk links start pieces) (t'.walk links start pieces) := by
  induction links, start, pieces using FileTree.walk.induct t with
  | case1 links start =>
    rw [FileTree.walk, FileTree.walk]
    exact .untouched (by simp) (by simp)
  | case2 links start n rest hn ih =>
    rw [FileTree.walk, if_pos hn, FileTree.walk, if_pos hn]
    exact ih
  | case3 links start rest hn ih =>
    rw [FileTree.walk, if_neg hn, if_pos rfl, FileTree.walk, if_neg hn, if_pos rfl]
    exact ih
  | case4 links start n rest hn ha hlong =>
    rw [FileTree.walk, if_neg hn, if_neg ha, if_pos hlong, FileTree.walk, if_neg hn, if_neg ha,
      if_pos hlong]
    exact .untouched (by simp) (by simp)
  | case5 links start n hn ha hlong next hnext =>
    rw [walk_name hn ha hlong, walk_name hn ha hlong]
    simp only [show t.get? (start ++ [n]) = none from hnext, if_true]
    by_cases hloc : start ++ [n] = loc
    · simp only [hloc, h.after]
      exact .written (.inl rfl)
    · simp only [h.get?_eq hloc, show t.get? (start ++ [n]) = none from hnext]
      exact .untouched (by simpa using hloc) (by simp)
  | case6 links start n rest hn ha hlong next hnext hrest =>
    rw [walk_name hn ha hlong, walk_name hn ha hlong]
    simp only [show t.get? (start ++ [n]) = none from hnext, if_neg hrest]
    by_cases hloc : start ++ [n] = loc
    · simp only [hloc, h.after]
      exact .blocked (hloc ▸ hnext)
    · simp only [h.get?_eq hloc, show t.get? (start ++ [n]) = none from hnext]
      exact .untouched (by simp) (by simp)
  | case7 links start n rest hn ha hlong next hnext ih =>
    have hnext' : t'.get? (start ++ [n]) = some .folder := h.get?_of_eq hnext (by simp)
    rw [walk_name hn ha hlong, walk_name hn ha hlong]
    simp only [show t.get? (start ++ [n]) = some .folder from hnext, hnext']
    exact ih
  | case8 links start n hn ha hlong next old hnext =>
    rw [walk_name hn ha hlong, walk_name hn ha hlong]
    simp only [show t.get? (start ++ [n]) = some (.file old) from hnext, if_true]
    by_cases hloc : start ++ [n] = loc
    · simp only [hloc, h.after]
      exact .written (.inr ⟨old, rfl⟩)
    · simp only [h.get?_eq hloc, show t.get? (start ++ [n]) = some (.file old) from hnext]
      exact .untouched (by simp) (by simp [hloc])
  | case9 links start n rest hn ha hlong next old hnext hrest =>
    rw [walk_name hn ha hlong, walk_name hn ha hlong]
    simp only [show t.get? (start ++ [n]) = some (.file old) from hnext, if_neg hrest]
    by_cases hloc : start ++ [n] = loc
    · simp only [hloc, h.after]
      exact .untouched (by simp) (by simp)
    · simp only [h.get?_eq hloc, show t.get? (start ++ [n]) = some (.file old) from hnext]
      exact .untouched (by simp) (by simp)
  | case10 start n rest hn ha hlong next target hnext =>
    have hnext' : t'.get? (start ++ [n]) = some (.link target) := h.get?_of_eq hnext (by simp)
    rw [walk_name hn ha hlong, walk_name hn ha hlong]
    simp only [show t.get? (start ++ [n]) = some (.link target) from hnext, hnext']
    exact .untouched (by simp) (by simp)
  | case11 start n rest hn ha hlong next target hnext links ih =>
    have hnext' : t'.get? (start ++ [n]) = some (.link target) := h.get?_of_eq hnext (by simp)
    rw [walk_name hn ha hlong, walk_name hn ha hlong]
    simp only [show t.get? (start ++ [n]) = some (.link target) from hnext, hnext']
    exact ih

/-- What a path leads to before and after a file is written. -/
theorem find_afterWrite (h : WrittenAt loc content t t') (p : Path) :
    AfterWrite t loc content (t.find p) (t'.find p) := by
  unfold FileTree.find
  rw [h.current]
  split_ifs
  · exact .untouched (by simp) (by simp)
  · exact .untouched (by simp) (by simp)
  · exact .untouched (by simp) (by simp)
  · exact walk_afterWrite h _ _ _
  · exact walk_afterWrite h _ _ _

end

/-! ## Writing -/

lemma find_eq_walk {t : FileTree} {p : Path} {place : Place} (h : t.find p = .ok place) :
    ∀ t' : FileTree, t'.find p =
      t'.walk linkLimit (if Path.isAbsolute p then [] else t'.current) (Path.pieces p) := by
  intro t'
  unfold FileTree.find at h ⊢
  by_cases hempty : p = []
  · rw [if_pos hempty] at h
    cases h
  by_cases hnul : p.contains 0 = true
  · rw [if_neg hempty, if_pos hnul] at h
    cases h
  by_cases hlong : pathLimit < p.length
  · rw [if_neg hempty, if_neg hnul, if_pos hlong] at h
    cases h
  rw [if_neg hempty, if_neg hnul, if_neg hlong]

/-- Pieces that end in an empty one lead to a folder or nowhere. -/
lemma walk_of_trailing {t : FileTree} {links : Nat} {start : Location} {pieces : List Name}
    (htrailing : pieces.getLast? = some []) {place : Place}
    (h : t.walk links start pieces = .ok place) : ∃ loc, place = .taken loc .folder := by
  have hrest : ∀ {n : Name} {rest : List Name}, (n :: rest).getLast? = some [] → n ≠ [] →
      rest ≠ [] ∧ rest.getLast? = some [] := by
    intro n rest hlast hn
    cases rest with
    | nil => exact absurd (Option.some.inj hlast) hn
    | cons m rest => exact ⟨List.cons_ne_nil _ _, by simpa using hlast⟩
  fun_induction FileTree.walk t links start pieces with
  | case1 => cases htrailing
  | case2 links loc n rest hn ih =>
    cases rest with
    | nil =>
      rw [FileTree.walk] at h
      cases h
      exact ⟨_, rfl⟩
    | cons m rest => exact ih (by simpa using htrailing) h
  | case3 links loc rest hn ih => exact ih (hrest htrailing fun h => hn (.inl h)).2 h
  | case4 => cases h
  | case5 links loc n hn => exact absurd rfl (hrest htrailing fun h => hn (.inl h)).1
  | case6 => cases h
  | case7 links loc n rest hn _ _ _ _ ih => exact ih (hrest htrailing fun h => hn (.inl h)).2 h
  | case8 links loc n hn => exact absurd rfl (hrest htrailing fun h => hn (.inl h)).1
  | case9 => cases h
  | case10 => cases h
  | case11 loc n rest hn _ _ _ target _ links ih =>
    obtain ⟨hne, hlast⟩ := hrest htrailing fun h => hn (.inl h)
    refine ih ?_ h
    rw [List.getLast?_append, hlast]
    rfl

lemma getLast?_of_blank {rest : List Name} (hne : rest ≠ []) (hblank : rest.all (· = []) = true) :
    rest.getLast? = some [] := by
  have hlast := List.all_eq_true.mp hblank _ (List.getLast_mem hne)
  rw [List.getLast?_eq_some_getLast hne, of_decide_eq_true hlast]

/-- A walk to write ends where a walk to a file or to a free name does. -/
lemma walkToWrite_eq_ok {t : FileTree} {links : Nat} {start loc : Location} {pieces : List Name} :
    t.walkToWrite links start pieces = .ok loc ↔
      t.walk links start pieces = .ok (.free loc) ∨
        ∃ old, t.walk links start pieces = .ok (.taken loc (.file old)) := by
  fun_induction FileTree.walkToWrite t links start pieces with
  | case1 => rw [FileTree.walk]; simp
  | case2 links start n rest hn ih => rw [FileTree.walk, if_pos hn, ih]
  | case3 links start rest hn ih => rw [FileTree.walk, if_neg hn, if_pos rfl, ih]
  | case4 links start n rest hn ha hblank =>
    -- the pieces end in a slash, so a walk along them ends at a folder or fails
    have hlast : (n :: rest).getLast? = some [] := by
      rw [List.getLast?_cons_of_ne_nil hblank.1, getLast?_of_blank hblank.1 hblank.2]
    constructor
    · intro h
      cases h
    · rintro (h | ⟨old, h⟩)
      · obtain ⟨_, h⟩ := walk_of_trailing hlast h
        cases h
      · obtain ⟨_, h⟩ := walk_of_trailing hlast h
        cases h
  | case5 links start n rest hn ha hblank hlong =>
    rw [FileTree.walk, if_neg hn, if_neg ha, if_pos hlong]
    simp
  | case6 links start n hn ha hlong next hnext =>
    rw [walk_name hn ha hlong]
    simp only [show t.get? (start ++ [n]) = none from hnext, if_true]
    simp [next]
  | case7 links start n rest hn ha hblank hlong next hnext hrest =>
    rw [walk_name hn ha hlong]
    simp only [show t.get? (start ++ [n]) = none from hnext, if_neg hrest]
    simp
  | case8 links start n rest hn ha hblank hlong next hnext ih =>
    rw [walk_name hn ha hlong]
    simp only [show t.get? (start ++ [n]) = some .folder from hnext]
    exact ih
  | case9 links start n hn ha hlong next old hnext =>
    rw [walk_name hn ha hlong]
    simp only [show t.get? (start ++ [n]) = some (.file old) from hnext, if_true]
    simp [next]
  | case10 links start n rest hn ha hblank hlong next old hnext hrest =>
    rw [walk_name hn ha hlong]
    simp only [show t.get? (start ++ [n]) = some (.file old) from hnext, if_neg hrest]
    simp
  | case11 start n rest hn ha hblank hlong next target hnext =>
    rw [walk_name hn ha hlong]
    simp only [show t.get? (start ++ [n]) = some (.link target) from hnext]
    simp
  | case12 start n rest hn ha hblank hlong next target hnext links ih =>
    rw [walk_name hn ha hlong]
    simp only [show t.get? (start ++ [n]) = some (.link target) from hnext]
    exact ih

/-- A path can be written exactly if it leads to a file or to a free name. -/
theorem writeLocation_eq_ok {t : FileTree} {p : Path} {loc : Location} :
    t.writeLocation p = .ok loc ↔ NamesFile t p loc := by
  unfold FileTree.writeLocation NamesFile FileTree.find
  split_ifs
  · simp
  · simp
  · simp
  · exact walkToWrite_eq_ok
  · exact walkToWrite_eq_ok

lemma NamesFile.ne_nil {t : FileTree} {p : Path} {loc : Location} (h : NamesFile t p loc) :
    loc ≠ [] := by
  rcases h with h | ⟨old, h⟩
  · exact (walk_holds ((find_eq_walk h t).symm.trans h)).1
  · exact (walk_holds ((find_eq_walk h t).symm.trans h)).1

lemma namesFile_of_writeLocation {t : FileTree} {p : Path} {loc : Location}
    (h : t.writeLocation p = .ok loc) : NamesFile t p loc ∧ loc ≠ [] :=
  ⟨writeLocation_eq_ok.mp h, (writeLocation_eq_ok.mp h).ne_nil⟩

lemma NamesFile.get? {t : FileTree} {p : Path} {loc : Location} (h : NamesFile t p loc) :
    t.get? loc = none ∨ ∃ old, t.get? loc = some (.file old) := by
  rcases h with h | ⟨old, h⟩
  · exact .inl (walk_holds ((find_eq_walk h t).symm.trans h)).2
  · exact .inr ⟨old, (walk_holds ((find_eq_walk h t).symm.trans h)).2⟩

lemma find_of_writtenAt {t t' : FileTree} {p : Path} {loc : Location} {content : Bytes}
    (h : WrittenAt loc content t t') (hnames : NamesFile t p loc) :
    t'.find p = .ok (.taken loc (.file content)) := by
  have hafter := find_afterWrite h p
  unfold NamesFile at hnames
  generalize t.find p = r at hafter hnames
  generalize t'.find p = r' at hafter
  cases hafter with
  | untouched hfree htaken =>
    rcases hnames with hnames | ⟨old, hnames⟩
    · exact absurd hnames hfree
    · exact absurd hnames (htaken old)
  | written => rfl
  | blocked => simp at hnames

lemma writtenAt_of_write {t t' : FileTree} {p : Path} {content : Bytes}
    (h : t.write p content = .ok t') :
    ∃ loc, t.writeLocation p = .ok loc ∧ NamesFile t p loc ∧ WrittenAt loc content t t' := by
  unfold FileTree.write at h
  cases hloc : t.writeLocation p with
  | error e =>
    rw [hloc] at h
    cases h
  | ok loc =>
    rw [hloc] at h
    cases h
    obtain ⟨hnames, hroot⟩ := namesFile_of_writeLocation hloc
    exact ⟨loc, rfl, hnames, ⟨sameElsewhere_set t loc _, hnames.get?, get?_set_self t hroot _⟩⟩

lemma writtenAt_of_writeLocation {t t' : FileTree} {p : Path} {content : Bytes} {loc : Location}
    (hloc : t.writeLocation p = .ok loc) (hwrite : t.write p content = .ok t') :
    NamesFile t p loc ∧ WrittenAt loc content t t' := by
  obtain ⟨loc', hloc', hnames, hwritten⟩ := writtenAt_of_write hwrite
  obtain rfl : loc' = loc := Except.ok.inj (hloc'.symm.trans hloc)
  exact ⟨hnames, hwritten⟩

lemma write_eq_ok {t t' : FileTree} {p : Path} {content : Bytes} :
    t.write p content = .ok t' ↔
      ∃ loc, t.writeLocation p = .ok loc ∧ t' = t.set loc (.file content) := by
  unfold FileTree.write
  cases t.writeLocation p with
  | ok loc => simp [Except.map, eq_comm]
  | error e => simp [Except.map]

lemma write_eq_error {t : FileTree} {p : Path} {content : Bytes} {e : PathError} :
    t.write p content = .error e ↔ t.writeLocation p = .error e := by
  unfold FileTree.write
  cases t.writeLocation p with
  | ok loc => simp [Except.map]
  | error e' => simp [Except.map]

lemma write_ok_iff {t : FileTree} {p : Path} {content : Bytes} :
    (∃ t', t.write p content = .ok t') ↔ ∃ loc, t.writeLocation p = .ok loc := by
  unfold FileTree.write
  cases t.writeLocation p with
  | ok loc => simp [Except.map]
  | error e => simp [Except.map]

/-- Writing to a path changes the one location that the path names. There the new content
is found, through the path and in the tree. -/
theorem write_spec {t t' : FileTree} {p : Path} {content : Bytes}
    (h : t.write p content = .ok t') :
    ∃ loc, NamesFile t p loc ∧ SameElsewhere loc t t' ∧
      t'.get? loc = some (.file content) ∧ t'.find p = .ok (.taken loc (.file content)) := by
  obtain ⟨loc, _, hnames, hwritten⟩ := writtenAt_of_write h
  exact ⟨loc, hnames, hwritten.toSameElsewhere, hwritten.after, find_of_writtenAt hwritten hnames⟩

lemma lookup_of_taken {t : FileTree} {p : Path} {loc : Location} {e : Entry}
    (h : t.find p = .ok (.taken loc e)) : t.lookup p = .ok e := by
  unfold FileTree.lookup
  rw [h]

lemma lookup_of_free {t : FileTree} {p : Path} {loc : Location} (h : t.find p = .ok (.free loc)) :
    t.lookup p = .error .notFound := by
  unfold FileTree.lookup
  rw [h]

lemma lookup_of_find_error {t : FileTree} {p : Path} {e : PathError} (h : t.find p = .error e) :
    t.lookup p = .error e := by
  unfold FileTree.lookup
  rw [h]

lemma read_of_find {t : FileTree} {p : Path} {loc : Location} {content : Bytes}
    (h : t.find p = .ok (.taken loc (.file content))) : t.read p = .ok content := by
  unfold FileTree.read
  rw [lookup_of_taken h]

end ScanBinder.Proofs
