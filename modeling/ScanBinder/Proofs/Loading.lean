import Mathlib.Data.List.Forall2
import Mathlib.Tactic.Common
import ScanBinder.Batch

/-!
# Loading entries

When entries that fail are left out, a batch holds the entries that can be loaded, beside
their images, and the others with the reasons. When a failure ends the batch, the outcome is
the same batch if there is no failure, and otherwise the first one.
-/

namespace ScanBinder.Proofs
open FileTree

/-- The image of an entry, if it can be loaded. -/
def image? (t : FileTree) (e : ScanEntry) : Option (Raster (Rgb UInt8)) :=
  (t.loadRgb e.path).toOption

/-- An entry that cannot be loaded, and why. -/
def faulty? (t : FileTree) (e : ScanEntry) : Option (ScanEntry × ImageFault) :=
  match t.loadRgb e.path with
  | .ok _ => none
  | .error f => some (e, f)

/-- An entry that cannot be loaded, as it is left out. -/
def leftOut? (t : FileTree) (e : ScanEntry) : Option Skipped :=
  (faulty? t e).map fun x => ⟨x.1, (Failure.image x.1.path x.2).text⟩

/-- The entries that can be loaded with their images, and those that cannot. -/
def batchOf (t : FileTree) (entries : List ScanEntry) : Batch :=
  ⟨entries.filterMap (image? t), entries.filter (fun e => (image? t e).isSome),
    entries.filterMap (leftOut? t)⟩

lemma loadRgb_of_lookup_eq {t t' : FileTree} {p : Path} (h : t'.lookup p = t.lookup p) :
    t'.loadRgb p = t.loadRgb p := by
  unfold FileTree.loadRgb FileTree.load FileTree.readImage FileTree.read
  rw [h]

lemma loadRgb_of_lookup_error {t : FileTree} {p : Path} {e : PathError}
    (h : t.lookup p = .error e) : t.loadRgb p = .error (.unreadable e) := by
  unfold FileTree.loadRgb FileTree.load FileTree.readImage FileTree.read
  rw [h]
  rfl

/-! ## Tries

What becomes of a list of tries does not depend on where their results come from. -/

/-- The image of a try that succeeded. -/
def triedImage? (a : Attempt) : Option (Raster (Rgb UInt8)) :=
  (a.result.map Loaded.raster).toOption

/-- The entry of a try that failed, and why. -/
def triedFault? (a : Attempt) : Option (ScanEntry × ImageFault) :=
  match a.result with
  | .ok _ => none
  | .error f => some (a.entry, f)

def asLeftOut (x : ScanEntry × ImageFault) : Skipped :=
  ⟨x.1, (Failure.image x.1.path x.2).text⟩

/-- The tries that succeeded with their images, and those that failed. -/
def separate (tries : List Attempt) : Batch :=
  ⟨tries.filterMap triedImage?, (tries.filter fun a => (triedImage? a).isSome).map Attempt.entry,
    tries.filterMap fun a => (triedFault? a).map asLeftOut⟩

lemma separate_cons_ok (e : ScanEntry) (loaded : Loaded) (tries : List Attempt) :
    separate (⟨e, .ok loaded⟩ :: tries) = (separate tries).addPage e loaded.raster :=
  rfl

lemma separate_cons_error (e : ScanEntry) (f : ImageFault) (tries : List Attempt) :
    separate (⟨e, .error f⟩ :: tries) =
      (separate tries).leaveOut e (Batch.failureOf e f).text :=
  rfl

theorem settle_skip (tries : List Attempt) : Batch.settle .skip tries = .ok (separate tries) := by
  induction tries with
  | nil => rfl
  | cons a tries ih =>
    obtain ⟨e, result⟩ := a
    cases result with
    | ok loaded => rw [Batch.settle, ih, separate_cons_ok]
    | error f =>
      rw [Batch.settle, separate_cons_error]
      simp only [ih]

theorem settle_abort (tries : List Attempt) :
    Batch.settle .abort tries =
      match tries.findSome? triedFault? with
      | none => .ok (separate tries)
      | some (e, f) => .error (.image e.path f) := by
  induction tries with
  | nil => rfl
  | cons a tries ih =>
    obtain ⟨e, result⟩ := a
    cases result with
    | ok loaded =>
      have hnone : triedFault? ⟨e, .ok loaded⟩ = none := rfl
      rw [Batch.settle, ih, List.findSome?_cons, hnone]
      cases tries.findSome? triedFault? with
      | none => rfl
      | some x => rfl
    | error f => rfl

/-- The tries of entries when `load` is what loading a path gives. -/
def triesBy (load : Path → Except ImageFault Loaded) (entries : List ScanEntry) : List Attempt :=
  entries.map fun e => ⟨e, load e.path⟩

/-! ## Batches of entries -/

/-- The entries that `rgb` gives an image for, beside their images, and the others, each with the
text of its own failure. -/
structure Separates (rgb : Path → Except ImageFault (Raster (Rgb UInt8)))
    (entries : List ScanEntry) (b : Batch) : Prop where
  included : b.included = entries.filter fun e => (rgb e.path).isOk
  images : List.Forall₂ (fun e image => rgb e.path = .ok image) b.included b.images
  skipped : b.skipped.map Skipped.entry = entries.filter fun e => !(rgb e.path).isOk
  reasons : ∀ s ∈ b.skipped, ∃ f, rgb s.entry.path = .error f ∧
    s.reason = (Failure.image s.entry.path f).text

section
variable {rgb : Path → Except ImageFault (Raster (Rgb UInt8))} {entries : List ScanEntry}
  {b : Batch} {e : ScanEntry}

lemma Separates.addPage {image : Raster (Rgb UInt8)} (h : Separates rgb entries b)
    (hload : rgb e.path = .ok image) : Separates rgb (e :: entries) (b.addPage e image) := by
  have hok : (rgb e.path).isOk = true := by
    rw [hload]
    rfl
  refine ⟨?_, .cons hload h.images, ?_, h.reasons⟩
  · rw [List.filter_cons_of_pos (by simp [hok]), ← h.included]
    rfl
  · rw [List.filter_cons_of_neg (by simp [hok]), ← h.skipped]
    rfl

lemma Separates.leaveOut {f : ImageFault} (h : Separates rgb entries b)
    (hload : rgb e.path = .error f) :
    Separates rgb (e :: entries) (b.leaveOut e (Batch.failureOf e f).text) := by
  have hok : (rgb e.path).isOk = false := by
    rw [hload]
    rfl
  refine ⟨?_, h.images, ?_, ?_⟩
  · rw [List.filter_cons_of_neg (by simp [hok]), ← h.included]
    rfl
  · rw [List.filter_cons_of_pos (by simp [hok]), ← h.skipped]
    rfl
  · intro s hs
    rcases List.mem_cons.mp hs with rfl | hs
    · exact ⟨f, hload, rfl⟩
    · exact h.reasons s hs

end

lemma separates_triesBy (load : Path → Except ImageFault Loaded) (entries : List ScanEntry) :
    Separates (fun p => (load p).map Loaded.raster) entries (separate (triesBy load entries)) := by
  induction entries with
  | nil => exact ⟨rfl, .nil, rfl, by simp [separate, triesBy]⟩
  | cons e entries ih =>
    rw [triesBy, List.map_cons]
    cases h : load e.path with
    | ok loaded =>
      rw [separate_cons_ok]
      exact ih.addPage (by rw [h]; rfl)
    | error f =>
      rw [separate_cons_error]
      exact ih.leaveOut (by rw [h]; rfl)

lemma triedImage?_attempt (t : FileTree) (e : ScanEntry) :
    triedImage? ⟨e, t.load e.path⟩ = image? t e :=
  rfl

lemma triedFault?_attempt (t : FileTree) (e : ScanEntry) :
    triedFault? ⟨e, t.load e.path⟩ = faulty? t e := by
  unfold triedFault? faulty? FileTree.loadRgb
  cases t.load e.path with
  | ok loaded => rfl
  | error f => rfl

lemma separate_attempts (t : FileTree) (entries : List ScanEntry) :
    separate (t.attempts entries) = batchOf t entries := by
  unfold separate FileTree.attempts batchOf
  simp only [List.filterMap_map, List.filter_map, List.map_map, Function.comp_def,
    triedImage?_attempt, triedFault?_attempt, List.map_id']
  rfl

lemma separates_batchOf (t : FileTree) (entries : List ScanEntry) :
    Separates t.loadRgb entries (batchOf t entries) := by
  rw [← separate_attempts]
  exact separates_triesBy t.load entries

theorem loadAll_skip (t : FileTree) (entries : List ScanEntry) :
    t.loadAll .skip entries = .ok (batchOf t entries) := by
  rw [FileTree.loadAll, settle_skip, separate_attempts]

theorem loadAll_abort (t : FileTree) (entries : List ScanEntry) :
    t.loadAll .abort entries =
      match entries.findSome? (faulty? t) with
      | none => .ok (batchOf t entries)
      | some (e, f) => .error (.image e.path f) := by
  have hfaulty : triedFault? ∘ (fun e => ⟨e, t.load e.path⟩) = faulty? t :=
    funext (triedFault?_attempt t)
  rw [FileTree.loadAll, settle_abort, separate_attempts, FileTree.attempts, List.findSome?_map,
    hfaulty]

/-! ## The parts of a batch -/

lemma image?_eq_some {t : FileTree} {e : ScanEntry} {image : Raster (Rgb UInt8)} :
    image? t e = some image ↔ t.loadRgb e.path = .ok image := by
  unfold image?
  cases t.loadRgb e.path with
  | ok r => simp [Except.toOption]
  | error f => simp [Except.toOption]

lemma image?_eq_none {t : FileTree} {e : ScanEntry} :
    image? t e = none ↔ ∃ f, t.loadRgb e.path = .error f := by
  unfold image?
  cases t.loadRgb e.path with
  | ok r => simp [Except.toOption]
  | error f => simp [Except.toOption]

lemma faulty?_eq_some {t : FileTree} {e e' : ScanEntry} {f : ImageFault} :
    faulty? t e = some (e', f) ↔ e = e' ∧ t.loadRgb e.path = .error f := by
  unfold faulty?
  cases t.loadRgb e.path with
  | ok r => simp
  | error g => simp

lemma faulty?_eq_none {t : FileTree} {e : ScanEntry} :
    faulty? t e = none ↔ ∃ image, t.loadRgb e.path = .ok image := by
  unfold faulty?
  cases t.loadRgb e.path with
  | ok r => simp
  | error g => simp

/-- Images and included entries are side by side. -/
lemma batchOf_images (t : FileTree) (entries : List ScanEntry) :
    List.Forall₂ (fun e image => t.loadRgb e.path = .ok image) (batchOf t entries).included
      (batchOf t entries).images :=
  (separates_batchOf t entries).images

lemma batchOf_skipped_entries (t : FileTree) (entries : List ScanEntry) :
    (batchOf t entries).skipped.map Skipped.entry =
      entries.filter (fun e => !(image? t e).isSome) := by
  rw [(separates_batchOf t entries).skipped]
  apply List.filter_congr
  intro e _
  unfold image?
  cases t.loadRgb e.path with
  | ok image => rfl
  | error f => rfl

lemma batchOf_images_eq_nil {t : FileTree} {entries : List ScanEntry} :
    (batchOf t entries).images = [] ↔ ∀ e ∈ entries, ∃ f, t.loadRgb e.path = .error f := by
  simp only [batchOf, List.filterMap_eq_nil_iff, image?_eq_none]

/-! ## Two policies -/

/-- What the two policies make of the same entries. Leaving out what fails always gives the batch
`b`. Ending at the first failure gives the same batch if nothing was left out, and otherwise the
failure that leaving out would report first. -/
structure BothPolicies (rgb : Path → Except ImageFault (Raster (Rgb UInt8)))
    (entries : List ScanEntry) (skip abort : Except Failure Batch) (b : Batch) : Prop where
  skip_eq : skip = .ok b
  separates : Separates rgb entries b
  abort_ok : ∀ b', abort = .ok b' ↔ b.skipped = [] ∧ b' = b
  abort_error : b.skipped ≠ [] → ∃ before e after f more, entries = before ++ e :: after ∧
    (∀ x ∈ before, (rgb x.path).isOk = true) ∧ rgb e.path = .error f ∧
    abort = .error (.image e.path f) ∧ b.skipped = ⟨e, (Failure.image e.path f).text⟩ :: more

lemma triedFault?_eq_none {a : Attempt} :
    triedFault? a = none ↔ (a.result.map Loaded.raster).isOk = true := by
  unfold triedFault?
  cases a.result with
  | ok loaded => exact iff_of_true rfl rfl
  | error f => exact iff_of_false (by simp) (by simp [Except.map, Except.isOk, Except.toBool])

lemma triedFault?_eq_some {a : Attempt} {e : ScanEntry} {f : ImageFault} :
    triedFault? a = some (e, f) ↔ a.entry = e ∧ a.result = .error f := by
  unfold triedFault?
  cases a.result with
  | ok loaded => simp
  | error g => simp

lemma separate_skipped (tries : List Attempt) :
    (separate tries).skipped = (tries.filterMap triedFault?).map asLeftOut :=
  List.map_filterMap.symm

/-- Both policies see the same faults: one reports them all, the other ends at the first. -/
lemma settle_abort_faults (tries : List Attempt) :
    Batch.settle .abort tries =
      match tries.filterMap triedFault? with
      | [] => .ok (separate tries)
      | x :: _ => .error (.image x.1.path x.2) := by
  rw [settle_abort, ← List.head?_filterMap]
  cases tries.filterMap triedFault? with
  | nil => rfl
  | cons x more => rfl

lemma bothPolicies_triesBy (load : Path → Except ImageFault Loaded) (entries : List ScanEntry) :
    BothPolicies (fun p => (load p).map Loaded.raster) entries
      (Batch.settle .skip (triesBy load entries)) (Batch.settle .abort (triesBy load entries))
      (separate (triesBy load entries)) := by
  have hskipped := separate_skipped (triesBy load entries)
  have habort := settle_abort_faults (triesBy load entries)
  cases hfaults : (triesBy load entries).filterMap triedFault? with
  | nil =>
    rw [hfaults] at hskipped habort
    refine ⟨settle_skip _, separates_triesBy load entries, ?_, fun hne => absurd hskipped hne⟩
    intro b'
    rw [habort, Except.ok.injEq]
    constructor
    · intro hb
      exact ⟨hskipped, hb.symm⟩
    · intro hb
      exact hb.2.symm
  | cons x more =>
    rw [hfaults] at hskipped habort
    refine ⟨settle_skip _, separates_triesBy load entries, ?_, ?_⟩
    · intro b'
      rw [habort, hskipped]
      simp
    · intro _
      rw [triesBy, List.filterMap_map] at hfaults
      obtain ⟨before, e, after, rfl, hbefore, he, _⟩ := List.filterMap_eq_cons_iff.mp hfaults
      obtain ⟨e', f⟩ := x
      obtain ⟨rfl, hf⟩ := triedFault?_eq_some.mp he
      refine ⟨before, e, after, f, more.map asLeftOut, rfl, ?_, ?_, habort, hskipped⟩
      · intro y hy
        exact triedFault?_eq_none.mp (hbefore y hy)
      · exact congrArg (Except.map Loaded.raster) hf

/-- Whatever loading gives for the paths of the entries, in a tree or anywhere else, the two
policies agree on it. -/
theorem loadAll_under_both_policies (entries : List ScanEntry) :
    (∀ t : FileTree, ∃ b, BothPolicies t.loadRgb entries (t.loadAll .skip entries)
      (t.loadAll .abort entries) b) ∧
    ∀ load : Path → Except ImageFault Loaded, ∃ b,
      BothPolicies (fun p => (load p).map Loaded.raster) entries
        (Batch.settle .skip (triesBy load entries))
        (Batch.settle .abort (triesBy load entries)) b := by
  constructor
  · intro t
    exact ⟨_, bothPolicies_triesBy t.load entries⟩
  · intro load
    exact ⟨_, bothPolicies_triesBy load entries⟩

/-- Only what is named like an image can be loaded. -/
def loadNamed (p : Path) : Except ImageFault Loaded :=
  if isImageFile p then .ok ⟨.rgb8 (.fill 1 1 ⟨1, 2, 3⟩), false⟩ else .error .unknownFormat

def pageA : ScanEntry := ⟨Bytes.ofText "a.png", "a.png", 0⟩

def noteB : ScanEntry := ⟨Bytes.ofText "b.txt", "b.txt", 0⟩

theorem loadAll_under_both_policies_mixed :
    ∃ b, Batch.settle .skip (triesBy loadNamed [pageA, noteB, pageA, noteB]) = .ok b ∧
      b.included = [pageA, pageA] ∧ b.images.length = 2 ∧
      b.skipped.map Skipped.entry = [noteB, noteB] ∧
      Batch.settle .abort (triesBy loadNamed [pageA, noteB, pageA, noteB]) =
        .error (.image noteB.path .unknownFormat) := by
  obtain ⟨b, hb⟩ := (loadAll_under_both_policies [pageA, noteB, pageA, noteB]).2 loadNamed
  have hincluded : b.included = [pageA, pageA] := by
    rw [hb.separates.included]
    decide
  have hskipped : b.skipped.map Skipped.entry = [noteB, noteB] := by
    rw [hb.separates.skipped]
    decide
  have hne : b.skipped ≠ [] := by
    rintro hnil
    rw [hnil] at hskipped
    cases hskipped
  refine ⟨b, hb.skip_eq, hincluded, ?_, hskipped, ?_⟩
  · rw [← hb.separates.images.length_eq, hincluded]
    rfl
  · obtain ⟨before, e, after, f, more, _, _, hf, habort, hfirst⟩ := hb.abort_error hne
    rw [hfirst] at hskipped
    obtain rfl : e = noteB := (List.cons.inj hskipped).1
    rw [habort]
    cases hf
    rfl

end ScanBinder.Proofs
