import ScanBinder.Proofs.DocumentGraph
import ScanBinder.Proofs.Loading
import ScanBinder.Proofs.PageOrder
import ScanBinder.Proofs.Rounding
import ScanBinder.Proofs.TreeWrites

/-!
# How a run ends

The relation `Ends` lists the ways in which a run can end, each with what brings it about and
the tree it leaves behind; combining gives exactly the ending that the relation allows. From
it follows when a run has which outcome, in terms of the configuration, the folder and the
images alone.
-/

namespace ScanBinder.Proofs
open FileTree Pdf

/-! ## Scanning -/

def LeadsToFolder (t : FileTree) (p : Path) : Prop :=
  ∃ loc, t.find p = .ok (.taken loc .folder)

/-- A folder that has a child with the name of an image which is not a folder itself. -/
def HoldsImage (t : FileTree) (dir : Path) : Prop :=
  ∃ loc, t.find dir = .ok (.taken loc .folder) ∧
    ∃ n ∈ t.names loc, isImageFile (Path.join dir n) = true ∧ ¬LeadsToFolder t (Path.join dir n)

lemma isFolder_iff {t : FileTree} {p : Path} : t.isFolder p = true ↔ LeadsToFolder t p := by
  unfold FileTree.isFolder FileTree.lookup LeadsToFolder
  cases h : t.find p with
  | error e => simp
  | ok place =>
    cases place with
    | free loc => simp
    | taken loc e => cases e <;> simp

lemma inPageOrder_eq_nil {entries : List ScanEntry} : inPageOrder entries = [] ↔ entries = [] := by
  have hlen := (inPageOrder_perm entries).length_eq
  rw [← List.length_eq_zero_iff, hlen, List.length_eq_zero_iff]

lemma findImages_of_folder {t : FileTree} {dir : Path} {loc : Location}
    (h : t.find dir = .ok (.taken loc .folder)) :
    t.findImages dir = .ok (t.listingOf dir (t.names loc)).entries := by
  have hfolder : t.isFolder dir = true := isFolder_iff.mpr ⟨loc, h⟩
  have hlist : t.list dir = .ok (t.names loc) := by
    unfold FileTree.list
    rw [h]
  unfold FileTree.findImages FileTree.scanFolder
  rw [if_pos hfolder, hlist]
  rfl

lemma findImages_of_not_folder {t : FileTree} {dir : Path} (h : ¬LeadsToFolder t dir) :
    t.findImages dir = .error (.folderNotFound dir) := by
  unfold FileTree.findImages FileTree.scanFolder
  rw [if_neg (fun hfolder => h (isFolder_iff.mp hfolder))]
  rfl

/-- What scanning gives comes from a folder. -/
lemma leadsToFolder_of_findImages {t : FileTree} {dir : Path} {entries : List ScanEntry}
    (h : t.findImages dir = .ok entries) : LeadsToFolder t dir := by
  by_contra hfolder
  rw [findImages_of_not_folder hfolder] at h
  cases h

lemma findImages_pairwise {t : FileTree} {dir : Path} {entries : List ScanEntry}
    (h : t.findImages dir = .ok entries) : entries.Pairwise InOrder := by
  obtain ⟨loc, hloc⟩ := leadsToFolder_of_findImages h
  rw [findImages_of_folder hloc] at h
  cases h
  exact inPageOrder_pairwise _

lemma findImages_eq_nil {t : FileTree} {dir : Path} {entries : List ScanEntry}
    (h : t.findImages dir = .ok entries) : entries = [] ↔ ¬HoldsImage t dir := by
  obtain ⟨loc, hloc⟩ := leadsToFolder_of_findImages h
  rw [findImages_of_folder hloc] at h
  cases h
  have hholds : HoldsImage t dir ↔
      ∃ n ∈ t.names loc, isImageFile (Path.join dir n) = true ∧
        ¬LeadsToFolder t (Path.join dir n) := by
    unfold HoldsImage
    rw [hloc]
    constructor
    · rintro ⟨loc', hloc', hn⟩
      cases hloc'
      exact hn
    · intro hn
      exact ⟨loc, rfl, hn⟩
  rw [hholds]
  simp only [FileTree.listingOf, FileTree.imageNamed, inPageOrder_eq_nil, List.map_eq_nil_iff,
    List.filter_eq_nil_iff, List.mem_filter, List.mem_map, Bool.not_eq_true', Bool.not_eq_false,
    isFolder_iff]
  push Not
  constructor
  · intro hall n hn himage
    exact hall _ ⟨⟨n, hn, rfl⟩, himage⟩
  · rintro hall _ ⟨⟨n, hn, rfl⟩, himage⟩
    exact hall n hn himage

/-! ## Endings -/

def Loads (t : FileTree) (e : ScanEntry) : Prop :=
  ∃ image, t.loadRgb e.path = .ok image

/-- A run whose images are loaded: no failure ended it, and there is an image to bind. -/
structure ImagesReady (t : FileTree) (c : Config) (entries : List ScanEntry) : Prop where
  config_ok : c.fault? = none
  found : t.findImages c.inputDir = .ok entries
  all_load : c.onError = .abort → ∀ e ∈ entries, Loads t e
  some_load : ∃ e ∈ entries, Loads t e

/-- The ways in which a run can end, and the trees they leave. -/
inductive Ends (t : FileTree) (z : Packer) (c : Config) (now : Moment) :
    Except Failure Outcome × FileTree → Prop
  | invalid {f : ConfigFault} : c.fault? = some f → Ends t z c now (.error (.invalidConfig f), t)
  | noFolder : c.fault? = none → ¬LeadsToFolder t c.inputDir →
      Ends t z c now (.error (.folderNotFound c.inputDir), t)
  | noImages : c.fault? = none → t.findImages c.inputDir = .ok [] →
      Ends t z c now (.ok .noImages, t)
  | unreadable {before after : List ScanEntry} {e : ScanEntry} {f : ImageFault} :
      c.fault? = none → t.findImages c.inputDir = .ok (before ++ e :: after) →
      c.onError = .abort → (∀ x ∈ before, Loads t x) → t.loadRgb e.path = .error f →
      Ends t z c now (.error (.image e.path f), t)
  | noneReadable {entries : List ScanEntry} :
      c.fault? = none → t.findImages c.inputDir = .ok entries → entries ≠ [] →
      c.onError = .skip → (∀ e ∈ entries, ¬Loads t e) →
      Ends t z c now (.error (.noReadableImages c.inputDir), t)
  | rejected {entries : List ScanEntry} {f : Jpeg.SizeFault} : ImagesReady t c entries →
      build c.options now (batchOf t entries).images = .error (.encode f) →
      Ends t z c now (.error (.encode f), t)
  | unwritable {entries : List ScanEntry} {d : Document} {e : PathError} :
      ImagesReady t c entries → build c.options now (batchOf t entries).images = .ok d →
      t.write c.outputFile (d.compressed z).bytes = .error e → Ends t z c now (.error (.io e), t)
  | created {entries : List ScanEntry} {d : Document} {t' : FileTree} :
      ImagesReady t c entries → build c.options now (batchOf t entries).images = .ok d →
      t.write c.outputFile (d.compressed z).bytes = .ok t' →
      Ends t z c now
        (.ok (.created c.outputFile (batchOf t entries).included (batchOf t entries).skipped), t')

lemma not_loads_iff {t : FileTree} {e : ScanEntry} :
    ¬Loads t e ↔ ∃ f, t.loadRgb e.path = .error f := by
  unfold Loads
  cases t.loadRgb e.path with
  | ok image => simp
  | error f => simp

lemma batchOf_images_ne_nil {t : FileTree} {entries : List ScanEntry} :
    (batchOf t entries).images ≠ [] ↔ ∃ e ∈ entries, Loads t e := by
  rw [ne_eq, batchOf_images_eq_nil]
  simp only [← not_loads_iff]
  push Not
  rfl

lemma loadAll_eq_batchOf {t : FileTree} {policy : ErrorPolicy} {entries : List ScanEntry}
    (h : policy = .abort → ∀ e ∈ entries, Loads t e) :
    t.loadAll policy entries = .ok (batchOf t entries) := by
  cases policy with
  | skip => exact loadAll_skip t entries
  | abort =>
    have hnone : entries.findSome? (faulty? t) = none := by
      rw [List.findSome?_eq_none_iff]
      intro e he
      exact faulty?_eq_none.mpr (h rfl e he)
    rw [loadAll_abort, hnone]

lemma loadAll_first_failure {t : FileTree} {before after : List ScanEntry} {e : ScanEntry}
    {f : ImageFault} (hbefore : ∀ x ∈ before, Loads t x) (hf : t.loadRgb e.path = .error f) :
    t.loadAll .abort (before ++ e :: after) = .error (.image e.path f) := by
  have hnone : before.findSome? (faulty? t) = none := by
    rw [List.findSome?_eq_none_iff]
    intro x hx
    exact faulty?_eq_none.mpr (hbefore x hx)
  have hsome : faulty? t e = some (e, f) := faulty?_eq_some.mpr ⟨rfl, hf⟩
  rw [loadAll_abort, List.findSome?_append, hnone, List.findSome?_cons, hsome]
  rfl

/-- All entries load, or there is a first one that does not. -/
lemma all_load_or_first_failure (t : FileTree) (entries : List ScanEntry) :
    (∀ e ∈ entries, Loads t e) ∨
      ∃ before e after f, entries = before ++ e :: after ∧ (∀ x ∈ before, Loads t x) ∧
        t.loadRgb e.path = .error f := by
  induction entries with
  | nil => exact .inl (by simp)
  | cons e entries ih =>
    cases h : t.loadRgb e.path with
    | error f => exact .inr ⟨[], e, entries, f, rfl, by simp, h⟩
    | ok image =>
      rcases ih with hall | ⟨before, x, after, f, rfl, hbefore, hf⟩
      · exact .inl (List.forall_mem_cons.mpr ⟨⟨image, h⟩, hall⟩)
      · exact .inr ⟨e :: before, x, after, f, rfl,
          List.forall_mem_cons.mpr ⟨⟨image, h⟩, hbefore⟩, hf⟩

section
variable {t : FileTree} {z : Packer} {c : Config} {entries : List ScanEntry}

/-- From loading on, a run goes by what became of the images. -/
lemma combine_of_found (hconfig : c.fault? = none) (hfound : t.findImages c.inputDir = .ok entries)
    (hne : entries ≠ []) (now : Moment) :
    t.combine z c now =
      match t.loadAll c.onError entries with
      | .error f => (.error f, t)
      | .ok b => t.writeBatch z c now b := by
  have hattempts : ¬(t.attempts entries).isEmpty = true := by
    simpa [FileTree.attempts] using hne
  unfold FileTree.combine
  simp only [hconfig, hfound]
  rw [if_neg (by simpa using hne)]
  unfold FileTree.writeImages FileTree.writeAttempts FileTree.loadAll
  cases Batch.settle c.onError (t.attempts entries) with
  | error f => exact if_neg hattempts
  | ok b => exact if_neg hattempts

lemma combine_of_ready (h : ImagesReady t c entries) (now : Moment) :
    t.combine z c now =
      match build c.options now (batchOf t entries).images with
      | .error f => (.error (buildFailure f), t)
      | .ok d =>
        match t.write c.outputFile (d.compressed z).bytes with
        | .error e => (.error (.io e), t)
        | .ok t' =>
          (.ok (.created c.outputFile (batchOf t entries).included (batchOf t entries).skipped),
            t') := by
  have hne : entries ≠ [] := by
    obtain ⟨e, he, _⟩ := h.some_load
    exact List.ne_nil_of_mem he
  have himages : ¬(batchOf t entries).images.isEmpty = true := by
    simpa using batchOf_images_ne_nil.mpr h.some_load
  rw [combine_of_found h.config_ok h.found hne, loadAll_eq_batchOf h.all_load]
  dsimp only
  unfold FileTree.writeBatch FileTree.writeDocument
  rw [if_neg himages]
  cases build c.options now (batchOf t entries).images with
  | error f => rfl
  | ok d =>
    dsimp only
    cases t.write c.outputFile (d.compressed z).bytes with
    | error e => rfl
    | ok t' => rfl

end

/-- Combining gives the ending that is allowed. -/
lemma combine_of_ends {t : FileTree} {z : Packer} {c : Config} {now : Moment}
    {r : Except Failure Outcome × FileTree} (h : Ends t z c now r) : t.combine z c now = r := by
  cases h with
  | invalid hconfig =>
    unfold FileTree.combine
    simp only [hconfig]
  | noFolder hconfig hfolder =>
    unfold FileTree.combine
    simp only [hconfig, findImages_of_not_folder hfolder]
  | noImages hconfig hfound =>
    unfold FileTree.combine
    simp only [hconfig, hfound]
    rfl
  | unreadable hconfig hfound hpolicy hbefore hf =>
    rw [combine_of_found hconfig hfound (by simp), hpolicy, loadAll_first_failure hbefore hf]
  | @noneReadable entries hconfig hfound hne hpolicy hnone =>
    have hempty : (batchOf t entries).images.isEmpty = true := by
      rw [List.isEmpty_iff, batchOf_images_eq_nil]
      intro e he
      exact not_loads_iff.mp (hnone e he)
    rw [combine_of_found hconfig hfound hne, hpolicy, loadAll_skip]
    dsimp only
    unfold FileTree.writeBatch
    rw [if_pos hempty]
  | rejected hready hbuild =>
    rw [combine_of_ready hready, hbuild]
    rfl
  | unwritable hready hbuild hwrite =>
    rw [combine_of_ready hready, hbuild]
    dsimp only
    rw [hwrite]
  | created hready hbuild hwrite =>
    rw [combine_of_ready hready, hbuild]
    dsimp only
    rw [hwrite]

lemma exists_ends_of_ready {t : FileTree} {c : Config} {entries : List ScanEntry}
    (h : ImagesReady t c entries) (z : Packer) (now : Moment) : ∃ r, Ends t z c now r := by
  cases hbuild : build c.options now (batchOf t entries).images with
  | error f =>
    cases f with
    | noImages =>
      exact absurd (build_noImages_iff.mp hbuild) (batchOf_images_ne_nil.mpr h.some_load)
    | encode f => exact ⟨_, .rejected h hbuild⟩
  | ok d =>
    cases hwrite : t.write c.outputFile (d.compressed z).bytes with
    | error e => exact ⟨_, .unwritable h hbuild hwrite⟩
    | ok t' => exact ⟨_, .created h hbuild hwrite⟩

/-- Some ending is always allowed. -/
lemma exists_ends (t : FileTree) (z : Packer) (c : Config) (now : Moment) :
    ∃ r, Ends t z c now r := by
  cases hconfig : c.fault? with
  | some f => exact ⟨_, .invalid hconfig⟩
  | none =>
    by_cases hfolder : LeadsToFolder t c.inputDir
    · obtain ⟨loc, hloc⟩ := hfolder
      have hfound := findImages_of_folder hloc
      generalize (t.listingOf c.inputDir (t.names loc)).entries = entries at hfound
      by_cases hne : entries = []
      · exact ⟨_, .noImages hconfig (hne ▸ hfound)⟩
      -- What is left depends on the policy: the first failure counts under one of them, and
      -- whether anything loads at all under the other.
      cases hpolicy : c.onError with
      | abort =>
        rcases all_load_or_first_failure t entries with
          hall | ⟨before, e, after, f, rfl, hbefore, hf⟩
        · obtain ⟨e, he⟩ := List.exists_mem_of_ne_nil _ hne
          exact exists_ends_of_ready ⟨hconfig, hfound, fun _ => hall, ⟨e, he, hall e he⟩⟩ z now
        · exact ⟨_, .unreadable hconfig hfound hpolicy hbefore hf⟩
      | skip =>
        by_cases hsome : ∃ e ∈ entries, Loads t e
        · exact exists_ends_of_ready ⟨hconfig, hfound, by simp [hpolicy], hsome⟩ z now
        · push Not at hsome
          exact ⟨_, .noneReadable hconfig hfound hne hpolicy hsome⟩
    · exact ⟨_, .noFolder hconfig hfolder⟩

/-- The relation is the graph of combining. -/
theorem combine_eq_iff {t : FileTree} {z : Packer} {c : Config} {now : Moment}
    {r : Except Failure Outcome × FileTree} : t.combine z c now = r ↔ Ends t z c now r := by
  constructor
  · rintro rfl
    obtain ⟨r, h⟩ := exists_ends t z c now
    rwa [combine_of_ends h]
  · exact combine_of_ends

/-! ## What each outcome means -/

/-- A configuration with a resolution that is not a positive number, a quality out of range,
or no output. -/
def Unsound (c : Config) : Prop :=
  ¬(c.resolution.isFinite = true ∧ 0 < c.resolution.signedUnits) ∨
    (∃ quality, c.encoding = .jpeg quality ∧ ¬(1 ≤ quality.toNat ∧ quality.toNat ≤ 100)) ∨
    c.outputFile = []

/-- A run that gets as far as loading `entries`. -/
structure ReachesLoading (t : FileTree) (c : Config) (entries : List ScanEntry) : Prop where
  sound : ¬Unsound c
  folder : LeadsToFolder t c.inputDir
  images : HoldsImage t c.inputDir
  found : t.findImages c.inputDir = .ok entries
  in_order : entries.Pairwise InOrder

/-- A run that gets as far as binding the images of `entries`. -/
structure ReachesBinding (t : FileTree) (c : Config) (entries : List ScanEntry) : Prop
    extends ReachesLoading t c entries where
  all_load : c.onError = .abort → ∀ e ∈ entries, Loads t e
  some_load : ∃ e ∈ entries, Loads t e

/-- The encoder rejects the image of an entry. -/
def Rejects (t : FileTree) (c : Config) (entries : List ScanEntry) : Prop :=
  ∃ quality, c.encoding = .jpeg quality ∧ ∃ e ∈ entries, ∃ image f,
    t.loadRgb e.path = .ok image ∧ Jpeg.encode quality image = .error f

lemma signedUnits_pos {f : BinaryFormat} {x : Binary f} :
    0 < x.signedUnits ↔ x.isZero = false ∧ x.negative = false := by
  unfold Binary.signedUnits
  rw [← units_pos]
  cases x.negative with
  | true => simp
  | false => simp

lemma qualityFault?_eq_none {encoding : PageEncoding} : Config.qualityFault? encoding = none ↔
    ¬∃ quality, encoding = .jpeg quality ∧ ¬(1 ≤ quality.toNat ∧ quality.toNat ≤ 100) := by
  cases encoding with
  | flate => simp [Config.qualityFault?]
  | jpeg quality => simp [Config.qualityFault?, UInt8.le_iff_toNat_le]

lemma badResolution_iff {x : Single} :
    (!(x.isFinite && !x.isZero && !x.negative)) = true ↔
      ¬(x.isFinite = true ∧ 0 < x.signedUnits) := by
  rw [signedUnits_pos, Bool.not_eq_true', ← Bool.not_eq_true]
  simp only [Bool.and_eq_true, Bool.not_eq_true', and_assoc]

lemma fault?_eq_none {c : Config} : c.fault? = none ↔ ¬Unsound c := by
  unfold Config.fault? Unsound
  rw [← badResolution_iff, not_or, not_or, ← qualityFault?_eq_none]
  split
  · next h => simp [h]
  · next h =>
    cases Config.qualityFault? c.encoding with
    | some f => simp
    | none => simp [h]

section
variable {t : FileTree} {z : Packer} {c : Config} {now : Moment} {entries : List ScanEntry}

lemma reachesLoading_iff : ReachesLoading t c entries ↔
    c.fault? = none ∧ t.findImages c.inputDir = .ok entries ∧ entries ≠ [] := by
  constructor
  · intro h
    refine ⟨fault?_eq_none.mpr h.sound, h.found, ?_⟩
    intro hnil
    exact (findImages_eq_nil h.found).mp hnil h.images
  · rintro ⟨hconfig, hfound, hne⟩
    refine ⟨fault?_eq_none.mp hconfig, leadsToFolder_of_findImages hfound, ?_, hfound,
      findImages_pairwise hfound⟩
    by_contra himages
    exact hne ((findImages_eq_nil hfound).mpr himages)

lemma reachesBinding_iff : ReachesBinding t c entries ↔ ImagesReady t c entries := by
  constructor
  · intro h
    exact ⟨fault?_eq_none.mpr h.sound, h.found, h.all_load, h.some_load⟩
  · intro h
    obtain ⟨e, he, _⟩ := h.some_load
    exact ⟨reachesLoading_iff.mpr ⟨h.config_ok, h.found, List.ne_nil_of_mem he⟩, h.all_load,
      h.some_load⟩

lemma mem_batchOf_images {image : Raster (Rgb UInt8)} :
    image ∈ (batchOf t entries).images ↔ ∃ e ∈ entries, t.loadRgb e.path = .ok image := by
  simp only [batchOf, List.mem_filterMap, image?_eq_some]

/-- Binding the images fails if the encoder rejects one of them. -/
lemma build_batchOf_encode_iff :
    (∃ f, build c.options now (batchOf t entries).images = .error (.encode f)) ↔
      Rejects t c entries := by
  constructor
  · rintro ⟨f, hbuild⟩
    obtain ⟨before, image, after, himages, _, hf⟩ := build_encode_iff.mp hbuild
    obtain ⟨quality, hquality, hreject⟩ := imageStream_error.mp hf
    have hmem : image ∈ (batchOf t entries).images := by
      rw [himages]
      simp
    obtain ⟨e, he, hload⟩ := mem_batchOf_images.mp hmem
    exact ⟨quality, hquality, e, he, image, f, hload, hreject⟩
  · rintro ⟨quality, hquality, e, he, image, f, hload, hreject⟩
    have hmem := mem_batchOf_images.mpr ⟨e, he, hload⟩
    have hf : imageStream c.options.encoding image = .error f :=
      imageStream_error.mpr ⟨quality, hquality, hreject⟩
    rcases build_cases c.options now (batchOf t entries).images with
      ⟨hnil, _⟩ | ⟨_, streams, hs, _⟩ | ⟨_, _, _, g, _, _, _, hbuild⟩
    · exact absurd hnil (List.ne_nil_of_mem hmem)
    · obtain ⟨s, hstored⟩ := imageStream_of_storedAs hs image hmem
      rw [hf] at hstored
      cases hstored
    · exact ⟨g, hbuild⟩

/-- The images of a run are bound unless the encoder rejects one of them. -/
lemma build_batchOf_ok_iff (h : ImagesReady t c entries) :
    (∃ d, build c.options now (batchOf t entries).images = .ok d) ↔ ¬Rejects t c entries := by
  rw [← build_batchOf_encode_iff]
  cases hbuild : build c.options now (batchOf t entries).images with
  | ok d => simp
  | error f =>
    cases f with
    | noImages =>
      exact absurd (build_noImages_iff.mp hbuild) (batchOf_images_ne_nil.mpr h.some_load)
    | encode f => simp

lemma outcome_eq_iff {x : Except Failure Outcome} :
    (t.combine z c now).1 = x ↔ ∃ t', Ends t z c now (x, t') := by
  constructor
  · rintro rfl
    exact ⟨_, combine_eq_iff.mp rfl⟩
  · rintro ⟨t', h⟩
    rw [combine_of_ends h]

lemma combine_invalidConfig_iff :
    (∃ f, (t.combine z c now).1 = .error (.invalidConfig f)) ↔ Unsound c := by
  rw [← not_iff_not, ← fault?_eq_none]
  constructor
  · intro h
    cases hconfig : c.fault? with
    | none => rfl
    | some f => exact absurd ⟨f, outcome_eq_iff.mpr ⟨t, .invalid hconfig⟩⟩ h
  · rintro hconfig ⟨f, h⟩
    obtain ⟨t', hends⟩ := outcome_eq_iff.mp h
    cases hends with
    | invalid hf =>
      rw [hconfig] at hf
      cases hf

lemma combine_folderNotFound_iff {p : Path} :
    (t.combine z c now).1 = .error (.folderNotFound p) ↔
      ¬Unsound c ∧ ¬LeadsToFolder t c.inputDir ∧ p = c.inputDir := by
  rw [outcome_eq_iff, ← fault?_eq_none]
  constructor
  · rintro ⟨t', hends⟩
    cases hends with
    | noFolder hconfig hfolder => exact ⟨hconfig, hfolder, rfl⟩
  · rintro ⟨hconfig, hfolder, rfl⟩
    exact ⟨t, .noFolder hconfig hfolder⟩

lemma combine_noImages_iff :
    (t.combine z c now).1 = .ok .noImages ↔
      ¬Unsound c ∧ LeadsToFolder t c.inputDir ∧ ¬HoldsImage t c.inputDir := by
  rw [outcome_eq_iff, ← fault?_eq_none]
  constructor
  · rintro ⟨t', hends⟩
    cases hends with
    | noImages hconfig hfound =>
      exact ⟨hconfig, leadsToFolder_of_findImages hfound, (findImages_eq_nil hfound).mp rfl⟩
  · rintro ⟨hconfig, ⟨loc, hloc⟩, himages⟩
    have hfound := findImages_of_folder hloc
    rw [(findImages_eq_nil hfound).mpr himages] at hfound
    exact ⟨t, .noImages hconfig hfound⟩

lemma combine_image_iff {p : Path} {f : ImageFault} :
    (t.combine z c now).1 = .error (.image p f) ↔
      c.onError = .abort ∧ ∃ before e after, ReachesLoading t c (before ++ e :: after) ∧
        (∀ x ∈ before, Loads t x) ∧ t.loadRgb e.path = .error f ∧ p = e.path := by
  rw [outcome_eq_iff]
  constructor
  · rintro ⟨t', hends⟩
    cases hends with
    | @unreadable before after e _ hconfig hfound hpolicy hbefore hf =>
      exact ⟨hpolicy, before, e, after, reachesLoading_iff.mpr ⟨hconfig, hfound, by simp⟩,
        hbefore, hf, rfl⟩
  · rintro ⟨hpolicy, before, e, after, hloading, hbefore, hf, rfl⟩
    obtain ⟨hconfig, hfound, _⟩ := reachesLoading_iff.mp hloading
    exact ⟨t, .unreadable hconfig hfound hpolicy hbefore hf⟩

lemma combine_image_exists_iff :
    (∃ p f, (t.combine z c now).1 = .error (.image p f)) ↔
      c.onError = .abort ∧ ∃ entries, ReachesLoading t c entries ∧ ∃ e ∈ entries, ¬Loads t e := by
  simp only [combine_image_iff]
  constructor
  · rintro ⟨p, f, hpolicy, before, e, after, hloading, _, hf, _⟩
    exact ⟨hpolicy, _, hloading, e, by simp, not_loads_iff.mpr ⟨f, hf⟩⟩
  · rintro ⟨hpolicy, entries, hloading, x, hx, hfails⟩
    rcases all_load_or_first_failure t entries with
      hall | ⟨before, e, after, f, rfl, hbefore, hf⟩
    · exact absurd (hall x hx) hfails
    · exact ⟨e.path, f, hpolicy, before, e, after, hloading, hbefore, hf, rfl⟩

lemma combine_noReadableImages_iff {p : Path} :
    (t.combine z c now).1 = .error (.noReadableImages p) ↔
      c.onError = .skip ∧ (∃ entries, ReachesLoading t c entries ∧ ∀ e ∈ entries, ¬Loads t e) ∧
        p = c.inputDir := by
  rw [outcome_eq_iff]
  constructor
  · rintro ⟨t', hends⟩
    cases hends with
    | @noneReadable entries hconfig hfound hne hpolicy hnone =>
      exact ⟨hpolicy, ⟨entries, reachesLoading_iff.mpr ⟨hconfig, hfound, hne⟩, hnone⟩, rfl⟩
  · rintro ⟨hpolicy, ⟨entries, hloading, hnone⟩, rfl⟩
    obtain ⟨hconfig, hfound, hne⟩ := reachesLoading_iff.mp hloading
    exact ⟨t, .noneReadable hconfig hfound hne hpolicy hnone⟩

lemma combine_encode_iff :
    (∃ f, (t.combine z c now).1 = .error (.encode f)) ↔
      ∃ entries, ReachesBinding t c entries ∧ Rejects t c entries := by
  constructor
  · rintro ⟨f, h⟩
    obtain ⟨t', hends⟩ := outcome_eq_iff.mp h
    cases hends with
    | @rejected entries _ hready hbuild =>
      exact ⟨entries, reachesBinding_iff.mpr hready, build_batchOf_encode_iff.mp ⟨f, hbuild⟩⟩
  · rintro ⟨entries, hbinding, hrejects⟩
    obtain ⟨f, hbuild⟩ := build_batchOf_encode_iff.mpr hrejects
    exact ⟨f, outcome_eq_iff.mpr ⟨t, .rejected (reachesBinding_iff.mp hbinding) hbuild⟩⟩

lemma combine_io_iff {e : PathError} :
    (t.combine z c now).1 = .error (.io e) ↔
      (∃ entries, ReachesBinding t c entries ∧ ¬Rejects t c entries) ∧
        t.writeLocation c.outputFile = .error e := by
  constructor
  · intro h
    obtain ⟨t', hends⟩ := outcome_eq_iff.mp h
    cases hends with
    | @unwritable entries d _ hready hbuild hwrite =>
      exact ⟨⟨entries, reachesBinding_iff.mpr hready,
        (build_batchOf_ok_iff hready).mp ⟨d, hbuild⟩⟩, write_eq_error.mp hwrite⟩
  · rintro ⟨⟨entries, hbinding, haccepts⟩, hlocation⟩
    have hready := reachesBinding_iff.mp hbinding
    obtain ⟨d, hbuild⟩ := (build_batchOf_ok_iff hready).mpr haccepts
    exact outcome_eq_iff.mpr ⟨t, .unwritable hready hbuild (write_eq_error.mpr hlocation)⟩

lemma combine_created_iff :
    (∃ output pages skipped, (t.combine z c now).1 = .ok (.created output pages skipped)) ↔
      (∃ entries, ReachesBinding t c entries ∧ ¬Rejects t c entries) ∧
        ∃ loc, t.writeLocation c.outputFile = .ok loc := by
  constructor
  · rintro ⟨output, pages, skipped, h⟩
    obtain ⟨t', hends⟩ := outcome_eq_iff.mp h
    cases hends with
    | @created entries d _ hready hbuild hwrite =>
      exact ⟨⟨entries, reachesBinding_iff.mpr hready,
        (build_batchOf_ok_iff hready).mp ⟨d, hbuild⟩⟩, write_ok_iff.mp ⟨t', hwrite⟩⟩
  · rintro ⟨⟨entries, hbinding, haccepts⟩, hlocation⟩
    have hready := reachesBinding_iff.mp hbinding
    obtain ⟨d, hbuild⟩ := (build_batchOf_ok_iff hready).mpr haccepts
    obtain ⟨t', hwrite⟩ := write_ok_iff.mpr hlocation
    exact ⟨_, _, _, outcome_eq_iff.mpr ⟨t', .created hready hbuild hwrite⟩⟩

end

/-- When a run ends in which way. The conditions of an outcome contain that no earlier one
applies, and there are no other outcomes. -/
theorem combine_outcomes (t : FileTree) (z : Packer) (c : Config) (now : Moment) :
    ((∃ f, (t.combine z c now).1 = .error (.invalidConfig f)) ↔ Unsound c) ∧
    (∀ p, (t.combine z c now).1 = .error (.folderNotFound p) ↔
      ¬Unsound c ∧ ¬LeadsToFolder t c.inputDir ∧ p = c.inputDir) ∧
    ((t.combine z c now).1 = .ok .noImages ↔
      ¬Unsound c ∧ LeadsToFolder t c.inputDir ∧ ¬HoldsImage t c.inputDir) ∧
    ((∃ p f, (t.combine z c now).1 = .error (.image p f)) ↔
      c.onError = .abort ∧ ∃ entries, ReachesLoading t c entries ∧ ∃ e ∈ entries, ¬Loads t e) ∧
    (∀ p f, (t.combine z c now).1 = .error (.image p f) ↔
      c.onError = .abort ∧ ∃ before e after, ReachesLoading t c (before ++ e :: after) ∧
        (∀ x ∈ before, Loads t x) ∧ t.loadRgb e.path = .error f ∧ p = e.path) ∧
    (∀ p, (t.combine z c now).1 = .error (.noReadableImages p) ↔
      c.onError = .skip ∧ (∃ entries, ReachesLoading t c entries ∧ ∀ e ∈ entries, ¬Loads t e) ∧
        p = c.inputDir) ∧
    ((∃ f, (t.combine z c now).1 = .error (.encode f)) ↔
      ∃ entries, ReachesBinding t c entries ∧ Rejects t c entries) ∧
    (∀ e, (t.combine z c now).1 = .error (.io e) ↔
      (∃ entries, ReachesBinding t c entries ∧ ¬Rejects t c entries) ∧
        t.writeLocation c.outputFile = .error e) ∧
    ((∃ output pages skipped, (t.combine z c now).1 = .ok (.created output pages skipped)) ↔
      (∃ entries, ReachesBinding t c entries ∧ ¬Rejects t c entries) ∧
        ∃ loc, t.writeLocation c.outputFile = .ok loc) ∧
    (∀ f, (t.combine z c now).1 ≠ .error (.general f)) ∧
    (∀ p, (t.combine z c now).1 ≠ .error (.fileNotFound p)) ∧
    (∀ p, (t.combine z c now).1 ≠ .error (.emptyPdf p)) ∧
    ∀ f, (t.combine z c now).1 ≠ .error (.pdf f) := by
  refine ⟨combine_invalidConfig_iff, fun p => combine_folderNotFound_iff, combine_noImages_iff,
    combine_image_exists_iff, fun p f => combine_image_iff, fun p => combine_noReadableImages_iff,
    combine_encode_iff, fun e => combine_io_iff, combine_created_iff, ?_, ?_, ?_, ?_⟩
  all_goals
    intro x h
    obtain ⟨t', hends⟩ := outcome_eq_iff.mp h
    cases hends

end ScanBinder.Proofs
