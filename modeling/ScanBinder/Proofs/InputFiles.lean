import ScanBinder.Proofs.Combining
import ScanBinder.Proofs.SavedFile

/-!
# The images of a folder are left alone

A run writes to one location, the one that its output names. An image that stands somewhere
else is found unchanged after the run, whatever became of it. An image that stands there is
replaced by the document: nothing compares the output with the images that were found.
-/

namespace ScanBinder.Proofs
open FileTree Pdf

/-- A file that a run with the configuration `c` takes its images from: an entry of the scan, and
where its path leads. -/
structure InputFile (t : FileTree) (c : Config) (e : ScanEntry) (l : Location)
    (content : Bytes) : Prop where
  listed : ∃ entries, t.findImages c.inputDir = .ok entries ∧ e ∈ entries
  leads : t.find e.path = .ok (.taken l (.file content))

/-- A path that led to a file leads to the same file after a write, and the file has its content
unless it is the one that was written. -/
lemma find_file_of_writtenAt {t t' : FileTree} {loc l : Location} {content old : Bytes}
    (h : WrittenAt loc content t t') {p : Path} (hp : t.find p = .ok (.taken l (.file old))) :
    t'.find p = .ok (.taken l (.file (if l = loc then content else old))) := by
  have hafter := find_afterWrite h p
  rw [hp] at hafter
  generalize t'.find p = r' at hafter ⊢
  cases hafter with
  | untouched hfree htaken =>
    rw [if_neg]
    rintro rfl
    exact htaken old rfl
  | written hr =>
    rcases hr with hr | ⟨old', hr⟩
    · cases hr
    · cases hr
      rw [if_pos rfl]

/-- An input file is found unchanged after a run, unless the run has ended with a document and
the output names this very file; then it holds the document. -/
theorem combine_keeps_other_inputs {t : FileTree} {c : Config} (z : Packer) (now : Moment)
    {e : ScanEntry} {l : Location} {content : Bytes} (h : InputFile t c e l content) :
    match t.combine z c now with
    | (.ok (.created _ pages _), t') =>
      (t.writeLocation c.outputFile ≠ .ok l →
        t'.find e.path = .ok (.taken l (.file content))) ∧
      (t.writeLocation c.outputFile = .ok l →
        ∃ images d new, List.Forall₂ (fun e image => t.loadRgb e.path = .ok image) pages images ∧
          HoldsBinding z c.options now images d new ∧
          t'.find e.path = .ok (.taken l (.file new)))
    | (_, t') => t'.find e.path = .ok (.taken l (.file content)) := by
  generalize hr : t.combine z c now = r
  cases combine_eq_iff.mp hr with
  | @created entries d t' hready hbuild hwrite =>
    obtain ⟨loc, hloc, _, hwritten⟩ := writtenAt_of_write hwrite
    have hfind := find_file_of_writtenAt hwritten h.leads
    constructor
    · intro hother
      have hne : l ≠ loc := by
        rintro rfl
        exact hother hloc
      rwa [if_neg hne] at hfind
    · intro hsame
      rw [hloc] at hsame
      cases hsame
      rw [if_pos rfl] at hfind
      exact ⟨_, d, _, batchOf_images t entries, holdsBinding_of_build hbuild, hfind⟩
  | _ => exact h.leads

/-- The second of the three scans is an input file, whatever the output. -/
lemma scans_inputFile (output : Path) :
    InputFile scans { scansConfig with outputFile := output } (scan "Scan (2).bmp" 2)
      [Bytes.ofText "Scan (2).bmp"] (dotBitmap 6 5 4) :=
  ⟨⟨_, scans_findImages, by simp⟩, scans_find "Scan (2).bmp" (by decide)⟩

theorem combine_keeps_other_inputs_three_scans :
    InputFile scans scansConfig (scan "Scan (2).bmp" 2) [Bytes.ofText "Scan (2).bmp"]
        (dotBitmap 6 5 4) ∧
      (scans.combine .fixed scansConfig ⟨2026, 1, 18, 9, 30, 0⟩).2.find
          (scan "Scan (2).bmp" 2).path =
        .ok (.taken [Bytes.ofText "Scan (2).bmp"] (.file (dotBitmap 6 5 4))) := by
  obtain ⟨skipped, t', _, hcombine, _, _⟩ := scans_combine .fixed ⟨2026, 1, 18, 9, 30, 0⟩
  have hinput := scans_inputFile scansConfig.outputFile
  have hkept := combine_keeps_other_inputs .fixed ⟨2026, 1, 18, 9, 30, 0⟩ hinput
  have hlocation : scans.writeLocation scansConfig.outputFile = .ok [Bytes.ofText "out.pdf"] :=
    scans_writeLocation "out.pdf" (by decide)
  refine ⟨hinput, ?_⟩
  rw [show ({ scansConfig with outputFile := scansConfig.outputFile } : Config) = scansConfig from
    rfl, hcombine] at hkept
  rw [hcombine]
  apply hkept.1
  rw [hlocation]
  decide

/-! ## An output among the images -/

/-- A document starts with a percent sign. -/
lemma bytes_head? (d : Document) : d.bytes.head? = some 0x25 := by
  unfold Document.bytes
  simp only [List.append_assoc, headerBytes_eq]
  rfl

/-- An accepted configuration whose output is the second of the three scans. -/
def overwritingConfig : Config :=
  { scansConfig with outputFile := Bytes.ofText "./Scan (2).bmp" }

/-- An image is lost when the output names it. -/
theorem combine_overwrites_input :
    overwritingConfig.fault? = none ∧
      InputFile scans overwritingConfig (scan "Scan (2).bmp" 2) [Bytes.ofText "Scan (2).bmp"]
        (dotBitmap 6 5 4) ∧
      (scans.combine .fixed overwritingConfig ⟨2026, 1, 18, 9, 30, 0⟩).2.read
        (scan "Scan (2).bmp" 2).path ≠ .ok (dotBitmap 6 5 4) := by
  have haccept : overwritingConfig.fault? = none := by decide
  obtain ⟨skipped, t', d, hcombine, _, _, hwrite⟩ :=
    scans_combine_into "Scan (2).bmp" (by decide) (show overwritingConfig = _ from rfl) haccept
      .fixed ⟨2026, 1, 18, 9, 30, 0⟩
  obtain ⟨loc, _, _, _, hfind⟩ := write_spec hwrite
  have hread : t'.read (scan "Scan (2).bmp" 2).path = .ok (d.compressed .fixed).bytes :=
    read_of_find hfind
  refine ⟨haccept, scans_inputFile _, ?_⟩
  rw [hcombine, hread]
  intro hsame
  have hhead := bytes_head? (d.compressed .fixed)
  rw [Except.ok.inj hsame] at hhead
  revert hhead
  decide

end ScanBinder.Proofs
