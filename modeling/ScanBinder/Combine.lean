import ScanBinder.Batch
import ScanBinder.Pdf.Build
import ScanBinder.Pdf.Compress
import ScanBinder.Pdf.Inspect

/-!
# Combining a folder into a document

A run checks its configuration, scans the folder, loads the images, binds them and writes
the document with its streams compressed. Each step gives what came of it together with the
file tree after it, also when it fails: a change made before a failure would show.
-/

namespace ScanBinder

/-- What came of a run. -/
inductive Outcome where
  | noImages
  | created (output : Path) (pages : List ScanEntry) (skipped : List Skipped)
deriving DecidableEq

/-- The failure that a document could not be made. -/
def buildFailure : Pdf.BuildFault → Failure
  | .noImages => .general .noImages
  | .encode f => .encode f

namespace FileTree

/-- Binds images into a document and writes it compressed; gives the number of pages. -/
def writeDocument (t : FileTree) (z : Packer) (options : DocumentOptions) (now : Moment)
    (output : Path) (images : List (Raster (Rgb UInt8))) : Except Failure Nat × FileTree :=
  match Pdf.build options now images with
  | .error f => (.error (buildFailure f), t)
  | .ok d =>
    match t.write output (d.compressed z).bytes with
    | .error e => (.error (.io e), t)
    | .ok t => (.ok images.length, t)

/-- Writes the document of a batch. -/
def writeBatch (t : FileTree) (z : Packer) (c : Config) (now : Moment) (b : Batch) :
    Except Failure Outcome × FileTree :=
  if b.images.isEmpty then (.error (.noReadableImages c.inputDir), t)
  else
    match t.writeDocument z c.options now c.outputFile b.images with
    | (.error f, t) => (.error f, t)
    | (.ok _, t) => (.ok (.created c.outputFile b.included b.skipped), t)

/-- Writes the document of a list of tries. -/
def writeAttempts (t : FileTree) (z : Packer) (c : Config) (now : Moment)
    (attempts : List Attempt) : Except Failure Outcome × FileTree :=
  if attempts.isEmpty then (.error (.general .noInputFiles), t)
  else
    match Batch.settle c.onError attempts with
    | .error f => (.error f, t)
    | .ok b => t.writeBatch z c now b

/-- Loads entries and writes their document. -/
def writeImages (t : FileTree) (z : Packer) (c : Config) (now : Moment)
    (entries : List ScanEntry) : Except Failure Outcome × FileTree :=
  t.writeAttempts z c now (t.attempts entries)

/-- Combines the images of a folder into a document. -/
def combine (t : FileTree) (z : Packer) (c : Config) (now : Moment) :
    Except Failure Outcome × FileTree :=
  match c.fault? with
  | some f => (.error (.invalidConfig f), t)
  | none =>
    match t.findImages c.inputDir with
    | .error f => (.error f, t)
    | .ok entries =>
      if entries.isEmpty then (.ok .noImages, t) else t.writeImages z c now entries

end FileTree

end ScanBinder
