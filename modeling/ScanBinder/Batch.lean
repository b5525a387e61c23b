import ScanBinder.Scan

/-!
# Loading many images

Every entry is tried in its turn. What becomes of the tries depends on the policy: an entry
that fails ends the batch, or it is left out and the reason kept.
-/

namespace ScanBinder

/-- A try at loading an entry. -/
structure Attempt where
  entry : ScanEntry
  result : Except ImageFault Loaded

/-- An entry that was left out, and why. -/
structure Skipped where
  entry : ScanEntry
  reason : String
deriving DecidableEq

/-- Loaded images with the entries they belong to, and the entries left out. -/
structure Batch where
  images : List (Raster (Rgb UInt8))
  included : List ScanEntry
  skipped : List Skipped
deriving DecidableEq

namespace Batch

def empty : Batch := ⟨[], [], []⟩

/-- Adds an image in front. -/
def addPage (b : Batch) (e : ScanEntry) (image : Raster (Rgb UInt8)) : Batch :=
  { b with images := image :: b.images, included := e :: b.included }

/-- Leaves out an entry in front. -/
def leaveOut (b : Batch) (e : ScanEntry) (reason : String) : Batch :=
  { b with skipped := ⟨e, reason⟩ :: b.skipped }

/-- The failure of an entry that could not be loaded. -/
def failureOf (e : ScanEntry) (f : ImageFault) : Failure :=
  .image e.path f

/-- What becomes of a list of tries. -/
def settle (policy : ErrorPolicy) : List Attempt → Except Failure Batch
  | [] => .ok empty
  | ⟨e, .ok loaded⟩ :: more =>
    match settle policy more with
    | .ok b => .ok (b.addPage e loaded.raster)
    | .error f => .error f
  | ⟨e, .error f⟩ :: more =>
    match policy with
    | .abort => .error (failureOf e f)
    | .skip =>
      match settle policy more with
      | .ok b => .ok (b.leaveOut e (failureOf e f).text)
      | .error f => .error f

end Batch

namespace FileTree

/-- Tries to load each entry. -/
def attempts (t : FileTree) (entries : List ScanEntry) : List Attempt :=
  entries.map fun e => ⟨e, t.load e.path⟩

/-- Loads all entries under a policy. -/
def loadAll (t : FileTree) (policy : ErrorPolicy) (entries : List ScanEntry) :
    Except Failure Batch :=
  Batch.settle policy (t.attempts entries)

end FileTree

end ScanBinder
