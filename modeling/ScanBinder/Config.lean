import ScanBinder.Number.Decimal
import ScanBinder.Path

/-!
# Configuration

What a run is to do: the folder it reads, the file it writes, and how pages are made.
-/

namespace ScanBinder

/-- How the image of a page is stored. -/
inductive PageEncoding where
  /-- As plain samples, which may be stored compressed. -/
  | flate
  | jpeg (quality : UInt8)
deriving DecidableEq

/-- What to do with an image that cannot be read. -/
inductive ErrorPolicy where
  | abort
  | skip
deriving DecidableEq

/-- What a document depends on besides its images. -/
structure DocumentOptions where
  resolution : Single
  encoding : PageEncoding
  title : Option String
  author : Option String
deriving DecidableEq

structure Config where
  inputDir : Path
  outputFile : Path
  resolution : Single
  encoding : PageEncoding
  onError : ErrorPolicy
  title : Option String
  author : Option String
deriving DecidableEq

/-- The resolution of pages in dots per inch, unless another is asked for. -/
def defaultResolution : Single :=
  .ofInt .single 100

/-- The name of the output file, unless another is asked for. -/
def defaultOutputName : Name :=
  Bytes.ofText "Combined_Documents.pdf"

/-- The output file in a folder. -/
def defaultOutput (dir : Path) : Path :=
  Path.join dir defaultOutputName

def DocumentOptions.default : DocumentOptions :=
  ⟨defaultResolution, .flate, none, none⟩

/-- What can be wrong with a configuration. -/
inductive ConfigFault where
  | badResolution (resolution : Single)
  | badQuality (quality : UInt8)
  | emptyOutput
deriving DecidableEq

def ConfigFault.text : ConfigFault → String
  | badResolution r => "resolution must be a positive number of dpi, got " ++ r.text
  | badQuality q => "JPEG quality must be between 1 and 100, got " ++ toString q
  | emptyOutput => "output file path is empty"

namespace Config

/-- The configuration for a folder and an output file, and defaults for the rest. -/
def ofPaths (inputDir outputFile : Path) : Config :=
  ⟨inputDir, outputFile, defaultResolution, .flate, .abort, none, none⟩

def default : Config :=
  .ofPaths Path.here (defaultOutput Path.here)

/-- The quality of JPEG pages has to lie in a range. -/
def qualityFault? : PageEncoding → Option ConfigFault
  | .flate => none
  | .jpeg q => if 1 ≤ q ∧ q ≤ 100 then none else some (.badQuality q)

/-- The first thing that is wrong with a configuration. -/
def fault? (c : Config) : Option ConfigFault :=
  if !(c.resolution.isFinite && !c.resolution.isZero && !c.resolution.negative) then
    some (.badResolution c.resolution)
  else match qualityFault? c.encoding with
    | some f => some f
    | none => if c.outputFile = [] then some .emptyOutput else none

def options (c : Config) : DocumentOptions :=
  ⟨c.resolution, c.encoding, c.title, c.author⟩

end Config

end ScanBinder
