import ScanBinder.Image.Tiff.Directory

/-!
# Descriptions of TIFF images

The directory tells what the samples of a pixel mean, how they are compressed, and how the
image is cut into strips of whole rows or into tiles. With separate planes each channel has
strips or tiles of its own.
-/

namespace ScanBinder.Tiff

/-- What the samples of a pixel mean. -/
inductive Photometric where
  | whiteIsZero
  | blackIsZero
  | rgb
  | palette
  | mask
  | cmyk
  | ycbcr
  | lab
deriving DecidableEq

namespace Photometric

def ofCode? (n : Nat) : Option Photometric :=
  [(0, whiteIsZero), (1, blackIsZero), (2, rgb), (3, palette), (4, mask), (5, cmyk), (6, ycbcr),
    (8, lab)].lookup n

def text : Photometric → String
  | whiteIsZero => "WhiteIsZero"
  | blackIsZero => "BlackIsZero"
  | rgb => "RGB"
  | palette => "RGBPalette"
  | mask => "TransparencyMask"
  | cmyk => "CMYK"
  | ycbcr => "YCbCr"
  | lab => "CIELab"

end Photometric

/-- Ways to pack data that can be undone. -/
inductive Packing where
  | plain
  | lzw
  | deflate
  | packBits
  | facsimile
  /-- JPEG images, with tables that they share. -/
  | jpeg (tables : Option Bytes)
  /-- A way that is known only by its name. -/
  | named (name : String)
deriving DecidableEq

def Packing.ofCode (n : Nat) : Packing :=
  if n = 1 then plain
  else if n = 5 then lzw
  else if n = 8 ∨ n = 32946 then deflate
  else if n = 32773 then packBits
  else if n = 4 then facsimile
  else
    named (([(2, "Huffman"), (3, "Fax3"), (6, "JPEG"), (50000, "ZSTD"),
      (50001, "WebP")].lookup n).getD ("Unknown(" ++ toString n ++ ")"))

/-- What stands in for the samples of a row. -/
inductive Predictor where
  | none
  /-- Differences to the pixel before. -/
  | horizontal
  /-- Differences of the bytes of numbers with a point. -/
  | floating
deriving DecidableEq

def Predictor.ofCode? (n : Nat) : Option Predictor :=
  if n = 1 then some .none
  else if n = 2 then some .horizontal
  else if n = 3 then some .floating
  else Option.none

/-- How numbers are written. -/
def formatName (n : Nat) : String :=
  ([(1, "Uint"), (2, "Int"), (3, "IEEEFP"), (4, "Void")].lookup n).getD
    ("Unknown(" ++ toString n ++ ")")

/-- The pieces that an image is cut into, and where their data is. -/
structure Chunks where
  /-- The size of a piece, the last ones may be smaller. -/
  width : Nat
  height : Nat
  offsets : List Nat
  sizes : List Nat
  tiled : Bool

/-- Everything that the directory says of an image. -/
structure Description where
  width : Nat
  height : Nat
  photometric : Photometric
  packing : Packing
  samples : Nat
  format : Nat
  bits : Nat
  predictor : Predictor
  separate : Bool
  extraSamples : List Nat
  chunks : Chunks

/-- How many pieces of size `n` cover `total`. -/
def pieceCount (total n : Nat) : Nat :=
  (total - 1) / n + 1

/-- A list of values as it is shown in messages. -/
def listText (items : List String) : String :=
  "[" ++ ", ".intercalate items ++ "]"

namespace Directory

/-- How numbers are written; all samples have to agree. -/
def sampleFormat (d : Directory) : Except Flaw Nat := do
  match ← d.valuesBelow? 65536 .sampleFormat with
  | some (n :: ns) =>
    if ns.all (· = n) then return n
    else throw (.unsupported ("sample format " ++ listText ((n :: ns).map formatName) ++
      " is unsupported"))
  | some [] => throw .inconsistentSizes
  | none => return 1

/-- The number of bits of a sample; all samples have to agree. -/
def sampleBits (d : Directory) (samples : Nat) : Except Flaw Nat := do
  let bits := (← d.valuesBelow? 256 .bitsPerSample).getD [1]
  if bits.length ≠ samples ∧ bits.length ≠ 1 then throw .inconsistentSizes
  let first := bits.headD 0
  if first = 0 ∨ !bits.all (· = first) then
    throw (.unsupported ("inconsistent bits per sample: " ++ listText (bits.map toString)))
  return first

/-- What the samples beyond the colour mean; there are no more of them than samples. -/
def extraSamples (d : Directory) (samples : Nat) : Except Flaw (List Nat) := do
  let extra := (← d.valuesBelow? 65536 .extraSamples).getD []
  if samples < extra.length then throw .inconsistentSizes
  return extra

/-- The steps of colour differences, across and down, have to be two if they are given. -/
def checkSubsampling (d : Directory) : Except Flaw Unit := do
  match ← d.valuesBelow? 65536 .chromaSubsampling with
  | some ns => if ns.length ≠ 2 then throw (.badCount .chromaSubsampling ns.length)
  | none => return

/-- The values of a tag that is known to be there. -/
def offsets (d : Directory) (tag : Tag) : Except Flaw (List Nat) :=
  return (← d.values? tag).getD []

/-- The strips of an image. -/
def strips (d : Directory) (width height planes : Nat) : Except Flaw Chunks := do
  let offsets ← d.offsets .stripOffsets
  let sizes ← d.offsets .stripByteCounts
  let rows := (← d.long? .rowsPerStrip).getD height
  if offsets.length ≠ sizes.length ∨ rows = 0 ∨
      offsets.length ≠ pieceCount height rows * planes then
    throw .inconsistentSizes
  return ⟨width, rows, offsets, sizes, false⟩

/-- The tiles of an image. -/
def tiles (d : Directory) (width height planes : Nat) : Except Flaw Chunks := do
  let tileWidth ← d.long .tileWidth
  let tileHeight ← d.long .tileHeight
  if tileWidth = 0 then throw (.badValue .tileWidth)
  if tileHeight = 0 then throw (.badValue .tileHeight)
  let offsets ← d.offsets .tileOffsets
  let sizes ← d.offsets .tileByteCounts
  if offsets.length ≠ sizes.length ∨
      offsets.length ≠ pieceCount width tileWidth * pieceCount height tileHeight * planes then
    throw .inconsistentSizes
  return ⟨tileWidth, tileHeight, offsets, sizes, true⟩

/-- The pieces of an image: strips or tiles, not both. -/
def chunks (d : Directory) (width height planes : Nat) : Except Flaw Chunks :=
  match d.has .stripByteCounts, d.has .stripOffsets, d.has .tileByteCounts, d.has .tileOffsets with
  | true, true, false, false => d.strips width height planes
  | false, false, true, true => d.tiles width height planes
  | _, _, _, _ => .error .conflictingChunks

/-- The value of a tag that stands for one of several choices. -/
def choice {α : Type} (d : Directory) (tag : Tag) (default : α) (ofCode? : Nat → Option α)
    (unknown : Nat → Flaw) : Except Flaw α := do
  match ← d.word? tag with
  | none => return default
  | some n =>
    match ofCode? n with
    | some a => return a
    | none => throw (unknown n)

/-- The tables that JPEG images share, if there are any. They have a marker at each end. -/
def jpegTables (d : Directory) : Except Flaw (Option Bytes) := do
  match ← d.valuesBelow? 256 .jpegTables with
  | some ns => if ns.length < 2 then throw (.badValue .jpegTables) else return ns.map UInt8.ofNat
  | none => return none

/-- The way in which data is packed. -/
def packing (d : Directory) : Except Flaw Packing := do
  match ← d.word? .compression with
  | some 7 => return .jpeg (← d.jpegTables)
  | some n => return .ofCode n
  | none => return .plain

/-- The description of the image. -/
def describe (d : Directory) : Except Flaw Description := do
  let width ← d.long .width
  let height ← d.long .height
  if width = 0 ∨ height = 0 then throw (.badDimensions width height)
  let photometric ←
    match (← d.word? .photometric).bind Photometric.ofCode? with
    | some p => pure p
    | none => throw (.unsupported "unknown photometric interpretation")
  let packing ← d.packing
  let samples := (← d.word? .samplesPerPixel).getD 1
  if samples = 0 then throw .noSamples
  let format ← d.sampleFormat
  let bits ← d.sampleBits samples
  let predictor ← d.choice .predictor .none Predictor.ofCode? .unknownPredictor
  let separate ← d.choice .planarConfiguration false
    (fun n => if n = 1 then some false else if n = 2 then some true else none) .unknownPlanes
  let extraSamples ← d.extraSamples samples
  d.checkSubsampling
  let chunks ← d.chunks width height (if separate then samples else 1)
  return ⟨width, height, photometric, packing, samples, format, bits, predictor, separate,
    extraSamples, chunks⟩

end Directory

/-! ## Colour -/

/-- The colour of a pixel, as it is shown in messages. -/
inductive Colour where
  | gray
  | rgb
  | rgba
  | cmyk
  | cmykAlpha
  | ycbcr
  | bands (count : Nat)
deriving DecidableEq

/-- The number of samples that make up a colour. -/
def Colour.channels : Colour → Nat
  | gray => 1
  | rgb => 3
  | rgba => 4
  | cmyk => 4
  | cmykAlpha => 5
  | ycbcr => 3
  | bands n => n

/-- A colour with samples of so many bits, as it is shown in messages. -/
def Colour.text (c : Colour) (bits : Nat) : String :=
  let simple := fun name => name ++ "(" ++ toString bits ++ ")"
  match c with
  | gray => simple "Gray"
  | rgb => simple "RGB"
  | rgba => simple "RGBA"
  | cmyk => simple "CMYK"
  | cmykAlpha => simple "CMYKA"
  | ycbcr => simple "YCbCr"
  | bands n =>
    "Multiband \x7b bit_depth: " ++ toString bits ++ ", num_samples: " ++ toString n ++ " \x7d"

namespace Description

/-- Whether the first of the further samples is alpha. -/
def hasAlpha (d : Description) : Bool :=
  d.extraSamples.head? = some 1 || d.extraSamples.head? = some 2

/-- The colour of the samples. Samples beyond it count only if they are alpha, except that a
fourth or fifth one without further meaning is alpha, and that shades of gray keep all. -/
def colour (d : Description) : Except Flaw Colour :=
  let refused := Flaw.unsupported ("Photometric interpretation " ++ d.photometric.text ++
    " with bits per sample " ++ listText (List.replicate d.samples (toString d.bits)) ++
    " is unsupported")
  match d.photometric, d.samples - d.extraSamples.length with
  | .rgb, 3 => .ok (if d.hasAlpha then .rgba else .rgb)
  | .rgb, 4 => .ok .rgba
  | .cmyk, 4 => .ok (if d.hasAlpha then .cmykAlpha else .cmyk)
  | .cmyk, 5 => .ok .cmykAlpha
  | .ycbcr, 3 => .ok .ycbcr
  | .blackIsZero, _ => .ok (if d.samples = 1 then .gray else .bands d.samples)
  | .whiteIsZero, _ => .ok (if d.samples = 1 then .gray else .bands d.samples)
  | _, _ => .error refused

/-- Whether pictures can hold samples that are written in the given way. -/
def checkFormat (d : Description) (colour : Colour) (format : Nat) : Except Flaw Unit :=
  match colour with
  | .ycbcr =>
    .error (.unsupported ("Unhandled TIFF color type " ++ colour.text d.bits ++ " for " ++
      toString d.bits ++ " bits"))
  | .bands _ => .error (.unsupported ("Unhandled TIFF color type " ++ colour.text d.bits))
  | .cmykAlpha => .error (.unsupported ("Unhandled TIFF color type " ++ colour.text d.bits))
  | _ =>
    if (format = 1 ∧ d.bits ≤ 16) ∨ (format = 3 ∧ d.bits = 32) then .ok ()
    else
      .error (.unsupported ("Unhandled TIFF sample format " ++ toString format ++ " for " ++
        toString d.bits ++ " bits"))

end Description

end ScanBinder.Tiff
