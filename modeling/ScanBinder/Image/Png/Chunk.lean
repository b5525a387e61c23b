import ScanBinder.Codec.Crc
import ScanBinder.Codec.Inflate
import ScanBinder.Image.Fault
import ScanBinder.Text.Escape
import ScanBinder.Text.Utf8

/-!
# Chunks of a PNG file

A PNG file is a signature and a sequence of chunks. A chunk has a length, a type of four
bytes, its data and a check value over type and data. The case of the letters of a type
says, among other things, whether a reader may do without the chunk.
-/

namespace ScanBinder.Png

/-- The four bytes that name the kind of a chunk. -/
structure ChunkType where
  a : UInt8
  b : UInt8
  c : UInt8
  d : UInt8
deriving DecidableEq

namespace ChunkType

def header : ChunkType := ⟨0x49, 0x48, 0x44, 0x52⟩
def palette : ChunkType := ⟨0x50, 0x4C, 0x54, 0x45⟩
def transparency : ChunkType := ⟨0x74, 0x52, 0x4E, 0x53⟩
def imageData : ChunkType := ⟨0x49, 0x44, 0x41, 0x54⟩
def imageEnd : ChunkType := ⟨0x49, 0x45, 0x4E, 0x44⟩
def significantBits : ChunkType := ⟨0x73, 0x42, 0x49, 0x54⟩
def pixelSize : ChunkType := ⟨0x70, 0x48, 0x59, 0x73⟩
def gamma : ChunkType := ⟨0x67, 0x41, 0x4D, 0x41⟩
def animation : ChunkType := ⟨0x61, 0x63, 0x54, 0x4C⟩
def frameControl : ChunkType := ⟨0x66, 0x63, 0x54, 0x4C⟩
def frameData : ChunkType := ⟨0x66, 0x64, 0x41, 0x54⟩
def chromaticities : ChunkType := ⟨0x63, 0x48, 0x52, 0x4D⟩
def standardColours : ChunkType := ⟨0x73, 0x52, 0x47, 0x42⟩
def codePoints : ChunkType := ⟨0x63, 0x49, 0x43, 0x50⟩
def masteringDisplay : ChunkType := ⟨0x6D, 0x44, 0x43, 0x56⟩
def lightLevels : ChunkType := ⟨0x63, 0x4C, 0x4C, 0x49⟩
def background : ChunkType := ⟨0x62, 0x4B, 0x47, 0x44⟩

def bytes (t : ChunkType) : Bytes :=
  [t.a, t.b, t.c, t.d]

/-- Whether a letter is small. -/
def isSmall (x : UInt8) : Bool :=
  x &&& 0x20 ≠ 0

/-- Whether no reader may do without the chunk. -/
def isCritical (t : ChunkType) : Bool :=
  !isSmall t.a

/-- The least and the greatest length of a chunk. -/
def lengthRanges : List (ChunkType × Nat × Nat) :=
  [(header, 13, 13), (palette, 3, 768), (imageEnd, 0, 0), (transparency, 1, 256),
    (significantBits, 1, 4), (pixelSize, 9, 9), (gamma, 4, 4), (animation, 8, 8),
    (frameControl, 26, 26), (chromaticities, 32, 32), (standardColours, 1, 1), (codePoints, 4, 4),
    (masteringDisplay, 24, 24), (lightLevels, 8, 8), (background, 1, 6)]

/-- Whether a chunk may have so many bytes. -/
def allowsLength (t : ChunkType) (n : Nat) : Bool :=
  match lengthRanges.lookup t with
  | some (least, greatest) => least ≤ n && n ≤ greatest
  | none => true

/-- Whether the chunk is needed to read the file, and of no known kind. -/
def isForeign (t : ChunkType) : Bool :=
  t.isCritical && (lengthRanges.lookup t).isNone

def text (t : ChunkType) : String :=
  let name := String.join (t.bytes.map fun x => escapeSign (Char.ofNat x.toNat))
  "ChunkType \x7b type: " ++ name ++ ", critical: " ++ toString t.isCritical ++ ", private: " ++
    toString (isSmall t.b) ++ ", reserved: " ++ toString (isSmall t.c) ++ ", safecopy: " ++
    toString (isSmall t.d) ++ " \x7d"

end ChunkType

/-- How a pixel is made up. -/
inductive ColourType where
  | gray
  | rgb
  | indexed
  | grayAlpha
  | rgba
deriving DecidableEq

/-- The number of bits of a sample. -/
inductive BitDepth where
  | one
  | two
  | four
  | eight
  | sixteen
deriving DecidableEq

def ColourType.text : ColourType → String
  | gray => "Grayscale"
  | rgb => "Rgb"
  | indexed => "Indexed"
  | grayAlpha => "GrayscaleAlpha"
  | rgba => "Rgba"

def BitDepth.text : BitDepth → String
  | one => "One"
  | two => "Two"
  | four => "Four"
  | eight => "Eight"
  | sixteen => "Sixteen"

/-- What can be wrong with a PNG file. -/
inductive Flaw where
  | ended
  | badSignature
  | chunkBeforeHeader (type : ChunkType)
  | repeatedChunk (type : ChunkType)
  | unknownCritical (type : ChunkType)
  | badLength (type : ChunkType)
  | invalidData
  | badSequence (expected found : Nat)
  | badDispose (n : UInt8)
  | badBlend (n : UInt8)
  | badFrame
  | unexpectedData (type : ChunkType)
  | badCheck (type : ChunkType) (stored computed : UInt32)
  | badDimensions
  | badBitDepth (n : UInt8)
  | badColourType (n : UInt8)
  | badCombination (colour : ColourType) (depth : BitDepth)
  | badCompression (n : UInt8)
  | badFilter (n : UInt8)
  | badInterlace (n : UInt8)
  | noPalette
  | noImageData
  | tooLittleData
  | compressed (f : InflateFault)
  | overLimit
deriving DecidableEq

namespace Flaw

def kind : Flaw → FaultKind
  | ended => .io
  | invalidData => .io
  | overLimit => .limits
  | _ => .decoding

def text : Flaw → String
  | ended => "unexpected end of file"
  | badSignature => "Invalid PNG signature."
  | chunkBeforeHeader t => t.text ++ " chunk appeared before IHDR chunk"
  | repeatedChunk t => "Chunk " ++ t.text ++ " must appear at most once."
  | unknownCritical t => "Unrecognized critical chunk: " ++ t.text
  | badLength t => "Chunk length wrong: " ++ t.text
  | invalidData => "invalid data"
  | badSequence expected found =>
    "Sequence is not in order, expected #" ++ toString expected ++ " got #" ++ toString found ++ "."
  | badDispose n => "Invalid dispose op " ++ toString n ++ "."
  | badBlend n => "Invalid blend op " ++ toString n ++ "."
  | badFrame => "Sub frame is out-of-bounds."
  | unexpectedData t => "Unexpected restart of " ++ t.text ++ " chunk sequence"
  | badCheck t stored computed =>
    "CRC error: expected 0x" ++ hexText stored.toNat ++ " have 0x" ++ hexText computed.toNat ++
      " while decoding " ++ t.text ++ " chunk."
  | badDimensions => "Invalid image dimensions"
  | badBitDepth n => "Invalid bit depth " ++ toString n ++ "."
  | badColourType n => "Invalid color type " ++ toString n ++ "."
  | badCombination c d => "Invalid color/depth combination in header: " ++ c.text ++ "/" ++ d.text
  | badCompression n => "Unknown compression method " ++ toString n ++ "."
  | badFilter n => "Unknown filter method " ++ toString n ++ "."
  | badInterlace n => "Unknown interlace method " ++ toString n ++ "."
  | noPalette => "Missing palette of indexed image."
  | noImageData => "IDAT or fdAT chunk is missing."
  | tooLittleData => "IDAT or fDAT chunk does not have enough data for image."
  | compressed f => "Corrupt deflate stream. " ++ f.text
  | overLimit => "Memory limit exceeded"

end Flaw

/-- The bytes after the signature. It is checked in two halves, each of which has to be
there in full before it is looked at. -/
def afterSignature : Bytes → Except Flaw Bytes
  | a :: b :: c :: d :: rest =>
    if [a, b, c, d] ≠ [0x89, 0x50, 0x4E, 0x47] then .error .badSignature
    else match rest with
      | e :: f :: g :: h :: rest =>
        if [e, f, g, h] ≠ [0x0D, 0x0A, 0x1A, 0x0A] then .error .badSignature else .ok rest
      | _ => .error .ended
  | _ => .error .ended

/-- The length and type that begin a chunk, and the bytes after them. -/
def chunkStart : Bytes → Except Flaw (Nat × ChunkType × Bytes)
  | l₀ :: l₁ :: l₂ :: l₃ :: a :: b :: c :: d :: rest =>
    .ok (Bytes.bigEndian [l₀, l₁, l₂, l₃], ⟨a, b, c, d⟩, rest)
  | _ => .error .ended

/-- The data of a chunk whose start has been read, whether its check value is wrong, and
the bytes after it. -/
def chunkBody (length : Nat) (type : ChunkType) (bs : Bytes) :
    Except Flaw (Bytes × Option Flaw × Bytes) :=
  match Bytes.split? length bs with
  | none => .error .ended
  | some (data, rest) =>
    match Bytes.split? 4 rest with
    | none => .error .ended
    | some (check, rest) =>
      let stored := UInt32.ofNat (Bytes.bigEndian check)
      let computed := crc32 (type.bytes ++ data)
      .ok (data, if stored = computed then none else some (.badCheck type stored computed), rest)

end ScanBinder.Png
