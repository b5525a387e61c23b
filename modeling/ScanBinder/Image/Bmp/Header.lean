import ScanBinder.Bytes
import ScanBinder.Image.Fault

/-!
# Headers of bitmap files

A bitmap file starts with the place of its pixels and one of six headers, told apart by
their sizes. The header is read field by field, and each field is judged when it is read.
-/

namespace ScanBinder.Bmp

/-- The ways to store pixels that put a limit on the number of bits. -/
inductive Storage where
  | rgb
  | rle8
  | rle4
  | bitfields
deriving DecidableEq

def Storage.text : Storage → String
  | rgb => "RGB"
  | rle8 => "RLE8"
  | rle4 => "RLE4"
  | bitfields => "bitfields"

/-- What can be wrong with a bitmap file. -/
inductive Flaw where
  | ended
  | badSignature
  | headerTooSmall (size : Nat)
  | unknownHeader (size : Nat)
  | negativeWidth (width : Int)
  | tooLarge (width height : Int)
  | badHeight
  | badDimensions (width height : Int)
  | manyPlanes
  | badTopDown (compression : Nat)
  | badBitCount (storage : Storage) (bits : Nat)
  | unknownCompression (compression : Nat)
  | unsupportedCompression (name : String)
  | brokenMask
  | badMask
  | missingMask (bits : Nat)
  | paletteTooLarge (colours bits : Nat)
  | corruptRuns
  | cutRun
  | overLimit
deriving DecidableEq

namespace Flaw

def kind : Flaw → FaultKind
  | ended => .io
  | cutRun => .io
  | unknownHeader _ => .unsupported
  | badDimensions _ _ => .unsupported
  | unsupportedCompression _ => .unsupported
  | overLimit => .limits
  | _ => .decoding

def text : Flaw → String
  | ended => "failed to fill whole buffer"
  | badSignature => "BMP signature not found"
  | headerTooSmall n => "Bitmap header too small (" ++ toString n ++ " bytes)"
  | unknownHeader n => "Unknown bitmap header type (size=" ++ toString n ++ ")"
  | negativeWidth w => "Negative width (" ++ toString w ++ ")"
  | tooLarge w h =>
    "Image too large (one of (" ++ toString w ++ ", " ++ toString h ++ ") > soft limit of 65535)"
  | badHeight => "Invalid height"
  | badDimensions w h =>
    "Image dimensions (" ++ toString w ++ "x" ++ toString h ++ " w/3 channels) are too large"
  | manyPlanes => "More than one plane"
  | badTopDown n => "Invalid image type " ++ toString n ++ " for top-down image."
  | badBitCount s n => "Invalid channel bit count for " ++ s.text ++ ": " ++ toString n
  | unknownCompression n => "Unknown image compression type " ++ toString n
  | unsupportedCompression name => name
  | brokenMask => "Non-contiguous bitfield mask"
  | badMask => "Invalid bitfield mask"
  | missingMask n => "Missing " ++ toString n ++ "-bit bitfield mask"
  | paletteTooLarge colours bits =>
    "Palette size " ++ toString colours ++ " exceeds maximum size for BMP with bit count of " ++
      toString bits
  | corruptRuns => "Corrupt RLE data"
  | cutRun => "unexpected end of file"
  | overLimit => "Memory limit exceeded"

end Flaw

/-- The bits of a pixel that make up a channel: `length` bits from bit `shift` on. -/
structure Channel where
  shift : Nat
  length : Nat
deriving DecidableEq

namespace Channel

/-- How many zero bits a number ends with, looking at no more than `n`. -/
def trailingZeros : (n v : Nat) → Nat
  | 0, _ => 0
  | n + 1, v => if v % 2 = 0 then trailingZeros n (v / 2) + 1 else 0

/-- How many one bits a number ends with, looking at no more than `n`. -/
def trailingOnes : (n v : Nat) → Nat
  | 0, _ => 0
  | n + 1, v => if v % 2 = 1 then trailingOnes n (v / 2) + 1 else 0

/-- The channel that a mask selects in pixels of `bits` bits. Of more than eight bits, the
eight most significant count. -/
def ofMask (mask bits : Nat) : Except Flaw Channel :=
  if mask = 0 then .ok ⟨0, 0⟩
  else
    let shift := trailingZeros 32 mask
    let length := trailingOnes 32 (mask / Nat.pow 2 shift)
    if mask / Nat.pow 2 (shift + length) ≠ 0 then .error .brokenMask
    else if bits < shift + length then .error .badMask
    else if 8 < length then .ok ⟨shift + (length - 8), 8⟩
    else .ok ⟨shift, length⟩

/-- The value of the channel in a pixel, spread to eight bits and rounded. -/
def read (c : Channel) (pixel : Nat) : UInt8 :=
  let top := Nat.pow 2 c.length - 1
  UInt8.ofNat ((2 * (pixel / Nat.pow 2 c.shift % Nat.pow 2 c.length) * 255 + top) / (2 * top))

end Channel

/-- The channels of a pixel; alpha may be absent. -/
structure Channels where
  r : Channel
  g : Channel
  b : Channel
  a : Option Channel
deriving DecidableEq

/-- How the pixels are stored. -/
inductive Form where
  /-- Indices of the given number of bits into a palette. -/
  | palette (bits : Nat)
  | rle8
  | rle4
  /-- Pixels of the given number of bytes, cut into channels. -/
  | packed (bytes : Nat) (channels : Channels)
deriving DecidableEq

/-- Everything before the pixels. -/
structure Header where
  width : Nat
  height : Nat
  topDown : Bool
  form : Form
  palette : Bytes
  paletteStep : Nat
  dataOffset : Nat
deriving DecidableEq

/-- Reads fields one after another. -/
abbrev Reader := StateT Bytes (Except Flaw)

/-- The next `n` bytes. -/
def bytes (n : Nat) : Reader Bytes := fun bs =>
  match Bytes.split? n bs with
  | some r => .ok r
  | none => .error .ended

/-- An unsigned number of `n` bytes. -/
def unsigned (n : Nat) : Reader Nat :=
  return Bytes.littleEndian (← bytes n)

/-- A signed number of four bytes. -/
def signed : Reader Int := do
  let n ← unsigned 4
  return if n < 2147483648 then n else (n : Int) - 4294967296

/-- The largest width and height. -/
def sizeLimit : Int := 65535

/-- The five-bit channels of sixteen-bit pixels without masks. -/
def channels555 : Channels :=
  ⟨⟨10, 5⟩, ⟨5, 5⟩, ⟨0, 5⟩, none⟩

/-- The byte channels of larger pixels without masks. -/
def channels888 : Channels :=
  ⟨⟨16, 8⟩, ⟨8, 8⟩, ⟨0, 8⟩, none⟩

/-- The channels that masks select. -/
def readMasks (bits : Nat) (hasAlpha : Bool) : Reader Channels := do
  let r ← unsigned 4
  let g ← unsigned 4
  let b ← unsigned 4
  let a ← if hasAlpha then unsigned 4 else pure 0
  let r ← Channel.ofMask r bits
  let g ← Channel.ofMask g bits
  let b ← Channel.ofMask b bits
  let alpha ← Channel.ofMask a bits
  if r.length = 0 ∨ g.length = 0 ∨ b.length = 0 then throw (.missingMask bits)
  return ⟨r, g, b, if a = 0 then none else some alpha⟩

/-- How pixels are stored, before masks and palette are known. -/
inductive Plan where
  | ready (form : Form)
  | masked (bytes : Nat)

/-- The plan for a compression number and a number of bits. -/
def planOf (compression bits : Nat) : Except Flaw Plan :=
  match compression with
  | 0 =>
    if bits = 1 ∨ bits = 2 ∨ bits = 4 ∨ bits = 8 then .ok (.ready (.palette bits))
    else if bits = 16 then .ok (.ready (.packed 2 channels555))
    else if bits = 24 then .ok (.ready (.packed 3 channels888))
    else if bits = 32 then .ok (.ready (.packed 4 channels888))
    else .error (.badBitCount .rgb bits)
  | 1 => if bits = 8 then .ok (.ready .rle8) else .error (.badBitCount .rle8 bits)
  | 2 => if bits = 4 then .ok (.ready .rle4) else .error (.badBitCount .rle4 bits)
  | 3 =>
    if bits = 16 then .ok (.masked 2)
    else if bits = 32 then .ok (.masked 4)
    else .error (.badBitCount .bitfields bits)
  | 4 => .error (.unsupportedCompression "JPEG compression")
  | 5 => .error (.unsupportedCompression "PNG compression")
  | 11 => .error (.unsupportedCompression "CMYK format")
  | 12 => .error (.unsupportedCompression "CMYK format")
  | 13 => .error (.unsupportedCompression "CMYK format")
  | n => .error (.unknownCompression n)

/-- The fields of a header that the palette and the pixels depend on. -/
structure Fields where
  width : Nat
  height : Nat
  topDown : Bool
  bits : Nat
  form : Form
  coloursUsed : Nat
  /-- Masks that follow the header. -/
  masksAfter : Nat
  paletteStep : Nat

/-- The oldest header, with sizes of two bytes. -/
def readCore : Reader Fields := do
  let width ← unsigned 2
  let height ← unsigned 2
  if width = 0 ∨ height = 0 then throw (.badDimensions width height)
  if (← unsigned 2) ≠ 1 then throw .manyPlanes
  let bits ← unsigned 2
  let form ←
    if bits = 1 ∨ bits = 4 ∨ bits = 8 then pure (Form.palette bits)
    else if bits = 24 then pure (Form.packed 3 channels888)
    else throw (.badBitCount .rgb bits)
  return ⟨width, height, false, bits, form, 0, 0, 3⟩

/-- All later headers, which have the given size. -/
def readInfo (size : Nat) : Reader Fields := do
  let width ← signed
  let height ← signed
  if width < 0 then throw (.negativeWidth width)
  if sizeLimit < width ∨ sizeLimit < height then throw (.tooLarge width height)
  if height = -2147483648 then throw .badHeight
  if width = 0 ∨ height = 0 then throw (.badDimensions width height.natAbs)
  if (← unsigned 2) ≠ 1 then throw .manyPlanes
  let bits ← unsigned 2
  let compression ← unsigned 4
  if height < 0 ∧ compression ≠ 0 ∧ compression ≠ 3 then throw (.badTopDown compression)
  let plan ← planOf compression bits
  let _ ← bytes 12
  let coloursUsed ← unsigned 4
  let _ ← bytes 4
  let (form, masksAfter) ← match plan with
    | .ready form => pure (form, 0)
    | .masked n => do
      let channels ← readMasks bits (56 ≤ size)
      pure (Form.packed n channels, if size = 40 then 12 else 0)
  return ⟨width.natAbs, height.natAbs, height < 0, bits, form, coloursUsed, masksAfter, 4⟩

/-- The header of the given size. -/
def readFields (size : Nat) : Reader Fields :=
  if size = 12 then readCore
  else if size = 40 ∨ size = 52 ∨ size = 56 ∨ size = 108 ∨ size = 124 then readInfo size
  else if size < 12 then throw (.headerTooSmall size)
  else throw (.unknownHeader size)

/-- The number of colours in the palette. -/
def paletteSize (f : Fields) : Except Flaw Nat :=
  if f.coloursUsed = 0 then .ok (Nat.pow 2 f.bits)
  else if Nat.pow 2 f.bits < f.coloursUsed then .error (.paletteTooLarge f.coloursUsed f.bits)
  else .ok f.coloursUsed

/-- Whether pixels are indices. -/
def Form.hasPalette : Form → Bool
  | packed _ _ => false
  | _ => true

/-- The number of bytes before the header proper. -/
def fileHeaderSize : Nat := 14

/-- Reads everything before the pixels. -/
def Header.read (file : Bytes) : Except Flaw Header := do
  let (start, bs) ← (do
    let signature ← bytes 2
    if signature ≠ [0x42, 0x4D] then throw .badSignature
    let _ ← bytes 8
    let dataOffset ← unsigned 4
    let size ← unsigned 4
    return (dataOffset, size) : Reader (Nat × Nat)) file
  let (dataOffset, size) := start
  let (f, _) ← readFields size bs
  let palette ←
    if f.form.hasPalette then do
      let n ← paletteSize f
      let (p, _) ← bytes (n * f.paletteStep) (file.drop (fileHeaderSize + size + f.masksAfter))
      pure p
    else pure []
  return ⟨f.width, f.height, f.topDown, f.form, palette, f.paletteStep, dataOffset⟩

end ScanBinder.Bmp
