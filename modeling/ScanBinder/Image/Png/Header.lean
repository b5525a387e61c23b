import ScanBinder.Image.Png.Chunk

/-!
# The header of a PNG file

The first chunk gives size, colour type, bit depth and whether the rows are interlaced.
The chunks from there to the image data may bring a palette and transparent colours.
-/

namespace ScanBinder.Png

structure Header where
  width : Nat
  height : Nat
  colour : ColourType
  depth : BitDepth
  interlaced : Bool
deriving DecidableEq

namespace BitDepth

def ofByte? (n : UInt8) : Option BitDepth :=
  if n = 1 then some one
  else if n = 2 then some two
  else if n = 4 then some four
  else if n = 8 then some eight
  else if n = 16 then some sixteen
  else none

def bits : BitDepth → Nat
  | one => 1
  | two => 2
  | four => 4
  | eight => 8
  | sixteen => 16

end BitDepth

namespace ColourType

def ofByte? (n : UInt8) : Option ColourType :=
  if n = 0 then some gray
  else if n = 2 then some rgb
  else if n = 3 then some indexed
  else if n = 4 then some grayAlpha
  else if n = 6 then some rgba
  else none

def channels : ColourType → Nat
  | gray => 1
  | rgb => 3
  | indexed => 1
  | grayAlpha => 2
  | rgba => 4

/-- Samples of less than eight bits are for gray and palettes, and palettes have at most
256 entries. -/
def allows (c : ColourType) (d : BitDepth) : Bool :=
  match c with
  | gray => true
  | indexed => d ≠ .sixteen
  | _ => d = .eight || d = .sixteen

end ColourType

/-- The header in the data of the first chunk. -/
def Header.ofData : Bytes → Except Flaw Header
  | w₀ :: w₁ :: w₂ :: w₃ :: h₀ :: h₁ :: h₂ :: h₃ :: depth :: colour :: compression :: filter ::
      interlace :: _ =>
    let width := Bytes.bigEndian [w₀, w₁, w₂, w₃]
    let height := Bytes.bigEndian [h₀, h₁, h₂, h₃]
    if width = 0 ∨ height = 0 then .error .badDimensions
    else match BitDepth.ofByte? depth with
      | none => .error (.badBitDepth depth)
      | some d =>
        match ColourType.ofByte? colour with
        | none => .error (.badColourType colour)
        | some c =>
          if !c.allows d then .error (.badCombination c d)
          else if compression ≠ 0 then .error (.badCompression compression)
          else if filter ≠ 0 then .error (.badFilter filter)
          else if 1 < interlace then .error (.badInterlace interlace)
          else .ok ⟨width, height, c, d, interlace = 1⟩
  | _ => .error (.badLength .header)

/-- The header of a file, and the bytes after its chunk. -/
def Header.read (bs : Bytes) : Except Flaw (Header × Bytes) := do
  let bs ← afterSignature bs
  let (length, type, bs) ← chunkStart bs
  if type ≠ .header then throw (.chunkBeforeHeader type)
  if !type.allowsLength length then throw (.badLength type)
  let (data, flaw, bs) ← chunkBody length type bs
  match flaw with
  | some f => throw f
  | none => return (← Header.ofData data, bs)

/-- What the chunks between the header and the image data say. -/
structure Extras where
  palette : Option Bytes
  transparency : Option Bytes
  /-- Whether the colours have been described by code points. -/
  hasCodePoints : Bool
  /-- Whether there is a background colour. -/
  hasBackground : Bool
  /-- The number of the last frame of an animation. -/
  sequence : Option Nat
deriving DecidableEq

/-- What is known before any chunk. -/
def Extras.start : Extras :=
  ⟨none, none, false, false, none⟩

/-- Whether the data of a transparency chunk suits the colour type. -/
def suits (colour : ColourType) (palette : Option Bytes) (data : Bytes) : Bool :=
  match colour with
  | .gray => 2 ≤ data.length
  | .rgb => 6 ≤ data.length
  | .indexed => palette.isSome
  | _ => false

/-- The first frame of an animation, if there is one here, is the image itself. It has a
place in the sequence, its size and offset, its delay, and how it is taken away and laid
on. -/
def Header.checkFrame (h : Header) (sequence : Option Nat) (data : Bytes) : Except Flaw Nat :=
  let number (start : Nat) := Bytes.bigEndian ((data.drop start).take 4)
  let expected := match sequence with
    | some n => n + 1
    | none => 0
  let dispose := data[24]?.getD 0
  let blend := data[25]?.getD 0
  if number 0 ≠ expected then .error (.badSequence expected (number 0))
  else if 2 < dispose then .error (.badDispose dispose)
  else if 1 < blend then .error (.badBlend blend)
  else if number 4 = 0 ∨ number 8 = 0 then .error .badDimensions
  else if number 4 ≠ h.width ∨ number 8 ≠ h.height ∨ number 12 ≠ 0 ∨ number 16 ≠ 0 then
    .error .badFrame
  else .ok expected

/-- Code points have no matrix, and a range that is full or not. -/
def codePointsAreValid (data : Bytes) : Bool :=
  data[2]? = some 0 && (data[3]? = some 0 || data[3]? = some 1)

/-- Whether a background colour is one of the palette, or has two bytes for each channel of
colour. -/
def backgroundIsValid (colour : ColourType) (palette : Option Bytes) (data : Bytes) : Bool :=
  match colour with
  | .indexed => palette.isSome && data.length = 1
  | .gray => data.length = 2
  | .grayAlpha => data.length = 2
  | .rgb => data.length = 6
  | .rgba => data.length = 6

/-- What a sound chunk adds. -/
def Extras.add (extras : Extras) (h : Header) (type : ChunkType) (data : Bytes) :
    Except Flaw Extras :=
  if type = .imageEnd then .error .noImageData
  else if type = .header then .error (.repeatedChunk type)
  else if type = .palette then
    if extras.palette.isSome then .error (.repeatedChunk type)
    else .ok { extras with palette := some data }
  else if type = .transparency then
    if extras.transparency.isNone && suits h.colour extras.palette data then
      .ok { extras with transparency := some data }
    else .ok extras
  else if type = .frameControl then
    (h.checkFrame extras.sequence data).map fun n => { extras with sequence := some n }
  else if type = .codePoints && extras.palette.isNone && !extras.hasCodePoints then
    if codePointsAreValid data then .ok { extras with hasCodePoints := true }
    else .error .invalidData
  else if type = .background && !extras.hasBackground then
    if backgroundIsValid h.colour extras.palette data then
      .ok { extras with hasBackground := true }
    else .error .invalidData
  else .ok extras

/-- Reads chunks up to the first image data. A chunk that a reader may do without is left
out if it is damaged or has a length that does not suit it. Gives the length of the first
image data and the bytes from its first one on. -/
def Extras.read (h : Header) :
    (fuel : Nat) → Extras → Bytes → Except Flaw (Extras × Nat × Bytes)
  | 0, _, _ => .error .ended
  | fuel + 1, extras, bs => do
    let (length, type, bs) ← chunkStart bs
    if type = .imageData then return (extras, length, bs)
    if type = .frameData then throw (.unexpectedData type)
    if type.isForeign then throw (.unknownCritical type)
    let fits := type.allowsLength length
    if !fits && (type.isCritical || type = .frameControl) then throw (.badLength type)
    let (data, flaw, bs) ← chunkBody length type bs
    match flaw with
    | some f => if type.isCritical then throw f else Extras.read h fuel extras bs
    | none =>
      if fits then
        let extras ← extras.add h type data
        Extras.read h fuel extras bs
      else Extras.read h fuel extras bs

end ScanBinder.Png
