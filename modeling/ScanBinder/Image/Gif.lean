import ScanBinder.Codec.Lzw
import ScanBinder.Image.Fault
import ScanBinder.Image.Picture

/-!
# GIF files

A GIF file has a logical screen and frames that are laid on it. Only the first frame is
decoded: its pixels are colours of its own palette or of the one all frames share, and the
rest of the screen stays transparent black.
-/

namespace ScanBinder.Gif

/-- What can be wrong with a GIF file. -/
inductive Flaw where
  | ended
  | badHeader
  | unknownBlock
  | unknownExtension
  | badControl
  | noPalette
  | badCodeSize
  | badCode
  | truncated
  | noRoom
  | noFrame
  | overLimit
deriving DecidableEq

namespace Flaw

def kind : Flaw → FaultKind
  | noFrame => .parameter
  | overLimit => .limits
  | _ => .decoding

def text : Flaw → String
  | ended => "Unexpected End of File"
  | badHeader => "malformed GIF header"
  | unknownBlock => "unknown block type encountered"
  | unknownExtension => "unknown extension block encountered"
  | badControl => "control extension has wrong length"
  | noPalette => "no color table available for current frame"
  | badCodeSize => "invalid minimal code size"
  | badCode => "invalid code in LZW stream"
  | truncated => "image truncated"
  | noRoom => "odd-sized buffer"
  | noFrame => "The end of the image has been reached"
  | overLimit => "Memory limit exceeded"

/-- The causes below a flaw of decoding. They say the same once more: codes go through one
layer, the structure of the file through two. -/
def causes (f : Flaw) : List String :=
  match f with
  | ended => []
  | badCode => [f.text]
  | _ => [f.text, f.text]

end Flaw

/-- The first `n` bytes and the rest. -/
def take (n : Nat) (bs : Bytes) : Except Flaw (Bytes × Bytes) :=
  match Bytes.split? n bs with
  | some r => .ok r
  | none => .error .ended

/-- The last of a sequence of sub-blocks, each behind its length. The first one may be empty,
another empty one ends the sequence. Also gives the bytes after them. -/
def lastSubBlock : (fuel : Nat) → (length : Nat) → Bytes → Except Flaw (Bytes × Bytes)
  | 0, _, _ => .error .ended
  | fuel + 1, length, bs => do
    let (block, bs) ← take length bs
    let (next, bs) ← take 1 bs
    match next.headD 0 with
    | 0 => return (block, bs)
    | n => lastSubBlock fuel n.toNat bs

/-- The screen, and the palette that frames share. -/
structure Screen where
  width : Nat
  height : Nat
  palette : Option Bytes

/-- The palette that a byte of flags announces, and the bytes after it. -/
def readPalette (flags : UInt8) (bs : Bytes) : Except Flaw (Option Bytes × Bytes) :=
  if flags &&& 0x80 = 0 then .ok (none, bs)
  else (take (3 * Nat.pow 2 ((flags &&& 7).toNat + 1)) bs).map fun (p, bs) => (some p, bs)

/-- The two versions of the format. -/
def signatures : List Bytes :=
  [[0x47, 0x49, 0x46, 0x38, 0x37, 0x61], [0x47, 0x49, 0x46, 0x38, 0x39, 0x61]]

def Screen.read (bs : Bytes) : Except Flaw (Screen × Bytes) := do
  let (signature, bs) ← take 6 bs
  if !signatures.contains signature then throw .badHeader
  let (descriptor, bs) ← take 7 bs
  let (palette, bs) ← readPalette (descriptor[4]?.getD 0) bs
  return (⟨Bytes.littleEndian (descriptor.take 2), Bytes.littleEndian ((descriptor.drop 2).take 2),
    palette⟩, bs)

/-- A frame before its pixels: place, size, order of rows, palette and transparent index. -/
structure Frame where
  left : Nat
  top : Nat
  width : Nat
  height : Nat
  interlaced : Bool
  palette : Bytes
  transparent : Option UInt8

/-- The transparent index in a control extension. -/
def controlIndex (data : Bytes) : Except Flaw (Option UInt8) :=
  match data with
  | [flags, _, _, i] => .ok (if flags &&& 1 = 1 then some i else none)
  | _ => .error .badControl

/-- The largest size of a single byte's code. -/
def codeSizeLimit : UInt8 := 11

/-- A frame and its data: the size of codes, the length of the first sub-block, and the bytes
from there on. -/
structure FrameStart where
  frame : Frame
  codeSize : Nat
  length : Nat
  data : Bytes

/-- Reads the descriptor of a frame and the start of its data. -/
def FrameStart.read (screen : Screen) (transparent : Option UInt8) (bs : Bytes) :
    Except Flaw FrameStart := do
  let (d, bs) ← take 9 bs
  let flags := d[8]?.getD 0
  let (own, bs) ← readPalette flags bs
  let (start, data) ← take 2 bs
  let codeSize := start[0]?.getD 0
  if codeSizeLimit < codeSize then throw .badCodeSize
  let word := fun i => Bytes.littleEndian ((d.drop i).take 2)
  match own.or screen.palette with
  | none => throw .noPalette
  | some palette =>
    let frame := ⟨word 0, word 2, word 4, word 6, flags &&& 0x40 ≠ 0, palette, transparent⟩
    return ⟨frame, codeSize.toNat, (start[1]?.getD 0).toNat, data⟩

/-- The extensions that exist: text, control, comment and application. -/
def isExtension (label : UInt8) : Bool :=
  label = 0x01 || label = 0xF9 || label = 0xFE || label = 0xFF

/-- Reads blocks up to the mark of the first frame; gives the transparent index and the bytes
after the mark. A block is looked at once there is a byte after its mark; only the end of the
file may come right behind an extension. -/
def firstFrame : (fuel : Nat) → (afterExtension : Bool) → (transparent : Option UInt8) → Bytes →
    Except Flaw (Option (Option UInt8 × Bytes))
  | 0, _, _, _ => .error .ended
  | fuel + 1, afterExtension, transparent, bs =>
    match bs with
    | mark :: b :: bs =>
      if mark = 0x2C then .ok (some (transparent, b :: bs))
      else if mark = 0x3B then .ok none
      else if mark = 0x21 then
        match bs with
        | [] => .error .ended
        | n :: bs =>
          if !isExtension b then .error .unknownExtension
          else do
            let (data, bs) ← lastSubBlock (bs.length + 1) n.toNat bs
            let transparent ← if b = 0xF9 then controlIndex data else pure transparent
            firstFrame fuel true transparent bs
      else .error .unknownBlock
    | [mark] => if mark = 0x3B && afterExtension then .ok none else .error .ended
    | [] => .error .ended

/-- The parts in which the indices of a frame are asked for: an interlaced frame row by row,
another one as a whole. -/
def Frame.portions (f : Frame) : List Nat :=
  if f.interlaced then List.replicate f.height f.width else [f.width * f.height]

/-- Decodes sub-blocks into portions; `left` bytes of the present sub-block are to come. At the
end of the data the decoder is asked once more for what it holds. -/
def readIndices (style : Lzw.Style) : (fuel : Nat) → (portions : List Nat) → (left : Nat) →
    Lzw.Decoder → Array UInt8 → Bytes → Except Flaw (Array UInt8)
  | 0, _, _, _, _, _ => .error .ended
  | _, [], _, _, out, _ => .ok out
  | fuel + 1, 0 :: portions, left, d, out, bs => readIndices style fuel portions left d out bs
  | fuel + 1, room :: portions, left, d, out, bs =>
    match left, bs with
    | _, [] => .error .ended
    | 0, n :: rest =>
      if n ≠ 0 then readIndices style fuel (room :: portions) n.toNat d out rest
      else
        match d.advance style room [] with
        | none => .error .badCode
        | some (d, _, new) =>
          if new.isEmpty then .error .truncated
          else
            readIndices style fuel ((room - new.length) :: portions) 0 d (out ++ new.toArray) bs
    | left, bs =>
      let piece := bs.take left
      match d.advance style room piece with
      | none => .error .badCode
      | some (d, unread, new) =>
        let used := piece.length - unread.length
        let used := if used = 0 ∧ new.isEmpty then piece.length else used
        readIndices style fuel ((room - new.length) :: portions) (left - used) d
          (out ++ new.toArray) (bs.drop used)

/-- The palette indices of a frame in the order of the file. -/
def FrameStart.indices (s : FrameStart) : Except Flaw (Array UInt8) :=
  let portions := s.frame.portions
  let style := Lzw.Style.gif s.codeSize
  if portions.contains 0 then .error .noRoom
  else
    let total := portions.foldl (· + ·) 0
    readIndices style (portions.length + total + 2 * s.data.length + 2) portions s.length
      (.start style) #[] s.data

/-- The rows of an interlaced frame in the order of the file. -/
def interlacedRows (height : Nat) : List Nat :=
  let every := fun start step => (List.range height).filter fun y => y % step = start
  every 0 8 ++ every 4 8 ++ every 2 4 ++ every 1 2

/-- For each row of a frame, its position in the file. -/
def Frame.rowOrder (f : Frame) : Array Nat :=
  if f.interlaced then
    let order := interlacedRows f.height
    ((List.range f.height).map fun y => order.idxOf y).toArray
  else (List.range f.height).toArray

/-- The colour of an index. Beyond the palette it is transparent black. -/
def Frame.colour (f : Frame) (i : UInt8) : Rgba UInt8 :=
  match f.palette.drop (3 * i.toNat) with
  | r :: g :: b :: _ => ⟨r, g, b, if f.transparent = some i then 0 else 255⟩
  | _ => ⟨0, 0, 0, 0⟩

/-- The pixel of the screen in column `x` and row `y`. -/
def Frame.pixelAt (f : Frame) (order : Array Nat) (indices : Array UInt8) (x y : Nat) :
    Rgba UInt8 :=
  if f.left ≤ x ∧ x < f.left + f.width ∧ f.top ≤ y ∧ y < f.top + f.height then
    match indices[order[y - f.top]?.getD 0 * f.width + (x - f.left)]? with
    | some i => f.colour i
    | none => ⟨0, 0, 0, 0⟩
  else ⟨0, 0, 0, 0⟩

/-- The most bytes that the pixels of a screen may take. -/
def memoryLimit : Nat := 512 * 1024 * 1024

/-- The picture in a GIF file. A frame that does not cover the screen takes memory of its
own. -/
def decode (bs : Bytes) : Except Flaw Picture := do
  let (screen, bs) ← Screen.read bs
  let first ← firstFrame (bs.length + 1) false none bs
  let screenBytes := screen.width * screen.height * 4
  if memoryLimit < screenBytes then throw .overLimit
  let start ← match first with
    | some (transparent, bs) => FrameStart.read screen transparent bs
    | none => throw .noFrame
  let frame := start.frame
  let covers := frame.left = 0 ∧ frame.top = 0 ∧ frame.width = screen.width ∧
    frame.height = screen.height
  if ¬covers ∧ memoryLimit < screenBytes + frame.width * frame.height * 4 then throw .overLimit
  let indices ← start.indices
  let order := frame.rowOrder
  let pixels := (List.range screen.height).flatMap fun y =>
    (List.range screen.width).map fun x => frame.pixelAt order indices x y
  match Raster.ofPixels? screen.width screen.height pixels with
  | some raster => return .rgba8 raster
  | none => throw .truncated

end ScanBinder.Gif
