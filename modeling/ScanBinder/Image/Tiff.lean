import ScanBinder.Image.Picture
import ScanBinder.Image.Tiff.Chunk

/-!
# TIFF files

The strips or tiles of an image are put together to rows of samples. Single bits become
black and white, and inks become light.
-/

namespace ScanBinder.Tiff

/-- The layout of pixels of a colour, if pictures have one. -/
def layoutOf? (colour : Colour) (bits : Nat) : Option Layout :=
  match colour, bits with
  | .gray, 1 => some .l8
  | .gray, 8 => some .l8
  | .gray, 16 => some .l16
  | .rgb, 8 => some .rgb8
  | .rgb, 16 => some .rgb16
  | .rgb, 32 => some .rgb32f
  | .cmyk, 8 => some .rgb8
  | .cmyk, 16 => some .rgb16
  | .rgba, 8 => some .rgba8
  | .rgba, 16 => some .rgba16
  | .rgba, 32 => some .rgba32f
  | _, _ => none

/-- The number of bits of a pixel that pictures cannot hold, as far as a byte can tell. -/
def unknownBits (colour : Colour) (bits : Nat) : Nat :=
  match colour with
  | .cmykAlpha => 0
  | _ => min 255 (bits * (colour.channels % 256))

/-- The number of bytes of a pixel of a layout. -/
def pixelBytes (layout : Layout) : Nat :=
  match layout with
  | .l8 => 1
  | .la8 => 2
  | .rgb8 => 3
  | .rgba8 => 4
  | .l16 => 2
  | .la16 => 4
  | .rgb16 => 6
  | .rgba16 => 8
  | .rgb32f => 12
  | .rgba32f => 16

/-- The most bytes that the samples of a picture may take. -/
def memoryLimit : Nat := 512 * 1024 * 1024

namespace Description

/-- The rows of a line of pieces next to each other, the first `pieces` of the list. -/
def lineRows (d : Description) (file : Directory) (limit samples rows : Nat) :
    (column : Nat) → (pieces : List (Nat × Nat)) → (done : List Bytes) → Except Flaw (List Bytes)
  | _, [], done => .ok done
  | column, (offset, size) :: pieces, done => do
    let columns := min d.chunks.width (d.width - column)
    goTo offset
    let new ← d.chunkRows file.order limit samples columns rows size (file.file.drop offset)
    d.lineRows file limit samples rows (column + columns) pieces
      (if done.isEmpty then new else List.zipWith (· ++ ·) done new)

/-- The rows of one plane from row `top` on; `lines` bounds the number of lines of pieces. -/
def planeRows (d : Description) (file : Directory) (limit samples : Nat) :
    (lines top : Nat) → (pieces : List (Nat × Nat)) → (done : List (List Bytes)) →
    Except Flaw (List Bytes)
  | 0, _, _, done => .ok done.reverse.flatten
  | lines + 1, top, pieces, done => do
    let across := pieceCount d.width d.chunks.width
    let rows := min d.chunks.height (d.height - top)
    let new ← d.lineRows file limit samples rows 0 (pieces.take across) []
    d.planeRows file limit samples lines (top + rows) (pieces.drop across) (new :: done)

/-- The rows of separate planes, `count` of them. -/
def separateRows (d : Description) (file : Directory) (limit perPlane : Nat) :
    (count : Nat) → (pieces : List (Nat × Nat)) → Except Flaw (List (List Bytes))
  | 0, _ => .ok []
  | count + 1, pieces => do
    let lines := pieceCount d.height d.chunks.height
    let plane ← d.planeRows file limit 1 lines 0 (pieces.take perPlane) []
    return plane :: (← d.separateRows file limit perPlane count (pieces.drop perPlane))

/-- The first `n` parts of `width` bytes of every pixel of `samples` such parts. -/
def keepChannels (width samples n : Nat) (row : Bytes) : Bytes :=
  if n = samples then row
  else (cut (width * samples) row.length [] row).flatMap (·.take (width * n))

/-- One row from the rows of separate planes, sample by sample. -/
def interleave (width : Nat) : (fuel : Nat) → (done : List Bytes) → (planes : List Bytes) → Bytes
  | 0, done, _ => done.reverse.flatten
  | fuel + 1, done, planes =>
    if planes.all List.isEmpty then done.reverse.flatten
    else
      interleave width fuel ((planes.flatMap (·.take width)) :: done) (planes.map (·.drop width))

/-- One row of every plane at a time. -/
def joinPlanes (width : Nat) : (fuel : Nat) → (done : List Bytes) → List (List Bytes) → List Bytes
  | 0, done, _ => done.reverse
  | fuel + 1, done, planes =>
    let heads := planes.filterMap List.head?
    if heads.isEmpty then done.reverse
    else
      let row := interleave width (heads.headD []).length [] heads
      joinPlanes width fuel (row :: done) (planes.map List.tail)

/-! Samples that are left out are taken out of a row before the differences are summed up.
That is done from the first column of the piece on as far as a row of the image is long, so
that it reaches into what has been drawn of the row below. -/

/-- The bytes of an image, and what is being drawn into it. -/
structure Canvas where
  bytes : Array UInt8
  /-- The number of bytes of a row. -/
  stride : Nat

/-- Replaces the bytes from a place on. -/
def Canvas.overwrite (c : Canvas) (start : Nat) (bs : Bytes) : Canvas :=
  { c with bytes := (bs.foldl (fun (all, i) b => (all.setIfInBounds i b, i + 1)) (c.bytes, start)).1 }

/-- Draws a stored row, without the samples that are left out. -/
def drawRow (d : Description) (order : Order) (channels start : Nat) (c : Canvas) (row : Bytes) :
    Canvas :=
  let width := d.bits / 8
  let there := (c.bytes.extract start (start + c.stride)).toList
  let kept := (keepChannels width d.samples channels row).take there.length
  let below := (cut width there.length [] (there.drop kept.length)).flatMap List.reverse
  c.overwrite start (d.straighten order d.samples (kept ++ below))

/-- Draws the rows of a piece, the first of them from a place on. -/
def drawRows (d : Description) (order : Order) (channels : Nat) :
    (start : Nat) → Canvas → List Bytes → Canvas
  | _, c, [] => c
  | start, c, row :: rows =>
    d.drawRows order channels (start + c.stride) (d.drawRow order channels start c row) rows

/-- Draws all pieces; `index` is the number of the next one. -/
def drawPieces (d : Description) (file : Directory) (limit channels : Nat) :
    (index : Nat) → Canvas → (pieces : List (Nat × Nat)) → Except Flaw Canvas
  | _, c, [] => .ok c
  | index, c, (offset, size) :: pieces => do
    let across := pieceCount d.width d.chunks.width
    let column := index % across * d.chunks.width
    let top := index / across * d.chunks.height
    let rows := min d.chunks.height (d.height - top)
    goTo offset
    let stored ← d.storedRows limit d.samples d.chunks.width rows size true (file.file.drop offset)
    let start := top * c.stride + column * (d.bits / 8 * channels)
    d.drawPieces file limit channels (index + 1) (d.drawRows file.order channels start c stored)
      pieces

/-- The rows of the image, with the samples of the given number of channels. Pieces side by
side have to have rows of whole bytes. -/
def rows (d : Description) (file : Directory) (limit channels : Nat) : Except Flaw (List Bytes) := do
  let pieces := d.chunks.offsets.zip d.chunks.sizes
  let width := d.bits / 8
  if d.separate then
    let perPlane := pieces.length / d.samples
    let planes ← d.separateRows file limit perPlane channels pieces
    return joinPlanes width d.height [] planes
  else if channels = d.samples then
    d.planeRows file limit d.samples (pieceCount d.height d.chunks.height) 0 pieces []
  else
    let stride := d.width * (width * channels)
    let blank : Canvas := ⟨Array.replicate (stride * d.height) 0, stride⟩
    let drawn ← d.drawPieces file limit channels 0 blank pieces
    return cut stride d.height [] drawn.bytes.toList

/-- Whether pieces stand side by side and their rows do not end with a byte. -/
def isMisaligned (d : Description) : Bool :=
  let samples := if d.separate then 1 else d.samples
  1 < pieceCount d.width d.chunks.width && d.chunks.width * samples * d.bits % 8 ≠ 0

end Description

/-- The bits of a row as samples, black or white. -/
def bitSamples (width : Nat) (row : Bytes) : Bytes :=
  (row.flatMap fun b => (List.range 8).map fun i =>
    if b.toNat / Nat.pow 2 (7 - i) % 2 = 1 then (255 : UInt8) else 0).take width

/-- The light that an ink leaves of `full`, given the share of light that black leaves. -/
def inkLight (full : Nat) (share : Single) (ink : Nat) : Nat :=
  let light := Binary.ofInt .single (full - ink : Int) * share
  light.units / Nat.pow 2 BinaryFormat.single.depth

/-- Pixels of four inks as colours; those in `done` come first, the last in front. -/
def inksToRgb (full : Nat) (done : List Nat) : List Nat → List Nat
  | c :: m :: y :: k :: more =>
    let black := Binary.ofInt .single k / Binary.ofInt .single full
    let share := Binary.ofInt .single 1 - black
    let light := inkLight full share
    inksToRgb full (light y :: light m :: light c :: done) more
  | _ => done.reverse

/-- A row of pixels of four inks, with samples of `width` bytes, as colours. -/
def inkRow (width : Nat) (row : Bytes) : Bytes :=
  let inks := (cut width row.length [] row).map Bytes.bigEndian
  (inksToRgb (Nat.pow 256 width - 1) [] inks).flatMap (Bytes.ofNatBE width)

/-- The picture in a TIFF file. -/
def decode (bytes : Bytes) : Except Flaw Picture := do
  let file ← Directory.read bytes
  let d ← file.describe
  let colour ← d.colour
  match ← file.valuesBelow? 65536 .sampleFormat with
  | some formats => formats.forM (d.checkFormat colour)
  | none => pure ()
  match layoutOf? colour d.bits with
  | none => throw (.unknownColour (unknownBits colour d.bits))
  | some layout =>
    let total := d.width * d.height * pixelBytes layout
    let stored := if colour = .cmyk then d.width * d.height * (d.bits / 8 * 4) else total
    if memoryLimit < total then throw .overLimit
    if d.isMisaligned then throw (.unsupported "tile rows are not aligned to byte boundaries")
    if memoryLimit < total + stored then throw .overLimit
    let rows ← d.rows file (memoryLimit - total - stored) colour.channels
    let samples :=
      if d.bits = 1 then rows.flatMap (bitSamples d.width)
      else if colour = .cmyk then rows.flatMap (inkRow (d.bits / 8))
      else rows.flatten
    match Picture.ofSamples? layout d.width d.height samples with
    | some picture => return picture
    | none => throw .ended

end ScanBinder.Tiff
