import ScanBinder.Image.Picture
import ScanBinder.Image.Png.Rows

/-!
# Pixels of a PNG image

A row is cut into pixels, and each pixel is written out in full: samples of less than
eight bits are spread to eight, palette indices are looked up, and the transparent colour
of an image becomes an alpha channel.
-/

namespace ScanBinder.Png

/-- The layout of the decoded picture. -/
def Header.layout (h : Header) (transparent : Bool) : Layout :=
  if h.depth = .sixteen then
    match h.colour with
    | .gray => if transparent then .la16 else .l16
    | .rgb => if transparent then .rgba16 else .rgb16
    | .indexed => if transparent then .rgba8 else .rgb8
    | .grayAlpha => .la16
    | .rgba => .rgba16
  else
    match h.colour with
    | .gray => if transparent then .la8 else .l8
    | .rgb => if transparent then .rgba8 else .rgb8
    | .indexed => if transparent then .rgba8 else .rgb8
    | .grayAlpha => .la8
    | .rgba => .rgba8

/-- The parts of a byte that have `bits` bits each, the most significant first. -/
def parts (bits : Nat) (b : UInt8) : List UInt8 :=
  (List.range (8 / bits)).map fun i => UInt8.ofNat (b.toNat / Nat.pow 2 (8 - bits * (i + 1)) % Nat.pow 2 bits)

/-- Cuts a row into pieces of `n` bytes; those in `done` come first, the last in front. -/
def pieces (n : Nat) : (fuel : Nat) → (done : List Bytes) → Bytes → List Bytes
  | 0, done, _ => done.reverse
  | _, done, [] => done.reverse
  | fuel + 1, done, bs => pieces n fuel (bs.take n :: done) (bs.drop n)

/-- The pixels of a row as they are stored, samples of less than eight bits in a byte. -/
def Header.storedPixels (h : Header) (columns : Nat) (row : Bytes) : List Bytes :=
  if h.depth.bits < 8 then ((row.flatMap (parts h.depth.bits)).map ([·])).take columns
  else pieces (h.bitsPerPixel / 8) row.length [] row

/-- A palette entry; beyond the palette it is black. -/
def paletteColour (palette : Bytes) (i : Nat) : Bytes :=
  match palette.drop (3 * i) with
  | r :: g :: b :: _ => [r, g, b]
  | _ => [0, 0, 0]

/-- The low bytes of big-endian words. -/
def lowBytes : Bytes → Bytes
  | _ :: lo :: bs => lo :: lowBytes bs
  | _ => []

/-- The stored form of the transparent colour. Samples of 16 bits are taken as they stand, so
that no pixel has a colour with bytes to spare. -/
def Header.transparentPixel (h : Header) (data : Bytes) : Bytes :=
  if h.depth = .sixteen then data else lowBytes (data.take (2 * h.colour.channels))

/-- The alpha of a palette entry. More values than there are entries do not count. -/
def paletteAlpha (palette alphas : Bytes) (i : Nat) : UInt8 :=
  if alphas.length ≤ palette.length / 3 then alphas[i]?.getD 255 else 255

/-- The full form of a gray sample. -/
def Header.spread (h : Header) (pixel : Bytes) : Bytes :=
  if h.depth.bits < 8 then
    pixel.map fun v => UInt8.ofNat (v.toNat * 255 / (Nat.pow 2 h.depth.bits - 1))
  else pixel

/-- Alpha as a sample of the image. -/
def Header.alpha (h : Header) (value : UInt8) : Bytes :=
  if h.depth = .sixteen then [value, value] else [value]

/-- The full form of a stored pixel. -/
def Header.fullPixel (h : Header) (extras : Extras) (pixel : Bytes) : Bytes :=
  match h.colour with
  | .indexed =>
    let i := (pixel.headD 0).toNat
    let palette := extras.palette.getD []
    let colour := paletteColour palette i
    match extras.transparency with
    | some alphas => colour ++ [paletteAlpha palette alphas i]
    | none => colour
  | .grayAlpha => pixel
  | .rgba => pixel
  | _ =>
    match extras.transparency with
    | some data =>
      h.spread pixel ++ h.alpha (if pixel = h.transparentPixel data then 0 else 255)
    | none => h.spread pixel

/-- The full pixels of the rows of each pass. -/
def Header.fullRows (h : Header) (extras : Extras) :
    List Pass → List (List Bytes) → List (Array (Array Bytes))
  | p :: passes, rows :: more =>
    (rows.map fun row =>
      ((h.storedPixels (p.columns h) row).map (h.fullPixel extras)).toArray).toArray ::
      h.fullRows extras passes more
  | _, _ => []

/-- The pixel at a place of the image, from whichever pass has it. -/
def pixelAt (x y : Nat) : List (Pass × Array (Array Bytes)) → Bytes
  | [] => []
  | (p, rows) :: more =>
    if p.startX ≤ x ∧ p.startY ≤ y ∧ (x - p.startX) % p.stepX = 0 ∧ (y - p.startY) % p.stepY = 0
    then
      ((rows[(y - p.startY) / p.stepY]?).bind (·[(x - p.startX) / p.stepX]?)).getD []
    else pixelAt x y more

/-- The samples of the image. -/
def Header.samples (h : Header) (extras : Extras) (rows : List RawRow) : Bytes :=
  let full := h.fullRows extras h.passes (h.cleanRows h.passes rows)
  if h.interlaced then
    let parts := h.passes.zip full
    (List.range h.height).flatMap fun y => (List.range h.width).flatMap fun x => pixelAt x y parts
  else full.flatMap fun rows => rows.toList.flatMap fun row => row.toList.flatMap id

end ScanBinder.Png
