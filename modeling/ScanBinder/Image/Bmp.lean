import ScanBinder.Image.Bmp.Header
import ScanBinder.Image.Picture

/-!
# Bitmap files

Rows of pixels come from the bottom up unless the header says otherwise, and take a
multiple of four bytes each. Runs of equal palette indices may be shortened.
-/

namespace ScanBinder.Bmp

/-- The colour of an index, in the order of the output. Beyond the palette it is black. -/
def Header.colour (h : Header) (i : Nat) : Bytes :=
  match h.palette.drop (h.paletteStep * i) with
  | b :: g :: r :: _ => [r, g, b]
  | _ => [0, 0, 0]

/-- The number of bytes of a row. -/
def Header.rowBytes (h : Header) : Nat :=
  let bits := match h.form with
    | .palette bits => bits
    | .packed n _ => 8 * n
    | _ => 8
  (h.width * bits + 31) / 32 * 4

/-- The first `height` rows of the data; those in `done` come before them, the last in front. -/
def splitRows (rowBytes : Nat) : (height : Nat) → (done : List Bytes) → Bytes →
    Except Flaw (List Bytes)
  | 0, done, _ => .ok done.reverse
  | height + 1, done, bs =>
    let row := bs.take rowBytes
    if row.length < rowBytes then .error .ended
    else splitRows rowBytes height (row :: done) (bs.drop rowBytes)

/-- The parts of a byte that have `bits` bits each, the most significant first. -/
def indexParts (bits : Nat) (b : UInt8) : List Nat :=
  (List.range (8 / bits)).map fun i => b.toNat / Nat.pow 2 (8 - bits * (i + 1)) % Nat.pow 2 bits

/-- A stored pixel in the order of the output. -/
def Channels.colour (c : Channels) (pixel : Bytes) : Bytes :=
  let n := Bytes.littleEndian pixel
  [c.r.read n, c.g.read n, c.b.read n] ++
    match c.a with
    | some a => [a.read n]
    | none => []

/-- The samples of a row of packed pixels; those in `done` come before, the last in front. -/
def packedRow (n : Nat) (c : Channels) : (width : Nat) → (done : List Bytes) → Bytes → Bytes
  | 0, done, _ => done.reverse.flatten
  | width + 1, done, bs =>
    packedRow n c width (c.colour (bs.take n) :: done) (bs.drop n)

/-- The samples of a row. -/
def Header.row (h : Header) (row : Bytes) : Bytes :=
  match h.form with
  | .palette bits => ((row.flatMap (indexParts bits)).take h.width).flatMap h.colour
  | .packed n c => packedRow n c h.width [] row
  | _ => []

/-! ## Runs -/

/-- A step in run-coded data. -/
inductive Run where
  | endOfRow
  | endOfImage
  | delta (x y : Nat)
  | listed (indices : List Nat)
  | repeated (indices : List Nat)

/-- The indices of a run: a byte holds one or, in four bits each, two. -/
def runIndices (nibbles : Bool) (count : Nat) (bs : Bytes) : List Nat :=
  if nibbles then (bs.flatMap (indexParts 4)).take count
  else (bs.map UInt8.toNat).take count

/-- Reads a step. -/
def Run.read (nibbles : Bool) : Bytes → Except Flaw (Run × Bytes)
  | 0 :: 0 :: bs => .ok (.endOfRow, bs)
  | 0 :: 1 :: bs => .ok (.endOfImage, bs)
  | 0 :: 2 :: x :: y :: bs => .ok (.delta x.toNat y.toNat, bs)
  | 0 :: 2 :: _ => .error .ended
  | 0 :: n :: bs =>
    let length := if nibbles then (n.toNat + 1) / 2 else n.toNat
    match Bytes.split? (length + length % 2) bs with
    | some (data, bs) => .ok (.listed (runIndices nibbles n.toNat data), bs)
    | none => .error .cutRun
  | n :: v :: bs => .ok (.repeated (runIndices nibbles n.toNat (List.replicate n.toNat v)), bs)
  | _ => .error .ended

/-- Rows that are complete, the last in front, and the row at hand, its last pixel in
front. -/
structure Canvas where
  rows : List (List Bytes)
  row : List Bytes

/-- A pixel that was left out. -/
def black : Bytes := [0, 0, 0]

/-- Completes the row at hand with black, and cuts off what goes beyond its end. -/
def Canvas.endRow (c : Canvas) (width : Nat) : Canvas :=
  ⟨((List.replicate (width - c.row.length) black ++ c.row).reverse.take width) :: c.rows, []⟩

/-- Leaves out `n` further rows. -/
def Canvas.skipRows (c : Canvas) (width : Nat) : (n : Nat) → Canvas
  | 0 => c
  | n + 1 => (c.endRow width).skipRows width n

/-- Adds pixels to the row at hand. -/
def Canvas.draw (c : Canvas) (pixels : List Bytes) : Canvas :=
  { c with row := pixels.reverse ++ c.row }

/-- Reads steps until all rows are complete. Of the pixels that go beyond the end of a row,
only those of a repeated index of a whole byte are allowed; they are not seen. -/
def Header.runs (h : Header) (nibbles : Bool) :
    (fuel : Nat) → Canvas → Bytes → Except Flaw (List (List Bytes))
  | 0, _, _ => .error .ended
  | fuel + 1, c, bs =>
    if h.height ≤ c.rows.length then .ok c.rows
    else
      match Run.read nibbles bs with
      | .error f => .error f
      | .ok (.endOfRow, bs) => h.runs nibbles fuel (c.endRow h.width) bs
      | .ok (.endOfImage, _) => .ok (c.skipRows h.width (h.height - c.rows.length)).rows
      | .ok (.delta x y, bs) =>
        let column := c.row.length
        if h.height ≤ c.rows.length + y ∨ h.width < column + x then .error .corruptRuns
        else
          let below := c.skipRows h.width y
          let row := if y = 0 then c.row else List.replicate column black
          h.runs nibbles fuel ⟨below.rows, List.replicate x black ++ row⟩ bs
      | .ok (.listed indices, bs) =>
        if h.width < c.row.length + indices.length then .error .corruptRuns
        else h.runs nibbles fuel (c.draw (indices.map h.colour)) bs
      | .ok (.repeated indices, bs) =>
        if nibbles ∧ h.width < c.row.length + indices.length then .error .corruptRuns
        else h.runs nibbles fuel (c.draw (indices.map h.colour)) bs

/-- The rows of the image from the top, each as its samples. -/
def Header.rows (h : Header) (data : Bytes) : Except Flaw (List Bytes) :=
  match h.form with
  | .rle8 => (h.runs false (data.length + 1) ⟨[], []⟩ data).map (·.map List.flatten)
  | .rle4 => (h.runs true (data.length + 1) ⟨[], []⟩ data).map (·.map List.flatten)
  | _ =>
    (splitRows h.rowBytes h.height [] data).map fun rows =>
      (if h.topDown then rows else rows.reverse).map h.row

/-- The most bytes that the samples of a picture may take. -/
def memoryLimit : Nat := 512 * 1024 * 1024

/-- The layout of the decoded picture. -/
def Header.layout (h : Header) : Layout :=
  match h.form with
  | .packed _ ⟨_, _, _, some _⟩ => .rgba8
  | _ => .rgb8

/-- The picture in a bitmap file. -/
def decode (file : Bytes) : Except Flaw Picture := do
  let h ← Header.read file
  let channels := if h.layout = .rgba8 then 4 else 3
  if memoryLimit < h.width * h.height * channels then throw .overLimit
  let rows ← h.rows (file.drop h.dataOffset)
  match Picture.ofSamples? h.layout h.width h.height rows.flatten with
  | some picture => return picture
  | none => throw .ended

end ScanBinder.Bmp
