import ScanBinder.Codec.RowFilter
import ScanBinder.Image.Png.Header

/-!
# Rows of a PNG image

The inflated image data is a sequence of rows, each behind a byte that names its filter. A
filter has replaced the bytes of the row by their differences to neighbours that the
reader knows already. An interlaced image comes as seven smaller ones.
-/

namespace ScanBinder.Png

/-- A part of the image that is sent by itself: every `stepX`-th pixel of every
`stepY`-th row. -/
structure Pass where
  startX : Nat
  startY : Nat
  stepX : Nat
  stepY : Nat
deriving DecidableEq

namespace Pass

/-- The pass of an image that is not interlaced. -/
def whole : Pass := ⟨0, 0, 1, 1⟩

/-- The seven passes of an interlaced image. -/
def seven : List Pass :=
  [⟨0, 0, 8, 8⟩, ⟨4, 0, 8, 8⟩, ⟨0, 4, 4, 8⟩, ⟨2, 0, 4, 4⟩, ⟨0, 2, 2, 4⟩, ⟨1, 0, 2, 2⟩,
    ⟨0, 1, 1, 2⟩]

def columns (p : Pass) (h : Header) : Nat :=
  (h.width - p.startX + p.stepX - 1) / p.stepX

def rows (p : Pass) (h : Header) : Nat :=
  (h.height - p.startY + p.stepY - 1) / p.stepY

end Pass

namespace Header

/-- The passes with any pixels. -/
def passes (h : Header) : List Pass :=
  if h.interlaced then Pass.seven.filter fun p => p.columns h ≠ 0 && p.rows h ≠ 0
  else [Pass.whole]

def bitsPerPixel (h : Header) : Nat :=
  h.colour.channels * h.depth.bits

/-- The number of bytes of a row of so many pixels. -/
def rowBytes (h : Header) (columns : Nat) : Nat :=
  (columns * h.bitsPerPixel + 7) / 8

/-- How far back the left neighbour of a byte stands. -/
def filterStep (h : Header) : Nat :=
  max 1 (h.bitsPerPixel / 8)

end Header

/-- A row of inflated data: its filter byte and its bytes. -/
structure RawRow where
  filter : UInt8
  bytes : Bytes
deriving DecidableEq

/-- The rows of passes as far as the data goes: `lengths` has the number of bytes in a row
and the number of rows of each pass that is left. Also tells whether all rows are there. -/
def splitRows : (fuel : Nat) → (lengths : List (Nat × Nat)) → (done : List RawRow) → Bytes →
    List RawRow × Bool
  | _, [], done, _ => (done.reverse, true)
  | 0, _, done, _ => (done.reverse, false)
  | fuel + 1, (_, 0) :: lengths, done, bs => splitRows fuel lengths done bs
  | fuel + 1, (n, count + 1) :: lengths, done, bs =>
    match bs with
    | [] => (done.reverse, false)
    | f :: bs =>
      let row := bs.take n
      if row.length < n then (done.reverse, false)
      else splitRows fuel ((n, count) :: lengths) (⟨f, row⟩ :: done) (bs.drop n)

/-- The number of bytes in a row and of rows, for each pass. -/
def Header.rowLengths (h : Header) : List (Nat × Nat) :=
  h.passes.map fun p => (h.rowBytes (p.columns h), p.rows h)

/-- The rows in inflated data. -/
def Header.rawRows (h : Header) (data : Bytes) : List RawRow × Bool :=
  splitRows (data.length + 8) h.rowLengths [] data

/-- The rows of one pass with their filters undone, the first one below zeros. -/
def unfilterRows (step : Nat) (above : Bytes) (done : List Bytes) : List RawRow → List Bytes
  | [] => done.reverse
  | r :: rows =>
    let zeros := List.replicate step 0
    let f := (RowFilter.ofByte? r.filter).getD .none
    let row := undoRow f.guess zeros zeros [] above r.bytes
    unfilterRows step row (row :: done) rows

/-- The rows of each pass with their filters undone. -/
def Header.cleanRows (h : Header) : List Pass → List RawRow → List (List Bytes)
  | [], _ => []
  | p :: passes, rows =>
    let n := p.rows h
    let zeros := List.replicate (h.rowBytes (p.columns h)) 0
    unfilterRows h.filterStep zeros [] (rows.take n) :: h.cleanRows passes (rows.drop n)

end ScanBinder.Png
