import ScanBinder.Codec.Huffman
import ScanBinder.Image.Jpeg.Segments

/-!
# Coded blocks

A block of eight by eight samples is stored as 64 waves, each a whole number, in the order
of the zigzag. A scan brings some of the waves of its components, or more bits of waves that
an earlier scan has brought. The waves of a file in a single pass come all at once.

Reading gives nothing where the data ends or holds no code word.
-/

namespace ScanBinder.Jpeg

/-- The waves of a block. -/
abbrev Block := Array Int

/-- A block without waves. -/
def Block.blank : Block := Array.replicate 64 0

/-- The code tables of a component in a scan. -/
structure Coding where
  dc : PrefixCode
  ac : PrefixCode

/-- The coded data and what carries over from block to block: the first wave of the block
before, and the number of blocks yet to come that hold nothing new. -/
structure Cursor where
  before : Int
  blanks : Nat
  bits : BitStream

/-- The number that `n` bits stand for: those that start with a zero are negative. -/
def extend (n v : Nat) : Int :=
  if n = 0 then 0
  else if v < Nat.pow 2 (n - 1) then (v : Int) + 1 - Nat.pow 2 n
  else v

/-- Reads a number of `n` bits. -/
def value? (s : BitStream) (n : Nat) : Option (Int × BitStream) :=
  (s.bigNumber? 0 n).map fun (v, s) => (extend n v, s)

/-- Reads a code word. -/
def symbol? (code : PrefixCode) (s : BitStream) : Option (Nat × BitStream) :=
  (code.symbol s).toOption

/-- The unit in which the bits of a pass count. -/
def Band.unit (b : Band) : Int :=
  Nat.pow 2 b.low

/-- Reads the first wave of a block, or one more bit of it. -/
def Cursor.readFirst? (c : Coding) (band : Band) (cur : Cursor) (block : Block) :
    Option (Block × Cursor) :=
  if band.high = 0 then do
    let (n, s) ← symbol? c.dc cur.bits
    let (d, s) ← value? s n
    let v := cur.before + d
    return (block.setIfInBounds 0 (v * band.unit), { cur with before := v, bits := s })
  else do
    let (bit, s) ← cur.bits.next?
    return (if bit then block.modify 0 (· + band.unit) else block, { cur with bits := s })

/-- Reads new waves from place `k` on. -/
def readWaves? (c : Coding) (band : Band) : (fuel k : Nat) → BitStream → Block →
    Option (Block × Nat × BitStream)
  | 0, _, s, block => some (block, 0, s)
  | fuel + 1, k, s, block =>
    if band.last < k then some (block, 0, s)
    else do
      let (symbol, s) ← symbol? c.ac s
      let run := symbol / 16
      let n := symbol % 16
      if n = 0 then
        if run = 15 then readWaves? c band fuel (k + 16) s block
        else
          let (more, s) ← s.bigNumber? 0 run
          return (block, Nat.pow 2 run + more - 1, s)
      else
        let (v, s) ← value? s n
        readWaves? c band fuel (k + run + 1) s (block.setIfInBounds (k + run) (v * band.unit))

/-- Passes over `zeros` waves that are zero, from place `k` on, and gives each other wave on
the way one more bit. Gives the place of the zero after them. -/
def refine? (band : Band) : (fuel k zeros : Nat) → BitStream → Block →
    Option (Nat × BitStream × Block)
  | 0, k, _, s, block => some (k, s, block)
  | fuel + 1, k, zeros, s, block =>
    if band.last < k then some (k, s, block)
    else
      let v := block[k]?.getD 0
      if v ≠ 0 then do
        let (bit, s) ← s.next?
        let grows := bit && v.natAbs / Nat.pow 2 band.low % 2 = 0
        refine? band fuel (k + 1) zeros s
          (if grows then block.setIfInBounds k (v + v.sign * band.unit) else block)
      else if zeros = 0 then some (k, s, block)
      else refine? band fuel (k + 1) (zeros - 1) s block

/-- Reads one more bit of the waves from place `k` on, and those that start with this bit. -/
def refineWaves? (c : Coding) (band : Band) : (fuel k : Nat) → BitStream → Block →
    Option (Block × Nat × BitStream)
  | 0, _, s, block => some (block, 0, s)
  | fuel + 1, k, s, block =>
    if band.last < k then some (block, 0, s)
    else do
      let (symbol, s) ← symbol? c.ac s
      let run := symbol / 16
      if symbol % 16 = 0 then
        if run = 15 then
          let (k, s, block) ← refine? band 64 k 15 s block
          refineWaves? c band fuel (k + 1) s block
        else
          let (more, s) ← s.bigNumber? 0 run
          let (_, s, block) ← refine? band 64 k 64 s block
          return (block, Nat.pow 2 run + more - 1, s)
      else
        let (positive, s) ← s.next?
        let (k, s, block) ← refine? band 64 k run s block
        let v := if positive then band.unit else -band.unit
        refineWaves? c band fuel (k + 1) s (if k ≤ band.last then block.setIfInBounds k v else block)

/-- Reads the waves of a block after the first. -/
def Cursor.readRest? (c : Coding) (band : Band) (cur : Cursor) (block : Block) :
    Option (Block × Cursor) :=
  let start := max 1 band.first
  if band.high = 0 then
    if cur.blanks ≠ 0 then some (block, { cur with blanks := cur.blanks - 1 })
    else
      (readWaves? c band 64 start cur.bits block).map fun (block, blanks, bits) =>
        (block, { cur with blanks, bits })
  else if cur.blanks ≠ 0 then
    (refine? band 64 start 64 cur.bits block).map fun (_, bits, block) =>
      (block, { cur with blanks := cur.blanks - 1, bits })
  else
    (refineWaves? c band 64 start cur.bits block).map fun (block, blanks, bits) =>
      (block, { cur with blanks, bits })

/-- Reads what a scan brings for a block. -/
def Cursor.readBlock? (c : Coding) (band : Band) (cur : Cursor) (block : Block) :
    Option (Block × Cursor) := do
  let (block, cur) ←
    if band.first = 0 then cur.readFirst? c band block else some (block, cur)
  if band.last = 0 then return (block, cur)
  cur.readRest? c band block

/-- The coded data between restart markers, stuffed zero bytes removed, and the bytes from
the marker on that ends it; pieces and bytes at hand are last first. -/
def intervals : (pieces : List Bytes) → (piece : Bytes) → Bytes → List Bytes × Bytes
  | pieces, piece, 0xFF :: 0x00 :: bs => intervals pieces (0xFF :: piece) bs
  | pieces, piece, 0xFF :: m :: bs =>
    if 0xD0 ≤ m ∧ m ≤ 0xD7 then intervals (piece.reverse :: pieces) [] bs
    else ((piece.reverse :: pieces).reverse, 0xFF :: m :: bs)
  | pieces, piece, b :: bs => intervals pieces (b :: piece) bs
  | pieces, piece, [] => ((piece.reverse :: pieces).reverse, [])

end ScanBinder.Jpeg
