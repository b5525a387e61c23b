import ScanBinder.Image.Fault
import ScanBinder.Image.Jpeg.Tables
import ScanBinder.Image.Jpeg.Transform
import ScanBinder.Image.Picture

/-!
# Writing JPEG files

An opaque raster is cut into blocks of eight by eight pixels. Brightness and two colour
differences of each block are transformed, divided by the steps of the quality, and
written with the code tables of the standard.
-/

namespace ScanBinder.Jpeg

/-- A raster of this size cannot be written. -/
structure SizeFault where
  width : Nat
  height : Nat
deriving DecidableEq

namespace SizeFault

def kind (_ : SizeFault) : FaultKind := .encoding

def text (f : SizeFault) : String :=
  "Invalid image size (" ++ toString f.width ++ " x " ++ toString f.height ++
    ") to encode as JPEG: width and height must be >= 1 and <= 65535"

end SizeFault

/-- The largest width and height. -/
def sizeLimit : Nat := 65535

/-- Whether a raster has a size that can be written. -/
def isEncodable (image : Raster (Rgb UInt8)) : Bool :=
  0 < image.width && image.width ≤ sizeLimit && 0 < image.height && image.height ≤ sizeLimit

/-- Brightness less 128, from red, green and blue. -/
def brightness (p : Rgb UInt8) : Int :=
  (19595 * (p.r.toNat : Int) + 38470 * p.g.toNat + 7471 * p.b.toNat + 32768) / 65536 - 128

/-- The blue difference. -/
def blueShift (p : Rgb UInt8) : Int :=
  (-11059 * (p.r.toNat : Int) - 21709 * p.g.toNat + 32768 * p.b.toNat + 32767) / 65536

/-- The red difference. -/
def redShift (p : Rgb UInt8) : Int :=
  (32768 * (p.r.toNat : Int) - 27439 * p.g.toNat - 5329 * p.b.toNat + 32767) / 65536

/-- The pixels of a block, by its column and row among the blocks. Pixels beyond the raster
repeat its last column and row. -/
def blockPixels (width height : Nat) (pixels : Array (Rgb UInt8)) (column row : Nat) :
    Array (Rgb UInt8) :=
  Array.ofFn fun i : Fin 64 =>
    let x := min (8 * column + i.val % 8) (width - 1)
    let y := min (8 * row + i.val / 8) (height - 1)
    pixels[y * width + x]?.getD ⟨0, 0, 0⟩

/-- A quotient rounded to the nearest number, halves away from zero. -/
def roundDiv (v : Int) (step : Nat) : Int :=
  if v < 0 then -((2 * v.natAbs + step) / (2 * step) : Nat)
  else ((2 * v.natAbs + step) / (2 * step) : Nat)

/-- The waves of a block in the order of the file, divided by the steps. -/
def quantizeBlock (steps : List Nat) (block : Array Int) : List Int :=
  let waves := forward block
  (zigzag.toList.zip steps).map fun (i, step) => roundDiv (waves[i]?.getD 0) step

/-- The number of bits of a number's absolute value. -/
def bitLength (v : Int) : Nat :=
  if v = 0 then 0 else Nat.log2 v.natAbs + 1

/-- The `n` lowest bits of a number, most significant first. -/
def lowBits : (n v : Nat) → List Bool
  | 0, _ => []
  | n + 1, v => (v / Nat.pow 2 n % 2 = 1) :: lowBits n v

/-- The bits that tell a number from others of its length; negative ones are less by one. -/
def valueBits (v : Int) : List Bool :=
  let n := bitLength v
  lowBits n (if v < 0 then Nat.pow 2 n - 1 - v.natAbs else v.natAbs)

/-- The code words of a table by symbol, as bits. -/
def assignWords : (length code : Nat) → (counts : List Nat) → (symbols : List Nat) →
    List (Nat × List Bool)
  | _, _, [], _ => []
  | length, code, n :: counts, symbols =>
    ((symbols.take n).zipIdx.map fun (s, i) => (s, lowBits length (code + i))) ++
      assignWords (length + 1) (2 * (code + n)) counts (symbols.drop n)

/-- The code word of each symbol. -/
def CodeTable.words (t : CodeTable) : Array (List Bool) :=
  (assignWords 1 0 t.counts t.symbols).foldl (fun a (s, w) => a.setIfInBounds s w)
    (Array.replicate 256 [])

/-- The code words for one kind of component. -/
structure Words where
  dc : Array (List Bool)
  ac : Array (List Bool)

def lumaWords : Words := ⟨lumaDc.words, lumaAc.words⟩

def chromaWords : Words := ⟨chromaDc.words, chromaAc.words⟩

def wordOf (words : Array (List Bool)) (symbol : Nat) : List Bool :=
  words[symbol]?.getD []

/-- The bits of the waves after the first, `run` zeros having been passed; bits in `done`
come first, the last in front. -/
def acBits (w : Words) (run : Nat) (done : List Bool) : List Int → List Bool
  | [] => if run = 0 then done else (wordOf w.ac 0).reverse ++ done
  | v :: vs =>
    if v = 0 then acBits w (run + 1) done vs
    else
      let long := (List.replicate (run / 16) (wordOf w.ac 0xF0)).flatten
      let word := wordOf w.ac (run % 16 * 16 + bitLength v)
      acBits w 0 ((long ++ word ++ valueBits v).reverse ++ done) vs

/-- Adds the bits of a block to those in `done`, which are last first. The first wave is
written as its difference to that of the block before. -/
def blockBits (w : Words) (before : Int) (done : List Bool) (waves : List Int) : List Bool :=
  match waves with
  | [] => done
  | dc :: ac =>
    let d := dc - before
    acBits w 0 ((wordOf w.dc (bitLength d) ++ valueBits d).reverse ++ done) ac

/-- The first waves of the last block, by component. -/
structure Before where
  y : Int
  cb : Int
  cr : Int

/-- Adds the bits of blocks in the given places. -/
def scanBits (width height : Nat) (pixels : Array (Rgb UInt8)) (luma chroma : List Nat) :
    (places : List (Nat × Nat)) → Before → List Bool → List Bool
  | [], _, done => done
  | (column, row) :: places, before, done =>
    let block := blockPixels width height pixels column row
    let y := quantizeBlock luma (block.map brightness)
    let cb := quantizeBlock chroma (block.map blueShift)
    let cr := quantizeBlock chroma (block.map redShift)
    let done := blockBits lumaWords before.y done y
    let done := blockBits chromaWords before.cb done cb
    let done := blockBits chromaWords before.cr done cr
    scanBits width height pixels luma chroma places ⟨y.headD 0, cb.headD 0, cr.headD 0⟩ done

/-- The byte of eight bits. -/
def byteOf (bits : List Bool) : UInt8 :=
  UInt8.ofNat (bits.foldl (fun n b => 2 * n + b.toNat) 0)

/-- Bits as bytes, filled up with ones. A byte of ones is followed by a zero byte, so that
it does not look like a marker. Bytes in `done` come first, the last in front. -/
def pack : (fuel : Nat) → (done : Bytes) → List Bool → Bytes
  | 0, done, _ => done.reverse
  | _, done, [] => done.reverse
  | fuel + 1, done, bits =>
    let head := bits.take 8
    let b := byteOf (head ++ List.replicate (8 - head.length) true)
    pack fuel (if b = 255 then 0 :: b :: done else b :: done) (bits.drop 8)

/-- A segment of a file: its marker, its length and its body. -/
def segment (marker : UInt8) (body : Bytes) : Bytes :=
  0xFF :: marker :: Bytes.ofNatBE 2 (body.length + 2) ++ body

def stepSegment (index : UInt8) (steps : List Nat) : Bytes :=
  segment 0xDB (index :: steps.map UInt8.ofNat)

def codeSegment (index : UInt8) (t : CodeTable) : Bytes :=
  segment 0xC4 (index :: (t.counts ++ t.symbols).map UInt8.ofNat)

/-- Everything before the blocks. -/
def fileHead (width height : Nat) (luma chroma : List Nat) : Bytes :=
  [0xFF, 0xD8] ++
    segment 0xE0 [0x4A, 0x46, 0x49, 0x46, 0, 1, 2, 0, 0, 1, 0, 1, 0, 0] ++
    segment 0xC0 (8 :: Bytes.ofNatBE 2 height ++ Bytes.ofNatBE 2 width ++
      [3, 1, 0x11, 0, 2, 0x11, 1, 3, 0x11, 1]) ++
    stepSegment 0 luma ++ stepSegment 1 chroma ++
    codeSegment 0x00 lumaDc ++ codeSegment 0x10 lumaAc ++
    codeSegment 0x01 chromaDc ++ codeSegment 0x11 chromaAc ++
    segment 0xDA [3, 1, 0, 2, 0x11, 3, 0x11, 0, 63, 0]

/-- A raster as a JPEG file of the given quality. -/
def encode (quality : UInt8) (image : Raster (Rgb UInt8)) : Except SizeFault Bytes :=
  let width := image.width
  let height := image.height
  if !isEncodable image then .error ⟨width, height⟩
  else
    let luma := scaledSteps quality.toNat lumaSteps
    let chroma := scaledSteps quality.toNat chromaSteps
    let places := (List.range ((height + 7) / 8)).flatMap fun row =>
      (List.range ((width + 7) / 8)).map fun column => (column, row)
    let bits := scanBits width height image.pixels.toArray luma chroma places ⟨0, 0, 0⟩ []
    .ok (fileHead width height luma chroma ++ pack (bits.length / 8 + 1) [] bits.reverse ++
      [0xFF, 0xD9])

end ScanBinder.Jpeg
