import ScanBinder.Codec.Facsimile
import ScanBinder.Codec.Handover
import ScanBinder.Codec.Lzw
import ScanBinder.Codec.PackBits
import ScanBinder.Image.Jpeg.Decode
import ScanBinder.Image.Tiff.Description

/-!
# Strips and tiles

The data of a piece of an image is unpacked, its rows are cut out, and differences between
neighbours are summed up. Samples come out most significant byte first.
-/

namespace ScanBinder.Tiff

/-- How many bytes of a piece are wanted: those that have to be there, and those that are
passed over if they are there. -/
structure Demand where
  least : Nat
  most : Nat

/-- Data that ends as it should has to have enough bytes. -/
def Demand.check (n : Demand) (out : Bytes) : Except Flaw Bytes :=
  if n.least ≤ out.length then .ok (out.take n.most) else .error .ended

/-- Data behind dictionary codes. -/
def unpackLzw (n : Demand) (data : Bytes) : Except Flaw Bytes :=
  let r := Lzw.decode .tiff n.most data
  match r.stop with
  | .badCode => .error .badCodes
  | .ended => .error .noEndCode
  | .finished => n.check r.out.toList

/-- Inflated data. All windows have to be sound up to the one that brings the last byte. -/
def unpackDeflate (n : Demand) (data : Bytes) : Except Flaw Bytes :=
  let checkFaulty (out : Array UInt8) :=
    if Inflate.windowsBefore n.most < Inflate.windowsBefore out.size then n.check out.toList
    else .error .corruptData
  match inflate .all data with
  | (out, .faulty _) => checkFaulty out
  | (out, .finished (a :: b :: c :: d :: _)) =>
    if Bytes.bigEndian [a, b, c, d] = adler32 out then n.check out.toList else checkFaulty out
  | (out, _) => n.check out.toList

/-- The most columns and rows of a piece in facsimile coding. -/
def facsimileLimit : Nat := 65535

/-- Lines of black and white. -/
def unpackFacsimile (n : Demand) (columns rows : Nat) (data : Bytes) : Except Flaw Bytes :=
  if facsimileLimit < columns ∨ facsimileLimit < rows then .error .tooLarge
  else
    let (out, bad) := Facsimile.decode columns rows data
    if bad && out.length < n.most then .error .badLine else n.check out

/-- The samples of a JPEG image. The marker that ends shared tables and the one that starts the
image are left out. -/
def unpackJpeg (n : Demand) (tables : Option Bytes) (data : Bytes) : Except Flaw Bytes :=
  if tables.isSome ∧ data.length < 2 then .error .ended
  else
    let file := match tables with
      | some tables => tables.take (tables.length - 2) ++ data.drop 2
      | none => data
    match Jpeg.Content.ofFile Jpeg.memoryLimit file with
    | .ok c => n.check c.bytes
    | .error f => .error (.jpeg f)

/-- Bytes of a piece of `columns` columns and `rows` rows that starts at the front of the data
and takes `size` bytes of it. -/
def Packing.unpack (p : Packing) (n : Demand) (columns rows size : Nat) (data : Bytes) :
    Except Flaw Bytes :=
  match p with
  | .plain => n.check (data.take n.most)
  | .lzw => unpackLzw n (data.take size)
  | .deflate => unpackDeflate n data
  | .packBits =>
    match unpackBits n.most (size + 2) [] 0 (data.take size) with
    | .complete out => n.check out
    | .cut => .error .ended
  | .facsimile => unpackFacsimile n columns rows (data.take size)
  | .jpeg tables =>
    if tables.isSome ∧ size < 2 then .error (.badValue .jpegTables)
    else unpackJpeg n tables (data.take size)
  | .named name => .error (.unsupported ("compression method " ++ name ++ " is unsupported"))

/-- Cuts data into parts of `n` bytes; those in `done` come first, the last in front. -/
def cut (n : Nat) : (fuel : Nat) → (done : List Bytes) → Bytes → List Bytes
  | 0, done, _ => done.reverse
  | _, done, [] => done.reverse
  | fuel + 1, done, bs => cut n fuel (bs.take n :: done) (bs.drop n)

/-- Sums up differences: each number is added to the one `step` places before it, modulo
`modulus`. The last numbers before are in `before`. -/
def sumUp (modulus : Nat) (before done : List Nat) : List Nat → List Nat
  | [] => done.reverse
  | n :: ns =>
    let n := (n + before.headD 0) % modulus
    sumUp modulus (before.tail ++ [n]) (n :: done) ns

/-- The bytes of numbers that were written byte by byte: first the highest byte of each, then
the next. -/
def gatherBytes (width : Nat) (row : Bytes) : Bytes :=
  let row := row.toArray
  let count := row.size / width
  (List.range count).flatMap fun i =>
    (List.range width).map fun k => row[k * count + i]?.getD 0

/-- A row with its numbers most significant byte first and differences summed up. -/
def Description.straighten (d : Description) (order : Order) (samples : Nat) (row : Bytes) : Bytes :=
  let width := d.bits / 8
  let zeros := List.replicate samples 0
  let turned := if order = .little ∧ 1 < width then
      (cut width row.length [] row).flatMap List.reverse
    else row
  match d.predictor with
  | .none => turned
  | .horizontal =>
    let numbers := (cut width turned.length [] turned).map Bytes.bigEndian
    (sumUp (Nat.pow 256 width) zeros [] numbers).flatMap (Bytes.ofNatBE width)
  | .floating =>
    gatherBytes width ((sumUp 256 zeros [] (row.map UInt8.toNat)).map UInt8.ofNat)

/-- The number of bytes of a row of so many pixels. -/
def Description.rowBytes (d : Description) (samples columns : Nat) : Nat :=
  (columns * samples * d.bits + 7) / 8

/-- Predictors need samples of whole bytes, and the right kind of numbers. -/
def Description.checkPredictor (d : Description) (colour : Colour) : Except Flaw Unit :=
  let refused := fun name =>
    Flaw.unsupported (name ++ " predictor for " ++ colour.text d.bits ++ " is unsupported")
  match d.predictor with
  | .none => .ok ()
  | .horizontal =>
    if d.bits < 8 ∨ (d.format ≠ 1 ∧ d.format ≠ 2) then .error (refused "horizontal") else .ok ()
  | .floating => if d.bits < 8 ∨ d.format ≠ 3 then .error (refused "floating point") else .ok ()

/-- The stored rows of a piece that covers `columns` columns and `rows` rows of the image;
`limit` is the most bytes that its data may take. Of the last row only the columns that are
covered have to be there, unless `whole` says that all of it is needed. -/
def Description.storedRows (d : Description) (limit samples columns rows size : Nat) (whole : Bool)
    (data : Bytes) : Except Flaw (List Bytes) := do
  d.checkPredictor (← d.colour)
  if limit < size then throw .overLimit
  let stored := d.rowBytes samples d.chunks.width
  let missing := if whole then 0 else stored - d.rowBytes samples columns
  let bytes ← d.packing.unpack ⟨rows * stored - missing, rows * stored⟩ d.chunks.width rows size data
  return cut stored rows [] bytes

/-- The rows of a piece that covers `columns` columns and `rows` rows of the image. Differences
of bytes of numbers with a point go through columns that are not covered. -/
def Description.chunkRows (d : Description) (order : Order) (limit samples columns rows size : Nat)
    (data : Bytes) : Except Flaw (List Bytes) := do
  let whole := d.predictor = .floating
  let wanted := d.rowBytes samples columns
  let stored ← d.storedRows limit samples columns rows size whole data
  return stored.map fun row =>
    let row := if whole then (d.straighten order samples row).take wanted
      else d.straighten order samples (row.take wanted)
    if d.photometric = .whiteIsZero then row.map (255 - ·) else row

end ScanBinder.Tiff
