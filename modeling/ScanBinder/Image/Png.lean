import ScanBinder.Image.Png.Pixels

/-!
# PNG files

Decoding goes through the file from front to back and stops at the first flaw. The image
data comes in chunks, which are inflated until the rows are complete; what follows in them
is left unread. Of what comes after the image data only the start of the next chunk is read.
-/

namespace ScanBinder.Png

/-- The chunks of image data, and the flaw that was met after them if there is one. -/
structure DataRun where
  chunks : List Bytes
  flaw : Option Flaw

/-- Reads a run of image data whose first chunk has been started, up to the start of the
next other chunk. A chunk that breaks off still gives the data that is there. -/
def DataRun.read : (fuel : Nat) → (length : Nat) → (done : List Bytes) → Bytes → DataRun
  | 0, _, done, _ => ⟨done.reverse, some .ended⟩
  | fuel + 1, length, done, bs =>
    let done := bs.take length :: done
    match chunkBody length .imageData bs with
    | .error f => ⟨done.reverse, some f⟩
    | .ok (_, some f, _) => ⟨done.reverse, some f⟩
    | .ok (_, none, rest) =>
      match chunkStart rest with
      | .error f => ⟨done.reverse, some f⟩
      | .ok (length, type, bs) =>
        if type = .imageData then DataRun.read fuel length done bs
        else ⟨done.reverse, none⟩

/-- Stops if a flaw was met after the image data. -/
def DataRun.check (run : DataRun) : Except Flaw Unit :=
  match run.flaw with
  | some f => .error f
  | none => .ok ()

/-- How unpacking image data ended: with all that was wanted or all there is, at the end of
data that goes on, or at a fault. -/
inductive Ending where
  | settled
  | cut
  | faulty (f : InflateFault)
deriving DecidableEq

/-- The bytes that may still be referred to; rows are taken only from those before them
until the data is complete. -/
def window : Nat := 32768

/-- The bytes that are unpacked at a time. -/
def portion : Nat := 8192

/-- Whether compressed data is over, its checksum included. -/
def isOver : Inflate.Stop → Bool
  | .finished (_ :: _ :: _ :: _ :: _) => true
  | _ => false

/-- Unpacks chunks, one more at a time, until `limit` bytes are there or the data is over.
The bytes of the chunks so far are in `given`, and `known` bytes have come out of them.
Gives the bytes from which rows may be taken. -/
def unpack (limit known : Nat) (given : Bytes) (before : Array UInt8) :
    List Bytes → Array UInt8 × Ending
  | [] => (before.take (known - window), .cut)
  | chunk :: chunks =>
    let given := given ++ chunk
    match inflate (.upTo limit) given with
    | (out, .faulty f) =>
      (out.take (known + (out.size - known) / portion * portion - window), .faulty f)
    | (out, stop) =>
      if isOver stop || limit ≤ out.size then (out, .settled)
      else unpack limit out.size given out chunks

/-- The most bytes of rows, filter bytes included. Interlaced images may take more than
others of their size. -/
def Header.dataLimit (h : Header) : Nat :=
  let plain := h.height * (1 + h.rowBytes h.width)
  if h.interlaced then 2 * plain else plain

/-- The filter of each row has to exist. -/
def checkFilters (rows : List RawRow) : Except Flaw Unit :=
  match rows.find? fun r => (RowFilter.ofByte? r.filter).isNone with
  | some r => .error (.badFilter r.filter)
  | none => .ok ()

/-- The rows of an image. An image of indices has to have a palette. -/
def Header.readRows (h : Header) (extras : Extras) (run : DataRun) :
    Except Flaw (List RawRow) := do
  if h.colour = .indexed && extras.palette.isNone then throw .noPalette
  let (data, ending) := unpack h.dataLimit 0 [] #[] run.chunks
  let (rows, complete) := h.rawRows data.toList
  checkFilters rows
  match complete, ending with
  | false, .faulty f => throw (.compressed f)
  | _, _ =>
    run.check
    if complete then return rows
    else throw (if ending = .cut then .compressed .insufficientInput else .tooLittleData)

/-- The most bytes that the samples of a picture may take. -/
def memoryLimit : Nat := 512 * 1024 * 1024

/-- The number of bytes of a full pixel. -/
def Header.fullPixelBytes (h : Header) (transparent : Bool) : Nat :=
  let channels := match h.colour with
    | .gray => if transparent then 2 else 1
    | .rgb => if transparent then 4 else 3
    | .indexed => if transparent then 4 else 3
    | .grayAlpha => 2
    | .rgba => 4
  if h.depth = .sixteen then 2 * channels else channels

/-- The most bytes that a picture may take by its header alone. -/
def sizeLimit : Nat := 0x7FFFFFFFFFFFFFFF

/-- The picture in a PNG file. -/
def decode (bs : Bytes) : Except Flaw Picture := do
  let (h, rest) ← Header.read bs
  if sizeLimit < h.width * h.height * h.fullPixelBytes false then throw .overLimit
  let (extras, length, rest) ← Extras.read h (rest.length + 1) .start rest
  let transparent := extras.transparency.isSome
  if memoryLimit < h.width * h.height * h.fullPixelBytes transparent then throw .overLimit
  let rows ← h.readRows extras (DataRun.read (rest.length + 1) length [] rest)
  match Picture.ofSamples? (h.layout transparent) h.width h.height (h.samples extras rows) with
  | some picture => return picture
  | none => throw .tooLittleData

/-- Whether the file is a PNG image with a palette, as far as its header tells. -/
def isIndexed (bs : Bytes) : Bool :=
  match Header.read bs with
  | .ok (h, _) => h.colour = .indexed
  | .error _ => false

end ScanBinder.Png
