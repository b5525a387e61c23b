import ScanBinder.Codec.Huffman
import ScanBinder.Image.Jpeg.Flaw

/-!
# Segments of a JPEG file

Between its start and the coded blocks a JPEG file is a sequence of segments, each behind
a marker. They give the size, the components, and the tables that the blocks use. A segment
is read piece by piece, so that the first piece that is wrong decides what is said about the
file.
-/

namespace ScanBinder.Jpeg

/-- The first `n` bytes and the rest. -/
def take (n : Nat) (bs : Bytes) : Except Flaw (Bytes × Bytes) :=
  match Bytes.split? n bs with
  | some r => .ok r
  | none => .error (.tooShort n bs.length)

/-- The number in the first byte, and the rest. -/
def byte (bs : Bytes) : Except Flaw (Nat × Bytes) :=
  (take 1 bs).map fun (b, rest) => (Bytes.bigEndian b, rest)

/-- The number in the first two bytes, and the rest. -/
def word (bs : Bytes) : Except Flaw (Nat × Bytes) :=
  (take 2 bs).map fun (b, rest) => (Bytes.bigEndian b, rest)

/-- `n` numbers of two bytes each. -/
def words : (n : Nat) → Bytes → Except Flaw (List Nat × Bytes)
  | 0, bs => .ok ([], bs)
  | n + 1, bs => do
    let (v, bs) ← word bs
    let (vs, bs) ← words n bs
    return (v :: vs, bs)

/-- A component of the image: its number, its share of samples across and down, and the
numbers of its tables. -/
structure Component where
  id : Nat
  across : Nat
  down : Nat
  steps : Nat
  dc : Nat
  ac : Nat
deriving DecidableEq

/-- The size and the components of an image, and whether its blocks come in several
passes. -/
structure Frame where
  width : Nat
  height : Nat
  passes : Bool
  components : List Component
deriving DecidableEq

/-- What the components stand for. -/
inductive Space where
  | gray
  | ycc
  | rgb
  | cmyk
  | ycck
deriving DecidableEq

/-- A part of the waves of each block: from the first to the last, and of each wave the bits
from `high`, where an earlier pass has stopped, down to `low`. -/
structure Band where
  first : Nat
  last : Nat
  high : Nat
  low : Nat
deriving DecidableEq

/-- All waves in full. -/
def Band.whole : Band := ⟨0, 63, 0, 0⟩

/-- The components of a scan by their place in the frame, and the waves it holds. -/
structure Scan where
  places : List Nat
  band : Band
deriving DecidableEq

/-- What the segments have said so far. -/
structure Tables where
  frame : Option Frame
  steps : List (Nat × Array Nat)
  dc : List (Nat × PrefixCode)
  ac : List (Nat × PrefixCode)
  restart : Nat
  space : Space
  /-- Whether the image is one of a film, which may leave out the usual code tables. -/
  film : Bool

namespace Tables

/-- Nothing said yet. -/
def empty : Tables := ⟨none, [], [], [], 0, .ycc, false⟩

/-- How many tables of a class there may be. -/
def places : Nat := 4

/-- Reads step tables from the `left` bytes of their segment. -/
def addSteps : (fuel left : Nat) → Tables → Bytes → Except Flaw (Tables × Bytes)
  | 0, _, t, bs => .ok (t, bs)
  | fuel + 1, left, t, bs =>
    if left = 0 then .ok (t, bs)
    else do
      let (info, bs) ← byte bs
      let precision := info / 16
      let size := 64 * (precision + 1) + 1
      if left < size then throw (.steps (.cut left size))
      let (values, bs) ←
        if precision = 0 then
          (take 64 bs).map fun (data, bs) => (data.map UInt8.toNat, bs)
        else if precision = 1 then words 64 bs
        else throw (.steps (.precision precision))
      if places ≤ info % 16 then throw (.steps (.place (info % 16)))
      addSteps fuel (left - size) { t with steps := (info % 16, values.toArray) :: t.steps } bs

/-- Whether a code can be used: no word consists of ones only. -/
def usable (code : PrefixCode) : Bool :=
  code.room?.any (0 < ·)

/-- Reads code tables from the `left` bytes of their segment. -/
def addCodes : (fuel left : Nat) → Tables → Bytes → Except Flaw (Tables × Bytes)
  | 0, _, t, bs => .ok (t, bs)
  | fuel + 1, left, t, bs =>
    if left = 0 then .ok (t, bs)
    else if left ≤ 16 then throw (.remark "Bogus Huffman table definition")
    else do
      let (info, bs) ← byte bs
      let place := info % 16
      if places ≤ place then throw (.codes (.place place))
      if 1 < info / 16 then throw (.codes (.notClass (info / 16)))
      let (counts, bs) ← take 16 bs
      let counts := counts.map UInt8.toNat
      let total := counts.foldl (· + ·) 0
      let left := left - 17
      if 256 < total then
        throw (.remark "Encountered Huffman table with excessive length in DHT")
      if left < total then throw (.codes (.cut total left))
      let (symbols, bs) ← take total bs
      let symbols := symbols.map UInt8.toNat
      let code : PrefixCode := ⟨counts, symbols.toArray⟩
      let plain := info / 16 = 0
      if !usable code || (plain && symbols.any (15 < ·)) then throw (.codes .notCode)
      let t := if plain then { t with dc := (place, code) :: t.dc }
        else { t with ac := (place, code) :: t.ac }
      addCodes fuel (left - total) t bs

/-- Whether a share of samples is a power of two. -/
def isShare (n : Nat) : Bool :=
  n = 1 || n = 2 || n = 4 || n = 8

/-- The largest share of samples. -/
def shareLimit : Nat := 4

/-- Reads `n` components, the first of them at the given place. -/
def readComponents : (n place : Nat) → Bytes → Except Flaw (List Component × Bytes)
  | 0, _, bs => .ok ([], bs)
  | n + 1, place, bs => do
    let (data, bs) ← take 3 bs
    let info := fun i => (data[i]?.getD 0 : UInt8).toNat
    let across := info 1 / 16
    let down := info 1 % 16
    if (Role.ofPlace? place).isNone then
      throw (.remark ("Unknown component id found," ++ toString place ++
        ", expected value between 1 and 4"))
    if places ≤ info 2 then
      throw (.remark ("Too large quantization number :" ++ toString (info 2) ++
        ", expected value between 0 and 4"))
    if !isShare across then
      throw (.remark ("Horizontal sample is not a power of two(" ++ toString across ++
        ") cannot decode"))
    if !isShare down then
      throw (.remark ("Vertical sub-sample is not power of two(" ++ toString down ++
        ") cannot decode"))
    if shareLimit < across then
      throw (.remark ("Bogus Horizontal Sampling Factor " ++ toString across))
    if shareLimit < down then
      throw (.remark ("Bogus Vertical Sampling Factor " ++ toString down))
    let (more, bs) ← readComponents n (place + 1) bs
    return (⟨info 0, across, down, info 2, 0, 0⟩ :: more, bs)

/-- What the components stand for once their number is known. -/
def spaceOf (space : Space) (components : Nat) : Space :=
  if components = 1 then .gray
  else if components = 4 ∧ space = .ycc then .cmyk
  else space

/-- Reads a frame segment. -/
def addFrame (t : Tables) (passes : Bool) (bs : Bytes) : Except Flaw (Tables × Bytes) := do
  if t.frame.isSome then throw (.frame .second)
  let (length, bs) ← word bs
  let (precision, bs) ← byte bs
  if precision ≠ 8 then throw (.frame (.precision precision))
  let (height, bs) ← word bs
  let (width, bs) ← word bs
  if width = 0 ∨ height = 0 then throw .zeroSize
  let (n, bs) ← byte bs
  if n = 0 then throw (.frame .noComponents)
  if length ≠ 8 + 3 * n then throw (.frame (.length (8 + 3 * n) length))
  let (components, bs) ← readComponents n 0 bs
  return ({ t with frame := some ⟨width, height, passes, components⟩, space := spaceOf t.space n },
    bs)

/-- The number in the first two bytes, zero if they are not there, and the rest. -/
def wordOrZero : Bytes → Nat × Bytes
  | a :: b :: bs => (Bytes.bigEndian [a, b], bs)
  | _ => (0, [])

/-- The first `n` bytes have to be there. -/
def peek (n : Nat) (bs : Bytes) : Except Flaw Bytes :=
  (take n bs).map Prod.fst

/-- Reads the segment in which an image editor says what the components stand for. -/
def addEditor (t : Tables) (bs : Bytes) : Except Flaw (Tables × Bytes) := do
  let (length, bs) := wordOrZero bs
  if length < 2 then throw (.remark "Too small APP14 length")
  let after := bs.drop (length - 2)
  if (← peek 5 bs) ≠ Bytes.ofText "Adobe" then return (t, after)
  if length < 14 then throw (.remark "Too short of a length for App14 segment")
  let transform := (bs[11]?.getD 0).toNat
  if transform = 0 then return ({ t with space := .cmyk }, after)
  if transform = 1 then return ({ t with space := .ycc }, after)
  if transform = 2 then return ({ t with space := .ycck }, after)
  throw (.remark ("Unknown Adobe colorspace " ++ toString transform))

/-- Data that comes with an image, told by the name in front of it. -/
structure Note where
  name : Bytes
  /-- How long a segment has to be for the name to be looked at. -/
  least : Nat
  /-- The number of bytes between the name and the data. -/
  head : Nat
  /-- What is said of a segment that is too short for them. -/
  complaint : String

namespace Note

/-- How an image was taken. -/
def exposure : Note := ⟨Bytes.ofText "Exif\x00\x00", 7, 0, ""⟩

/-- What an image shows. -/
def description : Note := ⟨Bytes.ofText "http://ns.adobe.com/xap/1.0/\x00", 29, 0, ""⟩

/-- More of that: the data comes in parts, each behind forty bytes that say which it is. -/
def longDescription : Note :=
  ⟨Bytes.ofText "http://ns.adobe.com/xmp/extension/\x00", 35, 40, "Too small Extended XMP segment"⟩

/-- What the colours look like. -/
def colours : Note := ⟨Bytes.ofText "ICC_PROFILE\x00", 15, 2, ""⟩

/-- What a press agency says. -/
def caption : Note := ⟨Bytes.ofText "Photoshop 3.0\x00", 15, 0, ""⟩

/-- The first note whose name is at the front of a segment of so many bytes. -/
def find? (length : Nat) (bs : Bytes) : List Note → Except Flaw (Option Note)
  | [] => .ok none
  | n :: notes =>
    if length < n.least then find? length bs notes
    else do
      if (← peek n.name.length bs) = n.name then return some n
      find? length bs notes

/-- The data of a note has to be there. -/
def check (n : Note) (length : Nat) (bs : Bytes) : Except Flaw Unit := do
  let length := length - n.name.length
  if length < n.head then throw (.remark n.complaint)
  let _ ← peek (length - n.head) (bs.drop (n.name.length + n.head))

end Note

/-- Passes over a segment that may hold one of several notes; `complaint` is what is said of a
length that is too small to count itself. -/
def passNotes (t : Tables) (complaint : String) (notes : List Note) (bs : Bytes) :
    Except Flaw (Tables × Bytes) := do
  let (length, bs) := wordOrZero bs
  if length < 2 then throw (.remark complaint)
  match ← Note.find? (length - 2) bs notes with
  | some n => n.check (length - 2) bs
  | none => pure ()
  return (t, bs.drop (length - 2))

/-- Reads the segment that comes first in a file: it tells the images of a film. -/
def addMaker (t : Tables) (bs : Bytes) : Except Flaw (Tables × Bytes) := do
  let (length, bs) ← word bs
  if length < 2 then
    throw (.remark ("Found a marker with invalid length:" ++ toString length ++ "\n"))
  if length ≤ 5 then return (t, bs.drop (length - 2))
  let (name, bs) ← take 5 bs
  return ({ t with film := t.film || name = Bytes.ofText "AVI1\x00" },
    bs.drop (length - 5 - 2))

/-- Reads the segment that gives the number of units between restart markers. -/
def addRestart (t : Tables) (bs : Bytes) : Except Flaw (Tables × Bytes) := do
  let (length, bs) ← word bs
  if length ≠ 4 then throw (.remark "Bad DRI length, Corrupt JPEG")
  let (n, bs) ← word bs
  return ({ t with restart := n }, bs)

/-- Passes over a segment; `complaint` is what is said of a length that is too small to count
itself. -/
def pass (t : Tables) (complaint : Nat → String) (bs : Bytes) :
    Except Flaw (Tables × Bytes) := do
  let (length, bs) ← word bs
  if length < 2 then throw (.remark (complaint length))
  return (t, bs.drop (length - 2))

/-- Whether a marker is one that is known. -/
def isKnown (marker : UInt8) : Bool :=
  (0xC0 ≤ marker && marker ≤ 0xC2) || marker = 0xC4 || marker = 0xCC ||
    (0xD0 ≤ marker && marker ≤ 0xDD) || (0xE0 ≤ marker && marker ≤ 0xEF) || marker = 0xFE

/-- Takes the segment behind a marker into account. -/
def add (t : Tables) (marker : UInt8) (bs : Bytes) : Except Flaw (Tables × Bytes) :=
  if marker = 0xC0 ∨ marker = 0xC1 then t.addFrame false bs
  else if marker = 0xC2 then t.addFrame true bs
  else if marker = 0xC4 then do
    let (length, bs) ← word bs
    if length < 2 then throw (.remark "Invalid Huffman length in image")
    t.addCodes length (length - 2) bs
  else if marker = 0xCC then
    throw (.remark "Parsing of the following header `DAC` is not supported,cannot continue")
  else if marker = 0xD9 then throw (.remark "Premature End of image")
  else if marker = 0xDB then do
    let (length, bs) ← word bs
    if length < 2 then
      throw (.remark "Invalid DQT length. Length should be greater than 2")
    t.addSteps length (length - 2) bs
  else if marker = 0xDC then
    throw (.remark "Parsing of the following header `DNL` is not supported,cannot continue")
  else if marker = 0xDD then t.addRestart bs
  else if marker = 0xE0 then t.addMaker bs
  else if marker = 0xE1 then
    t.passNotes "Too small app1 length" [.exposure, .description, .longDescription] bs
  else if marker = 0xE2 then t.passNotes "Too small app2 segment" [.colours] bs
  else if marker = 0xED then t.passNotes "Too small APP13 length" [.caption] bs
  else if marker = 0xEE then t.addEditor bs
  else if isKnown marker then
    t.pass (fun n => "Found a marker with invalid length:" ++ toString n ++ "\n") bs
  else t.pass (fun n => "Found a marker with invalid length : " ++ toString n) bs

/-- Reads the components of a scan; `seen` holds the numbers of those before. Gives their
places in the frame, and the components with the code tables that the scan assigns. -/
def readPlaces : (n : Nat) → (seen : List Nat) → List Component → Bytes →
    Except Flaw (List Nat × List Component × Bytes)
  | 0, _, components, bs => .ok ([], components, bs)
  | n + 1, seen, components, bs => do
    let (id, bs) ← byte bs
    if seen.contains id then throw (.frame (.repeated id))
    let (codes, bs) ← byte bs
    match components.findIdx? (·.id = id) with
    | none => throw (.frame (.stranger id (components.map Component.id)))
    | some i =>
      let components := components.modify i fun c => { c with dc := codes / 16, ac := codes % 16 }
      let (places, components, bs) ← readPlaces n (id :: seen) components bs
      return (i :: places, components, bs)

/-- Reads the head of a scan. -/
def readScan (t : Tables) (bs : Bytes) : Except Flaw (Tables × Scan × Bytes) := do
  let (length, bs) ← word bs
  let (n, bs) ← byte bs
  if length ≠ 6 + 2 * n then throw (.scan (.length length))
  if n = 0 ∨ 4 < n then throw (.scan (.components n))
  match t.frame with
  | none =>
    throw (.remark "Error decoding SOF Marker, Number of components cannot be zero.")
  | some frame =>
    let (places, components, bs) ← readPlaces n [] frame.components bs
    let (first, bs) ← byte bs
    let (last, bs) ← byte bs
    let (bits, bs) ← byte bs
    if 63 < last then throw (.scan (.lastWave last))
    if 63 < first then throw (.scan (.firstWave first))
    -- The low bit is taken over after this check, so the message shows its starting value.
    if 13 < bits / 16 then throw (.scan (.highBit 0))
    if 13 < bits % 16 then throw (.scan (.lowBit (bits % 16)))
    let band : Band := if frame.passes then ⟨first, last, bits / 16, bits % 16⟩ else .whole
    return ({ t with frame := some { frame with components } }, ⟨places, band⟩, bs)

/-- Passes over what fills the space between an `FF` and its marker. Gives the last byte that
was passed, the next one, and the rest. -/
def skipFill : (last : UInt8) → Bytes → Except Flaw (UInt8 × UInt8 × Bytes)
  | _, [] => .error (.tooShort 1 0)
  | last, m :: bs => if m = 0xFF ∨ m = 0 then skipFill m bs else .ok (last, m, bs)

/-- Reads segments up to the head of a scan, that included. Gives the tables, the scan, and
the bytes of the coded blocks. -/
def readToScan : (fuel : Nat) → (last : UInt8) → Tables → Bytes →
    Except Flaw (Tables × Scan × Bytes)
  | 0, _, _, _ => .error (.tooShort 1 0)
  | _, _, _, [] => .error (.tooShort 1 0)
  | fuel + 1, last, t, m :: bs =>
    if last ≠ 0xFF then readToScan fuel m t bs
    else do
      let (last, m, bs) ← skipFill last (m :: bs)
      if last ≠ 0xFF then readToScan fuel m t bs
      else if m = 0xDA then readScan t bs
      else
        let (t, bs) ← t.add m bs
        readToScan fuel m t bs

/-- Reads everything before the coded blocks. -/
def ofFile (file : Bytes) : Except Flaw (Tables × Scan × Bytes) := do
  let (start, bs) ← word file
  if start ≠ 0xFFD8 then throw (.badStart start)
  readToScan (bs.length + 1) 0 .empty bs

end Tables

end ScanBinder.Jpeg
