import ScanBinder.Image.Jpeg.Flaw

/-!
# Directories of TIFF files

A TIFF file names its byte order, and a directory of tagged fields describes the image. A
field has a type and a number of values; values that do not fit into the field stand
elsewhere in the file. Large files have wider numbers.
-/

namespace ScanBinder.Tiff

/-- The fields that an image depends on. -/
inductive Tag where
  | width
  | height
  | bitsPerSample
  | compression
  | photometric
  | stripOffsets
  | samplesPerPixel
  | rowsPerStrip
  | stripByteCounts
  | planarConfiguration
  | predictor
  | tileWidth
  | tileHeight
  | tileOffsets
  | tileByteCounts
  | extraSamples
  | sampleFormat
  | jpegTables
  | chromaSubsampling
deriving DecidableEq

namespace Tag

def code : Tag → Nat
  | width => 256
  | height => 257
  | bitsPerSample => 258
  | compression => 259
  | photometric => 262
  | stripOffsets => 273
  | samplesPerPixel => 277
  | rowsPerStrip => 278
  | stripByteCounts => 279
  | planarConfiguration => 284
  | predictor => 317
  | tileWidth => 322
  | tileHeight => 323
  | tileOffsets => 324
  | tileByteCounts => 325
  | extraSamples => 338
  | sampleFormat => 339
  | jpegTables => 347
  | chromaSubsampling => 530

def text : Tag → String
  | width => "ImageWidth"
  | height => "ImageLength"
  | bitsPerSample => "BitsPerSample"
  | compression => "Compression"
  | photometric => "PhotometricInterpretation"
  | stripOffsets => "StripOffsets"
  | samplesPerPixel => "SamplesPerPixel"
  | rowsPerStrip => "RowsPerStrip"
  | stripByteCounts => "StripByteCounts"
  | planarConfiguration => "PlanarConfiguration"
  | predictor => "Predictor"
  | tileWidth => "TileWidth"
  | tileHeight => "TileLength"
  | tileOffsets => "TileOffsets"
  | tileByteCounts => "TileByteCounts"
  | extraSamples => "ExtraSamples"
  | sampleFormat => "SampleFormat"
  | jpegTables => "JPEGTables"
  | chromaSubsampling => "ChromaSubsampling"

end Tag

/-- What can be wrong with a TIFF file. -/
inductive Flaw where
  | ended
  | badPlace
  | noSignature
  | badSignature
  | cycle
  | badDimensions (width height : Nat)
  | missing (tag : Tag)
  | badType
  | badText
  | badValue (tag : Tag)
  | badCount (tag : Tag) (n : Nat)
  | tooLarge
  | noSamples
  | inconsistentSizes
  | unknownPredictor (n : Nat)
  | unknownPlanes (n : Nat)
  | conflictingChunks
  /-- A feature that is not supported. -/
  | unsupported (feature : String)
  /-- Pixels of so many bits that are not supported. -/
  | unknownColour (bits : Nat)
  | badCodes
  | noEndCode
  | corruptData
  | badLine
  /-- What is wrong with a JPEG image inside. -/
  | jpeg (f : Jpeg.Flaw)
  | overLimit
deriving DecidableEq

namespace Flaw

def kind : Flaw → FaultKind
  | ended => .io
  | badPlace => .io
  | badCodes => .io
  | noEndCode => .io
  | corruptData => .io
  | badLine => .io
  | unsupported _ => .unsupported
  | unknownColour _ => .unsupported
  | overLimit => .limits
  | _ => .decoding

/-- What the file does wrong, if it breaks the rules of the format. -/
def breach? : Flaw → Option String
  | noSignature => some "TIFF signature not found"
  | badSignature => some "TIFF signature invalid"
  | cycle => some "file contained a cycle in the list of IFDs"
  | badDimensions w h => some ("invalid dimensions: " ++ toString w ++ "x" ++ toString h)
  | missing tag => some ("required tag `" ++ tag.text ++ "` not found")
  | badType => some "tag has invalid type"
  | badText => some "image contains invalid tag"
  | badValue tag => some ("tag `" ++ tag.text ++ "` did not have the expected value type")
  | badCount tag n =>
    some ("tag `" ++ tag.text ++ "` with incorrect number of elements (" ++ toString n ++
      ") encountered")
  | noSamples => some "samples per pixel is zero"
  | inconsistentSizes => some "inconsistent sizes encountered"
  | unknownPredictor n => some ("unknown predictor “" ++ toString n ++ "” encountered")
  | unknownPlanes n => some ("unknown planar configuration “" ++ toString n ++ "” encountered")
  | conflictingChunks =>
    some ("file should contain either (StripByteCounts and StripOffsets) or (TileByteCounts and " ++
      "TileOffsets), other combination was found")
  | jpeg f => some f.text
  | _ => none

def text (f : Flaw) : String :=
  match f.breach? with
  | some s => "format error: " ++ s
  | none =>
    match f with
    | unsupported feature => feature
    | tooLarge => "platform or format size limits exceeded"
    | badCodes => "invalid code in LZW stream"
    | noEndCode => "no lzw end code found"
    | corruptData => "corrupt deflate stream"
    | badLine => "Decode Error"
    | badPlace => "Invalid argument (os error 22)"
    | unknownColour n =>
      "The encoder or decoder for Tiff does not support the color type `Unknown(" ++ toString n ++
        ")`"
    | overLimit => "Memory limit exceeded"
    | _ => "failed to fill whole buffer"

/-- The causes below a flaw of decoding. -/
def causes (f : Flaw) : List String :=
  f.breach?.toList

end Flaw

/-- Which byte of a number comes first. -/
inductive Order where
  | little
  | big
deriving DecidableEq

/-- The number in a byte string. -/
def Order.number (o : Order) (bs : Bytes) : Nat :=
  match o with
  | .little => Bytes.littleEndian bs
  | .big => Bytes.bigEndian bs

/-- The number in the `n` bytes from an offset on. -/
def numberAt (o : Order) (file : Bytes) (offset n : Nat) : Except Flaw Nat :=
  let bs := (file.drop offset).take n
  if bs.length < n then .error .ended else .ok (o.number bs)

/-- The largest offset that a file can have. -/
def offsetLimit : Nat := 0xFFFFFFFF000

/-- Goes to an offset, which may lie behind the end of the file. -/
def goTo (offset : Nat) : Except Flaw Unit :=
  if offsetLimit < offset then .error .badPlace else .ok ()

/-- The types of values, as far as they matter. -/
inductive FieldType where
  /-- Whole numbers of so many bytes. -/
  | unsigned (bytes : Nat)
  /-- Places of directories, also of so many bytes. -/
  | place (bytes : Nat)
  /-- The characters of a text. -/
  | text
  /-- Pairs of whole numbers of four bytes. -/
  | ratio
  /-- Anything else, of so many bytes. -/
  | other (bytes : Nat)
deriving DecidableEq

namespace FieldType

/-- The type with a number, if there is one. -/
def ofCode? (n : Nat) : Option FieldType :=
  if n = 1 ∨ n = 7 then some (.unsigned 1)
  else if n = 2 then some .text
  else if n = 3 then some (.unsigned 2)
  else if n = 4 then some (.unsigned 4)
  else if n = 5 then some .ratio
  else if n = 16 then some (.unsigned 8)
  else if n = 13 then some (.place 4)
  else if n = 18 then some (.place 8)
  else if n = 6 then some (.other 1)
  else if n = 8 then some (.other 2)
  else if n = 9 ∨ n = 11 then some (.other 4)
  else if n = 10 ∨ n = 12 ∨ n = 17 then some (.other 8)
  else none

/-- The number of bytes of a value. -/
def bytes : FieldType → Nat
  | unsigned n => n
  | place n => n
  | text => 1
  | ratio => 8
  | other n => n

/-- The number of bytes of each number in a value. -/
def unit : FieldType → Nat
  | ratio => 4
  | type => type.bytes

end FieldType

/-- A field of the directory: tag, type and number of its values, and the place of the bytes
that hold them or say where they are. -/
structure Field where
  tag : Nat
  type : FieldType
  count : Nat
  place : Nat

/-- A parsed file: its byte order, the width of its offsets, its bytes and its fields. -/
structure Directory where
  order : Order
  offsetBytes : Nat
  file : Bytes
  fields : List Field

/-- The fields of a directory of `n` entries; those in `done` come first, the last in front. A
field of an unknown type is left out. -/
def readFields (o : Order) (wide : Bool) (file : Bytes) : (n offset : Nat) → List Field →
    Except Flaw (List Field)
  | 0, _, done => .ok done.reverse
  | n + 1, offset, done => do
    let size := if wide then 8 else 4
    let tag ← numberAt o file offset 2
    let code ← numberAt o file (offset + 2) 2
    let count ← numberAt o file (offset + 4) size
    let _ ← numberAt o file (offset + 4 + size) size
    let done := match FieldType.ofCode? code with
      | some type => ⟨tag, type, count, offset + 4 + size⟩ :: done
      | none => done
    readFields o wide file n (offset + 4 + 2 * size) done

/-- The width of offsets, and where the offset of the first directory stands. -/
def readSignature (o : Order) (file : Bytes) : Except Flaw (Bool × Nat) := do
  let signature ← numberAt o file 2 2
  if signature = 42 then return (false, 4)
  else if signature = 43 then
    if (← numberAt o file 4 2) ≠ 8 then throw .noSignature
    if (← numberAt o file 6 2) ≠ 0 then throw .noSignature
    return (true, 8)
  else throw .badSignature

namespace Directory

/-- Reads byte order, signature and the first directory, which must not be its own
successor. -/
def read (file : Bytes) : Except Flaw Directory := do
  let order ←
    match file.take 2 with
    | [0x49, 0x49] => pure Order.little
    | [0x4D, 0x4D] => pure Order.big
    | _ => throw .noSignature
  let (wide, start) ← readSignature order file
  let size := if wide then 8 else 4
  let offset ← numberAt order file start size
  goTo offset
  let countSize := if wide then 8 else 2
  let count ← numberAt order file offset countSize
  let first := offset + countSize
  let fields ← readFields order wide file (min count (file.length + 1)) first []
  let next ← numberAt order file (first + count * (4 + 2 * size)) size
  if next = offset then throw .cycle
  return ⟨order, size, file, fields⟩

/-- The field of a tag, of several the last. -/
def field? (d : Directory) (tag : Tag) : Option Field :=
  d.fields.reverse.find? (·.tag = tag.code)

/-- Whether there is a field of a tag. -/
def has (d : Directory) (tag : Tag) : Bool :=
  (d.field? tag).isSome

/-- The most values that a field may have elsewhere in the file. -/
def valueLimit (type : FieldType) : Nat :=
  if type = .text then 256 * 1024 * 1024 else 8 * 1024 * 1024

/-- The bytes of a field with values. -/
def valueBytes (d : Directory) (f : Field) : Except Flaw Bytes := do
  let n := f.type.bytes
  let inField := f.count * n ≤ d.offsetBytes
  if !inField && valueLimit f.type < f.count then throw .overLimit
  let start ← if inField then pure f.place else numberAt d.order d.file f.place d.offsetBytes
  goTo start
  match Bytes.split? (f.count * n) (d.file.drop start) with
  | some (bs, _) => return bs
  | none => throw .ended

/-- The characters of a text. In the field itself a text has to end with zeros, which do not
count; elsewhere a zero ends it. -/
def textBytes (d : Directory) (f : Field) (bs : Bytes) : Except Flaw (List Nat) :=
  if f.count ≤ d.offsetBytes then
    if bs.all (· < 128) && bs.getLast? = some 0 then
      .ok (((bs.dropWhile (· = 0)).reverse.dropWhile (· = 0)).reverse.map UInt8.toNat)
    else .error .badText
  else
    match Bytes.toText? (bs.takeWhile (· ≠ 0)) with
    | some text => .ok (text.toList.map Char.toNat)
    | none => .error .badText

/-- Parts of `n` bytes as numbers; those in `done` come first, the last in front. -/
def cutNumbers (o : Order) (n : Nat) : (fuel : Nat) → (done : List Nat) → Bytes → List Nat
  | 0, done, _ => done.reverse
  | _, done, [] => done.reverse
  | fuel + 1, done, bs => cutNumbers o n fuel (o.number (bs.take n) :: done) (bs.drop n)

/-- The values of a field as numbers. -/
def numbers (d : Directory) (f : Field) : Except Flaw (List Nat) := do
  if f.count = 0 then return []
  let bs ← d.valueBytes f
  if f.type = .text then d.textBytes f bs
  else return cutNumbers d.order f.type.unit bs.length [] bs

/-- The values of a tag, if it is there. They have to be whole numbers; the characters of a
text and the two numbers of a single ratio count as such. -/
def values? (d : Directory) (tag : Tag) : Except Flaw (Option (List Nat)) :=
  match d.field? tag with
  | none => .ok none
  | some f => do
    let ns ← d.numbers f
    match f.type with
    | .other _ => if f.count = 0 then return some [] else throw .badType
    | .ratio => if f.count ≤ 1 then return some ns else throw .badType
    | _ => return some ns

/-- The values of a tag, which have to be below a limit. -/
def valuesBelow? (d : Directory) (limit : Nat) (tag : Tag) : Except Flaw (Option (List Nat)) := do
  match ← d.values? tag with
  | some ns => if ns.all (· < limit) then return some ns else throw (.badValue tag)
  | none => return none

/-- The only value of a tag, if the tag is there. It has to be of one of the given types. -/
def value? (d : Directory) (allows : FieldType → Bool) (limit : Nat) (tag : Tag) :
    Except Flaw (Option Nat) :=
  match d.field? tag with
  | none => .ok none
  | some f => do
    match ← d.numbers f with
    | [n] =>
      if f.count ≠ 1 || !allows f.type then throw .badType
      else if n < limit then return some n
      else throw .tooLarge
    | _ => throw .badType

/-- Whether values of a type are whole numbers. -/
def isWhole : FieldType → Bool
  | .unsigned _ => true
  | _ => false

/-- Whether values of a type are whole numbers or places. -/
def isWholeOrPlace : FieldType → Bool
  | .unsigned _ => true
  | .place _ => true
  | _ => false

/-- The only value of a tag that is a number of 16 bits. -/
def word? (d : Directory) (tag : Tag) : Except Flaw (Option Nat) :=
  d.value? isWhole 65536 tag

/-- The only value of a tag that is a number of 32 bits. -/
def long? (d : Directory) (tag : Tag) : Except Flaw (Option Nat) :=
  d.value? isWholeOrPlace 4294967296 tag

/-- The number of 32 bits of a tag that has to be there. -/
def long (d : Directory) (tag : Tag) : Except Flaw Nat := do
  match ← d.long? tag with
  | some n => return n
  | none => throw (.missing tag)

end Directory

end ScanBinder.Tiff
