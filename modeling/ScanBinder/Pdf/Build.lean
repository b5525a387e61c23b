import ScanBinder.Config
import ScanBinder.Image.Jpeg.Encode
import ScanBinder.Moment
import ScanBinder.PageSize
import ScanBinder.Pdf.Write

/-!
# Binding images into a document

Each image becomes a page that it fills. Objects are numbered in the order in which they
are asked for. The page tree asks first, so that pages can refer to it, but it is put in
its place only when all pages have their numbers; then come the catalog and the information
dictionary.
-/

namespace ScanBinder.Pdf

/-- An entry of a dictionary whose key is given as text. -/
def entry (key : String) (v : Value) : Bytes × Value :=
  (Bytes.ofText key, v)

def nameValue (s : String) : Value :=
  .name (Bytes.ofText s)

/-- A reference to an object of the first generation. -/
def refTo (number : Nat) : Value :=
  .ref ⟨number, 0⟩

/-- A stream whose dictionary gives the length of its data. -/
def streamOf (dict : Dict) (data : Bytes) (compressible : Bool) : Stream :=
  ⟨Dict.set dict (Bytes.ofText "Length") (.int data.length), data, compressible⟩

/-- The dictionary of an image. -/
def imageDict (image : Raster (Rgb UInt8)) : Dict :=
  [entry "Type" (nameValue "XObject"), entry "Subtype" (nameValue "Image"),
    entry "Width" (.int image.width), entry "Height" (.int image.height),
    entry "ColorSpace" (nameValue "DeviceRGB"), entry "BitsPerComponent" (.int 8)]

/-- An image as a stream. -/
def imageStream (encoding : PageEncoding) (image : Raster (Rgb UInt8)) :
    Except Jpeg.SizeFault Stream :=
  match encoding with
  | .flate => .ok (streamOf (imageDict image) image.rgbBytes true)
  | .jpeg quality =>
    (Jpeg.encode quality image).map fun data =>
      streamOf (imageDict image ++ [entry "Filter" (nameValue "DCTDecode")]) data false

/-- An operation of a drawing: its operands and what is done with them. -/
structure Operation where
  operator : String
  operands : List Value

/-- An operation as it is written: a space follows each operand. -/
def Operation.bytes (o : Operation) : Bytes :=
  (o.operands.flatMap fun v => v.bytes ++ [0x20]) ++ Bytes.ofText o.operator

/-- Operations, each on a line of its own. -/
def drawingBytes (operations : List Operation) : Bytes :=
  [0x0A].intercalate (operations.map Operation.bytes)

/-- The drawing of a page: the unit square of the image is stretched over the page. -/
def pageDrawing (width height : Single) : List Operation :=
  let zero := Value.real ⟨false, 0⟩
  [⟨"q", []⟩, ⟨"cm", [.real width, zero, zero, .real height, zero, zero]⟩,
    ⟨"Do", [nameValue "Im0"]⟩, ⟨"Q", []⟩]

/-- The page below the page tree `pages`, with the given drawing and image. -/
def pageDict (pages drawing image : Nat) (width height : Single) : Dict :=
  [entry "Type" (nameValue "Page"), entry "Parent" (refTo pages),
    entry "MediaBox" (.array [.int 0, .int 0, .real width, .real height]),
    entry "Contents" (refTo drawing),
    entry "Resources" (.dict [entry "XObject" (.dict [entry "Im0" (refTo image)])])]

/-- The page tree of the pages with the given numbers. -/
def pagesDict (kids : List Nat) : Dict :=
  [entry "Type" (nameValue "Pages"), entry "Count" (.int kids.length),
    entry "Kids" (.array (kids.map refTo))]

def catalogDict (pages : Nat) : Dict :=
  [entry "Type" (nameValue "Catalog"), entry "Pages" (refTo pages)]

/-- What calls itself the producer of a document. -/
def producer : String := "images-to-pdf 0.1.0"

/-- Producer, dates, and title and author if there are any. -/
def infoDict (options : DocumentOptions) (now : Moment) : Dict :=
  let text := fun s => Value.str (Bytes.ofText s)
  [entry "Producer" (text producer), entry "CreationDate" (text now.documentText),
    entry "ModDate" (text now.documentText)] ++
    (options.title.map fun s => entry "Title" (text s)).toList ++
    (options.author.map fun s => entry "Author" (text s)).toList

/-- A document in the making: the number that was given out last, and the objects so far in
the order of their numbers. -/
structure Draft where
  last : Nat
  objects : List (ObjectId × Object)

/-- Puts an object among others that are in the order of their numbers, in the place of one
with the same number if there is one. -/
def insertObject (number : Nat) (o : Object) : List (ObjectId × Object) → List (ObjectId × Object)
  | [] => [(⟨number, 0⟩, o)]
  | (id, old) :: rest =>
    if number < id.number then (⟨number, 0⟩, o) :: (id, old) :: rest
    else if number = id.number then (⟨number, 0⟩, o) :: rest
    else (id, old) :: insertObject number o rest

namespace Draft

def empty : Draft := ⟨0, []⟩

/-- Gives out a number for an object that is still to be made. -/
def reserve (d : Draft) : Nat × Draft :=
  (d.last + 1, { d with last := d.last + 1 })

/-- Puts an object in the place of its number. -/
def put (d : Draft) (number : Nat) (o : Object) : Draft :=
  { d with objects := insertObject number o d.objects }

/-- Puts an object in the place of the next number, and gives the number. -/
def add (d : Draft) (o : Object) : Nat × Draft :=
  let (number, d) := d.reserve
  (number, d.put number o)

/-- Adds the page of an image below the page tree `pages`, and gives its number. -/
def addPage (options : DocumentOptions) (pages : Nat) (image : Raster (Rgb UInt8)) (d : Draft) :
    Except Jpeg.SizeFault (Nat × Draft) := do
  let s ← imageStream options.encoding image
  let (picture, d) := d.add (.stream s)
  let box := (PageSize.ofImage image.width image.height options.resolution).mediaBox
  let drawing := drawingBytes (pageDrawing box.right box.top)
  let (content, d) := d.add (.stream (streamOf [] drawing true))
  return d.add (.value (.dict (pageDict pages content picture box.right box.top)))

/-- Adds the pages of images one after another, and gives their numbers. -/
def addPages (options : DocumentOptions) (pages : Nat) :
    List (Raster (Rgb UInt8)) → Draft → Except Jpeg.SizeFault (List Nat × Draft)
  | [], d => .ok ([], d)
  | image :: images, d => do
    let (page, d) ← d.addPage options pages image
    let (more, d) ← d.addPages options pages images
    return (page :: more, d)

/-- Puts the page tree in its place and adds the catalog and the information dictionary. -/
def finish (d : Draft) (options : DocumentOptions) (now : Moment) (pages : Nat)
    (kids : List Nat) : Document :=
  let d := d.put pages (.value (.dict (pagesDict kids)))
  let (catalog, d) := d.add (.value (.dict (catalogDict pages)))
  let (info, d) := d.add (.value (.dict (infoDict options now)))
  { version := "1.5"
    objects := d.objects
    trailer := [entry "Root" (refTo catalog), entry "Info" (refTo info)] }

end Draft

/-- The number of the page of the image at a place: three objects are made for each image,
and the page is the last of them. -/
def pageNumber (index : Nat) : Nat :=
  3 * index + 4

/-- Why images could not be bound. -/
inductive BuildFault where
  | noImages
  | encode (f : Jpeg.SizeFault)
deriving DecidableEq

/-- Binds images into a document that says it was made `now`. -/
def build (options : DocumentOptions) (now : Moment) (images : List (Raster (Rgb UInt8))) :
    Except BuildFault Document :=
  if images.isEmpty then .error .noImages
  else
    let (pages, d) := Draft.empty.reserve
    match d.addPages options pages images with
    | .error f => .error (.encode f)
    | .ok (kids, d) => .ok (d.finish options now pages kids)

end ScanBinder.Pdf
