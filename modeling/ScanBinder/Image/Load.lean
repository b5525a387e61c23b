import ScanBinder.Files.Tree
import ScanBinder.Image.Bmp
import ScanBinder.Image.Format
import ScanBinder.Image.Gif
import ScanBinder.Image.Jpeg.Decode
import ScanBinder.Image.Png
import ScanBinder.Image.Tiff

/-!
# Loading images

A file is read, its format found out, and its picture decoded. For a page the picture is
reduced to opaque colour. A picture with a palette keeps the colours of its palette: its
alpha is dropped. Any other coloured picture with alpha is laid over white.
-/

namespace ScanBinder

/-- Why an image could not be loaded. -/
inductive ImageFault where
  | unreadable (e : PathError)
  | unknownExtension (extension : Name)
  | unknownFormat
  | noDecoder (format : ImageFormat)
  | png (flaw : Png.Flaw)
  | gif (flaw : Gif.Flaw)
  | bmp (flaw : Bmp.Flaw)
  | tiff (flaw : Tiff.Flaw)
  | jpeg (flaw : Jpeg.Flaw)
deriving DecidableEq

namespace ImageFault

def kind : ImageFault → FaultKind
  | unreadable _ => .io
  | unknownExtension _ => .unsupported
  | unknownFormat => .unsupported
  | noDecoder _ => .unsupported
  | png f => f.kind
  | gif f => f.kind
  | bmp f => f.kind
  | tiff f => f.kind
  | jpeg f => f.kind

/-- The text of a flaw of the given kind in a file of the given format. -/
def inFormat (format : ImageFormat) (kind : FaultKind) (detail : String) : String :=
  match kind with
  | .decoding => "Format error decoding " ++ format.name ++ ": " ++ detail
  | .unsupported =>
    "The decoder for " ++ format.name ++ " does not support the format features " ++ detail
  | _ => detail

def text : ImageFault → String
  | unreadable e => e.text
  | unknownExtension e =>
    "The file extension `." ++ quotedBytes e ++ "` was not recognized as an image format"
  | unknownFormat => "The image format could not be determined"
  | noDecoder f => "The image format " ++ f.name ++ " is not supported"
  | png f => inFormat .png f.kind f.text
  | gif f => inFormat .gif f.kind f.text
  | bmp f => inFormat .bmp f.kind f.text
  | tiff (.unknownColour n) => (Tiff.Flaw.unknownColour n).text
  | tiff f => inFormat .tiff f.kind f.text
  | jpeg f => inFormat .jpeg f.kind f.text

/-- What lies below a flaw, outermost first: a flaw of decoding by itself, and what it says
about its own causes. -/
def causes : ImageFault → List String
  | png f => if f.kind = .decoding then [f.text] else []
  | gif f => if f.kind = .decoding then f.text :: f.causes else []
  | bmp f => if f.kind = .decoding then [f.text] else []
  | tiff f => if f.kind = .decoding then f.text :: f.causes else []
  | jpeg f => if f.kind = .decoding then [f.text] else []
  | _ => []

end ImageFault

/-- A decoded picture and the format it was decoded from. -/
structure Decoded where
  picture : Picture
  format : ImageFormat

/-- Decodes a content of the given format. -/
def decodeAs (format : ImageFormat) (content : Bytes) : Except ImageFault Picture :=
  match format with
  | .png => (Png.decode content).mapError .png
  | .gif => (Gif.decode content).mapError .gif
  | .bmp => (Bmp.decode content).mapError .bmp
  | .tiff => (Tiff.decode content).mapError .tiff
  | .jpeg => (Jpeg.decode content).mapError .jpeg
  | f => .error (.noDecoder f)

/-- Decodes the content of the file at a path. -/
def decodeFile (p : Path) (content : Bytes) : Except ImageFault Decoded :=
  match ImageFormat.ofFile? p content with
  | some format => (decodeAs format content).map (⟨·, format⟩)
  | none =>
    match Path.extension? p with
    | none | some [] => .error .unknownFormat
    | some e => .error (.unknownExtension e)

/-- Whether the colours of a content come from a palette. -/
def isPaletteBased (format : ImageFormat) (content : Bytes) : Bool :=
  match format with
  | .gif => true
  | .png => Png.isIndexed content
  | _ => false

/-- A picture as it was loaded, and whether its colours come from a palette. -/
structure Loaded where
  picture : Picture
  paletteBased : Bool

/-- The opaque raster of a loaded picture. -/
def Loaded.raster (l : Loaded) : Raster (Rgb UInt8) :=
  if l.paletteBased then l.picture.dropAlpha else l.picture.toRgb

/-- Loads the content of the file at a path. -/
def loadContent (p : Path) (content : Bytes) : Except ImageFault Loaded :=
  (decodeFile p content).map fun d => ⟨d.picture, isPaletteBased d.format content⟩

namespace FileTree

/-- Reads the file at a path for an image. -/
def readImage (t : FileTree) (p : Path) : Except ImageFault Bytes :=
  (t.read p).mapError .unreadable

/-- The picture in the file at a path. -/
def loadImage (t : FileTree) (p : Path) : Except ImageFault Picture := do
  let content ← t.readImage p
  return (← decodeFile p content).picture

/-- The picture in the file at a path, with what is needed to reduce it. -/
def load (t : FileTree) (p : Path) : Except ImageFault Loaded := do
  let content ← t.readImage p
  loadContent p content

/-- The opaque raster of the picture in the file at a path. -/
def loadRgb (t : FileTree) (p : Path) : Except ImageFault (Raster (Rgb UInt8)) :=
  (t.load p).map Loaded.raster

/-- Whether a file of the given format takes its colours from a palette. A file that
cannot be read does not. -/
def isPaletteFile (t : FileTree) (p : Path) (format : Option ImageFormat) : Bool :=
  match format with
  | some .gif => true
  | some f =>
    match t.read p with
    | .ok content => isPaletteBased f content
    | .error _ => false
  | none => false

end FileTree

end ScanBinder
