import ScanBinder.Path

/-!
# Image formats

The format of a file is recognised by its first bytes and, failing that, guessed from the
extension of its name. Not every format that is recognised can be decoded.
-/

namespace ScanBinder

inductive ImageFormat where
  | png
  | jpeg
  | gif
  | webp
  | tiff
  | dds
  | bmp
  | ico
  | hdr
  | avif
  | openExr
  | qoi
  | pnm
  | farbfeld
  | tga
deriving DecidableEq

namespace ImageFormat

def name : ImageFormat → String
  | png => "Png"
  | jpeg => "Jpeg"
  | gif => "Gif"
  | webp => "WebP"
  | tiff => "Tiff"
  | dds => "Dds"
  | bmp => "Bmp"
  | ico => "Ico"
  | hdr => "Hdr"
  | avif => "Avif"
  | openExr => "OpenExr"
  | qoi => "Qoi"
  | pnm => "Pnm"
  | farbfeld => "Farbfeld"
  | tga => "Tga"

/-- A pattern of bytes, in which nothing stands for any byte. -/
abbrev Signature := List (Option UInt8)

/-- The signature of a text. -/
def exactly (s : String) : Signature :=
  (Bytes.ofText s).map some

/-- The signatures in the order in which they are tried. -/
def signatures : List (Signature × ImageFormat) :=
  [([0x89, 0x50, 0x4E, 0x47, 0x0D, 0x0A, 0x1A, 0x0A].map some, png),
    ([0xFF, 0xD8, 0xFF].map some, jpeg),
    (exactly "GIF89a", gif),
    (exactly "GIF87a", gif),
    (exactly "RIFF" ++ List.replicate 4 none ++ exactly "WEBP", webp),
    ([0x4D, 0x4D, 0x00, 0x2A].map some, tiff),
    ([0x49, 0x49, 0x2A, 0x00].map some, tiff),
    (exactly "DDS ", dds),
    (exactly "BM", bmp),
    ([0x00, 0x00, 0x01, 0x00].map some, ico),
    (exactly "#?RADIANCE", hdr),
    ([some 0x00, some 0x00, none, none] ++ exactly "ftypavif", avif),
    ([0x76, 0x2F, 0x31, 0x01].map some, openExr),
    (exactly "qoif", qoi),
    (exactly "P1", pnm),
    (exactly "P2", pnm),
    (exactly "P3", pnm),
    (exactly "P4", pnm),
    (exactly "P5", pnm),
    (exactly "P6", pnm),
    (exactly "P7", pnm),
    (exactly "farbfeld", farbfeld)]

/-- Whether a byte string starts with a signature. -/
def startsWith : Signature → Bytes → Bool
  | [], _ => true
  | _ :: _, [] => false
  | s :: ss, b :: bs => (s = none || s = some b) && startsWith ss bs

/-- The number of bytes that signatures are compared with. -/
def signatureLimit : Nat := 16

/-- The format that the first bytes of a content show. -/
def ofContent? (content : Bytes) : Option ImageFormat :=
  (signatures.find? fun s => startsWith s.1 (content.take signatureLimit)).map (·.2)

/-- The extensions of the formats. -/
def extensions : List (String × ImageFormat) :=
  [("png", png), ("apng", png), ("jpg", jpeg), ("jpeg", jpeg), ("jfif", jpeg), ("gif", gif),
    ("webp", webp), ("tif", tiff), ("tiff", tiff), ("dds", dds), ("bmp", bmp), ("ico", ico),
    ("hdr", hdr), ("avif", avif), ("exr", openExr), ("qoi", qoi), ("pbm", pnm), ("pam", pnm),
    ("ppm", pnm), ("pgm", pnm), ("pnm", pnm), ("ff", farbfeld), ("tga", tga)]

/-- The format that the extension of a path stands for. -/
def ofPath? (p : Path) : Option ImageFormat :=
  (Path.lowerExtension? p).bind fun e =>
    (extensions.find? fun x => Bytes.ofText x.1 = e).map (·.2)

/-- The format of a file: what its content shows, else what its name says. -/
def ofFile? (p : Path) (content : Bytes) : Option ImageFormat :=
  (ofContent? content).or (ofPath? p)

end ImageFormat

end ScanBinder
