import ScanBinder.Config
import ScanBinder.Image.Jpeg.Encode
import ScanBinder.Image.Load
import ScanBinder.Pdf.Object

/-!
# Failures

Everything that can end a run, by its cause, and the words for it.
-/

namespace ScanBinder

/-- Causes without a kind of their own. -/
inductive GeneralFault where
  | noInputFiles
  | noImages
  | noCatalog
  | pagesNotReference
  | noPages
  | badCount (n : Int)
  | countNotInteger
  | noCount
  | badMediaBox (entries : Nat)
deriving DecidableEq

def GeneralFault.text : GeneralFault → String
  | noInputFiles => "No input files provided"
  | noImages => "No images to encode"
  | noCatalog => "No catalog in trailer"
  | pagesNotReference => "Pages is not a reference"
  | noPages => "No Pages in catalog"
  | badCount n => "Invalid page Count: " ++ toString n
  | countNotInteger => "Count is not an integer"
  | noCount => "No Count in Pages"
  | badMediaBox n => "MediaBox has " ++ toString n ++ " entries, expected 4"

inductive Failure where
  | pdf (f : Pdf.Fault)
  | io (e : PathError)
  | image (path : Path) (f : ImageFault)
  | encode (f : Jpeg.SizeFault)
  | folderNotFound (path : Path)
  | fileNotFound (path : Path)
  | emptyPdf (path : Path)
  | noReadableImages (path : Path)
  | invalidConfig (f : ConfigFault)
  | general (f : GeneralFault)
deriving DecidableEq

namespace Failure

/-- The words for a page image that could not be encoded. -/
def encodeText (f : Jpeg.SizeFault) : String :=
  "Format error encoding Jpeg:\n" ++ f.text

def text : Failure → String
  | pdf f => "PDF error: " ++ f.text
  | io e => "IO error: " ++ e.text
  | image path f => "Failed to read image " ++ Path.display path ++ ": " ++ f.text
  | encode f => "Failed to encode page image: " ++ encodeText f
  | folderNotFound path => "Input folder not found: " ++ Path.display path
  | fileNotFound path => "File not found: " ++ Path.display path
  | emptyPdf path => "PDF has no pages: " ++ Path.display path
  | noReadableImages path => "None of the images in " ++ Path.display path ++ " could be read"
  | invalidConfig f => "Invalid configuration: " ++ f.text
  | general f => f.text

/-- The failure and the causes below it, outermost first. -/
def chain : Failure → List String
  | pdf f =>
    text (pdf f) :: f.text :: (match f with
      | .unreadable e => [e.text]
      | .shortData => ["failed to fill whole buffer"]
      | _ => [])
  | io e => [text (io e), e.text]
  | image path f => text (image path f) :: f.text :: f.causes
  | encode f => [text (encode f), encodeText f, f.text]
  | f => [text f]

end Failure

end ScanBinder
