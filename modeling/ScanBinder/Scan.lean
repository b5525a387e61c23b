import ScanBinder.Failure
import ScanBinder.SortKey

/-!
# Scanning a folder

The images of a folder are the files in it whose names have an image extension, whatever
is in them. They are put in the order of their page numbers; files with the same number
are in the order of their names.
-/

namespace ScanBinder

/-- The extensions of image files. -/
def imageExtensions : List Name :=
  ["jpg", "jpeg", "png", "gif", "bmp", "tiff"].map Bytes.ofText

/-- Whether a path has an image extension, in capital or small letters. -/
def isImageFile (p : Path) : Bool :=
  match Path.lowerExtension? p with
  | some e => imageExtensions.contains e
  | none => false

/-- An image found in a folder. -/
structure ScanEntry where
  path : Path
  name : String
  sortKey : Nat
deriving DecidableEq

/-- The name that a path shows. -/
def shownName (p : Path) : String :=
  match Path.fileName? p with
  | some n => Bytes.lossy n
  | none => ""

def ScanEntry.ofPath (p : Path) : ScanEntry :=
  ⟨p, shownName p, ScanBinder.sortKey (shownName p)⟩

/-- The order of texts by the bytes of their UTF-8 form, which is the order of their
characters. -/
def textLe (a b : String) : Bool :=
  !decide (b.toList < a.toList)

/-- Puts entries in the order of their names, and then in the order of their keys without
disturbing names of one key. -/
def inPageOrder (entries : List ScanEntry) : List ScanEntry :=
  (entries.mergeSort fun a b => textLe a.name b.name).mergeSort fun a b => a.sortKey ≤ b.sortKey

/-- What a folder holds: its images in page order, and the folders that are named like
images. -/
structure Listing where
  entries : List ScanEntry
  ignored : List Path
deriving DecidableEq

namespace FileTree

/-- The children of a folder whose names have an image extension, as paths. -/
def imageNamed (dir : Path) (names : List Name) : List Path :=
  (names.map (Path.join dir)).filter isImageFile

/-- The images among the children of a folder. -/
def listingOf (t : FileTree) (dir : Path) (names : List Name) : Listing :=
  let paths := imageNamed dir names
  ⟨inPageOrder ((paths.filter fun p => !t.isFolder p).map ScanEntry.ofPath),
    paths.filter t.isFolder⟩

/-- The images of a folder and what was passed over. -/
def scanFolder (t : FileTree) (dir : Path) : Except Failure Listing :=
  if t.isFolder dir then
    match t.list dir with
    | .ok names => .ok (t.listingOf dir names)
    | .error e => .error (.io e)
  else .error (.folderNotFound dir)

/-- The images of a folder in page order. -/
def findImages (t : FileTree) (dir : Path) : Except Failure (List ScanEntry) :=
  (t.scanFolder dir).map Listing.entries

end FileTree

end ScanBinder
