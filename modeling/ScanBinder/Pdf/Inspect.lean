import ScanBinder.Failure
import ScanBinder.Pdf.Load

/-!
# Inspecting documents

The number of pages is what the page tree says of itself; the sizes of pages come from
walking the tree. Title, author and producer are in the information dictionary.
-/

namespace ScanBinder.Pdf

namespace Document

/-- The number of pages that the page tree gives. -/
def pageCount (d : Document) : Except Failure Nat :=
  match d.catalog? with
  | none => .error (.general .noCatalog)
  | some catalog =>
    match catalog.get? "Pages" with
    | some (.ref id) =>
      match d.dictionary id with
      | .error f => .error (.pdf f)
      | .ok pages =>
        match pages.get? "Count" with
        | some (.int n) => if 0 ≤ n then .ok n.toNat else .error (.general (.badCount n))
        | some _ => .error (.general .countNotInteger)
        | none => .error (.general .noCount)
    | some _ => .error (.general .pagesNotReference)
    | none => .error (.general .noPages)

/-- The children of a node of the page tree. -/
def kids (d : Document) (id : ObjectId) : List Value :=
  match d.dictionary id with
  | .ok node =>
    match node.get? "Kids" with
    | some v =>
      match d.follow referenceLimit (.value v) with
      | .ok (.value (.array vs)) => vs
      | _ => []
    | none => []
  | .error _ => []

/-- How many lists of siblings are remembered. -/
def depthLimit : Nat := 256

/-- The type that a dictionary gives itself. -/
def typeName? (d : Document) (id : ObjectId) : Option Bytes :=
  match d.dictionary id with
  | .ok dict =>
    match dict.get? "Type" with
    | some (.name n) => some n
    | _ => none
  | .error _ => none

/-- The siblings to go on with and those for later: when there are no more, the nearest that
were left for later. -/
def nextSiblings (kids : List Value) (later : List (List Value)) :
    List Value × List (List Value) :=
  if kids.isEmpty then (later.headD [], later.tail) else (kids, later)

/-- Walks the page tree depth first. Looking at a child uses up one unit of the budget;
`later` holds the siblings to go on with, the nearest first. -/
def walkPages (d : Document) : (budget : Nat) → (kids : List Value) → (later : List (List Value)) →
    List ObjectId
  | 0, _, _ => []
  | budget + 1, kids, later =>
    match nextSiblings kids later with
    | ([], _) => []
    | (.ref id :: rest, later) =>
      if d.typeName? id = some (Bytes.ofText "Page") then id :: d.walkPages budget rest later
      else if d.typeName? id = some (Bytes.ofText "Pages") ∧ later.length < depthLimit then
        d.walkPages budget (d.kids id) (if rest.isEmpty then later else rest :: later)
      else d.walkPages budget rest later
    | (_ :: rest, later) => d.walkPages budget rest later

/-- The pages in order. -/
def pages (d : Document) : List ObjectId :=
  match d.catalog?.bind (·.get? "Pages") with
  | some (.ref id) => d.walkPages d.objects.length (d.kids id) []
  | _ => []

/-- A coordinate. -/
def coordinate : Value → Except Fault Single
  | .int n => .ok (.ofInt .single n)
  | .real x => .ok x
  | v => .error (.wrongKind "Integer or Real" v.kind)

/-- Width and height of a page. -/
def pageSize (d : Document) (id : ObjectId) : Except Failure (Single × Single) :=
  match d.dictionary id with
  | .error f => .error (.pdf f)
  | .ok page =>
    match page.get? "MediaBox" with
    | none => .error (.pdf (.missingKey "MediaBox"))
    | some (.array vs) =>
      if vs.length ≠ 4 then .error (.general (.badMediaBox vs.length))
      else
        match vs.mapM coordinate with
        | .ok [left, bottom, right, top] => .ok (right - left, top - bottom)
        | .ok _ => .error (.general (.badMediaBox vs.length))
        | .error f => .error (.pdf f)
    | some v => .error (.pdf (.wrongKind Kind.array.text v.kind))

/-- The information dictionary that the trailer holds or refers to. -/
def info? (d : Document) : Option Dict :=
  match d.trailer.get? "Info" with
  | some (.ref id) => (d.dictionary id).toOption
  | some (.dict entries) => some entries
  | _ => none

/-- A text of the information dictionary. -/
def infoText? (d : Document) (key : String) : Option String :=
  match d.info?.bind (·.get? key) with
  | some (.str s) => Bytes.toText? s
  | _ => none

end Document

/-- What a document says about itself. -/
structure Metadata where
  pageCount : Nat
  title : Option String
  author : Option String
  producer : Option String
deriving DecidableEq

end ScanBinder.Pdf

namespace ScanBinder.FileTree

open Pdf

/-- Reads the document at a path. -/
def loadDocument (t : FileTree) (p : Path) : Except Failure Document :=
  match t.read p with
  | .error e => .error (.pdf (.unreadable e))
  | .ok bytes => (Document.ofBytes bytes).mapError .pdf

/-- Reads the document at a path that has to exist. -/
def openDocument (t : FileTree) (p : Path) : Except Failure Document :=
  if t.exists? p then t.loadDocument p else .error (.fileNotFound p)

/-- The number of pages of a document, which has to have some. -/
def checkedCount (p : Path) (d : Document) : Except Failure Nat :=
  match d.pageCount with
  | .ok n => if n = 0 then .error (.emptyPdf p) else .ok n
  | .error e => .error e

/-- The number of pages of the document at a path. -/
def countPages (t : FileTree) (p : Path) : Except Failure Nat := do
  checkedCount p (← t.openDocument p)

/-- What the document at a path says about itself. -/
def metadata (t : FileTree) (p : Path) : Except Failure Metadata := do
  let d ← t.openDocument p
  let n ← checkedCount p d
  return ⟨n, d.infoText? "Title", d.infoText? "Author", d.infoText? "Producer"⟩

/-- The sizes of the pages of the document at a path. -/
def pageSizes (t : FileTree) (p : Path) : Except Failure (List (Single × Single)) := do
  let d ← t.openDocument p
  if d.pages.isEmpty then throw (.emptyPdf p)
  d.pages.mapM d.pageSize

end ScanBinder.FileTree
