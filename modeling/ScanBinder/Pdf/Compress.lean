import ScanBinder.Codec.Packer
import ScanBinder.Pdf.Object

/-!
# Compressing a document

Before a document is written, the data of its streams is compressed. A stream keeps its data as
it is if it may not be compressed, if it has a filter already, or if too little would be saved.
-/

namespace ScanBinder.Pdf

/-- The name of the filter that inflates data. -/
def flateFilter : Bytes :=
  Bytes.ofText "FlateDecode"

/-- What the entry of the filter takes in a file. -/
def filterCost : Nat := 19

namespace Stream

/-- A stream with other data, which is to be inflated. -/
def packed (s : Stream) (data : Bytes) : Stream :=
  let filtered := Dict.set s.dict (Bytes.ofText "Filter") (.name flateFilter)
  { s with dict := Dict.set filtered (Bytes.ofText "Length") (.int data.length), data }

def compressed (z : Packer) (s : Stream) : Stream :=
  if s.compressible && (s.dict.get? "Filter").isNone then
    let data := z.pack s.data
    if data.length + filterCost < s.data.length then s.packed data else s
  else s

end Stream

def Object.compressed (z : Packer) : Object → Object
  | value v => value v
  | stream s => stream (s.compressed z)

/-- The document with its streams compressed. -/
def Document.compressed (z : Packer) (d : Document) : Document :=
  { d with objects := d.objects.map fun x => (x.1, x.2.compressed z) }

end ScanBinder.Pdf
