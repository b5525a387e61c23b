import ScanBinder.Codec.Handover
import ScanBinder.Codec.Lzw
import ScanBinder.Codec.RowFilter
import ScanBinder.Pdf.Object

/-!
# Stream filters

The data of a stream may be packed in several ways, one after the other; its dictionary
names them in the order in which they are undone. Rows of compressed data may also have
been replaced by differences.
-/

namespace ScanBinder.Pdf

/-- Data behind dictionary codes. Data that breaks off gives what is there. A code without a
meaning takes all bytes with it since the dictionary was last cleared. -/
def lzwData (params : Dict) (data : Bytes) : Bytes :=
  let early := match params.get? "EarlyChange" with
    | some (.int 0) => 0
    | _ => 1
  let limit := Nat.pow 2 Lzw.widest * (8 * data.length + 1)
  let r := Lzw.decode ⟨8, true, early⟩ limit data
  (if r.stop = .badCode then r.out.extract 0 r.cleared else r.out).toList

/-- A positive parameter; `least` stands for one that is missing or smaller. -/
def atLeast (least : Nat) (params : Dict) (key : String) : Nat :=
  match params.get? key with
  | some (.int n) => max least n.toNat
  | _ => least

/-- What a filter expects a byte to be. The average is the left byte and half of the one
above. -/
def guess (f : RowFilter) (left above upperLeft : UInt8) : UInt8 :=
  match f with
  | .average => left + above / 2
  | f => f.guess left above upperLeft

/-- Rows with their filters undone, which all have to be complete. Rows that are done stand in
`done`, last byte first; `above` is the last one, or else there are zeros. -/
def undoRows (step length : Nat) :
    (fuel : Nat) → (above : Option Bytes) → (done : Bytes) → Bytes → Except Fault Bytes
  | 0, _, done, _ => .ok done.reverse
  | _ + 1, _, done, [] => .ok done.reverse
  | fuel + 1, above, done, b :: bs =>
    match RowFilter.ofByte? b with
    | none => .error (.unknownRowFilter b)
    | some f =>
      if bs.length < length then .error .shortData
      else
        let zeros := List.replicate step 0
        let above := above.getD (List.replicate length 0)
        let row := undoRow (guess f) zeros zeros [] above (bs.take length)
        undoRows step length fuel (some row) (row.reverse ++ done) (bs.drop length)

/-- Undoes the replacement of rows, if the parameters speak of one. -/
def undoPredictor (params : Dict) (data : Bytes) : Except Fault Bytes :=
  match params.get? "Predictor" with
  | some (.int p) =>
    if 10 ≤ p ∧ p ≤ 15 then
      let step := atLeast 1 params "Colors" * atLeast 8 params "BitsPerComponent" / 8
      undoRows step (step * atLeast 1 params "Columns") data.length none [] data
    else .ok data
  | _ => .ok data

/-- Undoes one filter. -/
def undoFilter (params : Dict) (data filter : Bytes) : Except Fault Bytes :=
  if filter = Bytes.ofText "FlateDecode" then undoPredictor params (inflateLoosely data).toList
  else if filter = Bytes.ofText "LZWDecode" then undoPredictor params (lzwData params data)
  else if filter = Bytes.ofText "ASCII85Decode" then
    (Ascii85.decode data).mapError .badDigits
  else .error .unknownFilter

namespace Stream

/-- The filters that the dictionary names. -/
def filters (s : Stream) : Except Fault (List Bytes) :=
  match s.dict.get? "Filter" with
  | some (.name n) => .ok [n]
  | some (.array vs) => vs.mapM fun
    | .name n => .ok n
    | v => .error (.wrongKind Kind.name.text v.kind)
  | some v => .error (.wrongKind "Name or Array" v.kind)
  | none => .error (.missingKey "Filter")

/-- The data with all filters undone. A list without any filter gives nothing. -/
def unpacked (s : Stream) : Except Fault Bytes := do
  let filters ← s.filters
  let params := match s.dict.get? "DecodeParms" with
    | some (.dict d) => d
    | _ => []
  if filters.isEmpty then return []
  filters.foldlM (undoFilter params) s.data

/-- The data as it was before any filter. -/
def plain (s : Stream) : Except Fault Bytes :=
  if (s.dict.get? "Filter").isNone then .ok s.data else s.unpacked

end Stream

end ScanBinder.Pdf
