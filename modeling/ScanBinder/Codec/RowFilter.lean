import ScanBinder.Bytes

/-!
# Row filters

Before it is compressed, a row of samples may be replaced by the differences of its bytes
to a guess from bytes that the reader knows already: the one to the left, the one above and
the one between them.
-/

namespace ScanBinder

/-- The filters of a row. -/
inductive RowFilter where
  | none
  | sub
  | up
  | average
  | paeth
deriving DecidableEq

def RowFilter.ofByte? (b : UInt8) : Option RowFilter :=
  if b = 0 then some .none
  else if b = 1 then some .sub
  else if b = 2 then some .up
  else if b = 3 then some .average
  else if b = 4 then some .paeth
  else Option.none

/-- Whichever of left, above and upper left is nearest to `left + above - upperLeft`. -/
def nearestNeighbour (left above upperLeft : UInt8) : UInt8 :=
  let a : Int := left.toNat
  let b : Int := above.toNat
  let c : Int := upperLeft.toNat
  let p := a + b - c
  let pa := (p - a).natAbs
  let pb := (p - b).natAbs
  let pc := (p - c).natAbs
  if pa ≤ pb ∧ pa ≤ pc then left else if pb ≤ pc then above else upperLeft

/-- What a filter expects a byte to be. -/
def RowFilter.guess (f : RowFilter) (left above upperLeft : UInt8) : UInt8 :=
  match f with
  | .none => 0
  | .sub => left
  | .up => above
  | .average => UInt8.ofNat ((left.toNat + above.toNat) / 2)
  | .paeth => nearestNeighbour left above upperLeft

/-- Undoes a filter byte by byte, given what it expects a byte to be. `lefts` and `corners`
hold the last bytes of this row and of the row above, one pixel's worth each; `done` is the
row so far, last byte first. -/
def undoRow (guess : UInt8 → UInt8 → UInt8 → UInt8) (lefts corners : List UInt8) (done : Bytes) :
    (above row : Bytes) → Bytes
  | a :: above, x :: row =>
    let value := x + guess (lefts.headD 0) a (corners.headD 0)
    undoRow guess (lefts.tail ++ [value]) (corners.tail ++ [a]) (value :: done) above row
  | _, _ => done.reverse

end ScanBinder
