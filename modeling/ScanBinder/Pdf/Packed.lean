import ScanBinder.Pdf.Filter
import ScanBinder.Pdf.Parse
import ScanBinder.Text.Blank

/-!
# Objects inside streams

A stream may hold other objects. Its data starts with pairs of numbers, an object's number
and its place behind them.
-/

namespace ScanBinder.Pdf

/-- A number of 32 bits, with or without a plus sign. -/
def smallNumber? (s : String) : Option Nat :=
  let cs := match s.toList with
    | '+' :: cs => cs
    | cs => cs
  match takeDigits cs with
  | (d :: ds, []) =>
    let n := digitsValue (d :: ds)
    if n < 4294967296 then some n else none
  | _ => none

/-- The object of a pair of numbers, if both are numbers and there is a value. -/
def packedObject? (first : Nat) (data : Bytes) (number place : Option Nat) :
    Option (ObjectId × Object) := do
  let number ← number
  let place ← place
  let bs := data.drop (first + place)
  if bs.isEmpty then none
  else
    let (v, _) ← value (fuelFor bs) bs
    return (⟨number, 0⟩, .value v)

/-- The objects of pairs of numbers. -/
def packedObjects (first : Nat) (data : Bytes) : List (Option Nat) → List (ObjectId × Object)
  | number :: place :: more =>
    (packedObject? first data number place).toList ++ packedObjects first data more
  | _ => []

/-- Whether a stream says that it holds objects. -/
def Stream.isPacked (s : Stream) : Bool :=
  match s.dict.get? "Type" with
  | some (.name n) => n = Bytes.ofText "ObjStm"
  | _ => false

/-- The objects in a stream, unless it does not say where they are. -/
def Stream.objects? (s : Stream) : Option (List (ObjectId × Object)) :=
  let data := match s.unpacked with
    | .ok data => data
    | .error _ => s.data
  if data.isEmpty then some []
  else
    match s.dict.get? "First", s.dict.get? "N" with
    | some (.int first), some (.int _) =>
      if first < 0 ∨ (data.length : Int) < first then none
      else
        (Bytes.toText? (data.take first.toNat)).map fun index =>
          packedObjects first.toNat data ((textWords index).map smallNumber?)
    | _, _ => none

end ScanBinder.Pdf
