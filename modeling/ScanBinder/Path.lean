import ScanBinder.Text.Utf8

/-!
# Paths

A path is a byte string whose components are separated by slashes. Empty components and
single dots name nothing, so `a//b/.` ends in `b`.
-/

namespace ScanBinder

/-- A path as it was given. -/
abbrev Path := Bytes

/-- One component of a path. -/
abbrev Name := Bytes

namespace Path

/-- The separator of components. -/
def slash : UInt8 := 0x2F

/-- The dot before an extension. -/
def dot : UInt8 := 0x2E

/-- The component that names the folder it stands in. -/
def here : Name := [dot]

/-- The component that names the folder above. -/
def above : Name := [dot, dot]

/-- The pieces between slashes, empty ones included. -/
def pieces : Path → List Name
  | [] => [[]]
  | b :: bs =>
    if b = slash then [] :: pieces bs
    else match pieces bs with
      | [] => [[b]]
      | p :: ps => (b :: p) :: ps

/-- Whether a piece names something. -/
def isNaming (n : Name) : Bool :=
  n ≠ [] && n ≠ here

/-- The last component, unless it leads upwards or there is none. -/
def fileName? (p : Path) : Option Name :=
  match ((pieces p).filter isNaming).getLast? with
  | some n => if n = above then none else some n
  | none => none

/-- A name cut at its last dot. -/
def splitAtLastDot? (n : Name) : Option (Name × Name) :=
  match n.reverse.dropWhile (· ≠ dot) with
  | [] => none
  | _ :: stem => some (stem.reverse, (n.reverse.takeWhile (· ≠ dot)).reverse)

/-- The extension of a name: what follows its last dot, unless that dot comes first. -/
def nameExtension? (n : Name) : Option Name :=
  match splitAtLastDot? n with
  | some ([], _) => none
  | some (_, ext) => some ext
  | none => none

/-- The extension of the last component. -/
def extension? (p : Path) : Option Name :=
  (fileName? p).bind nameExtension?

def isAbsolute (p : Path) : Bool :=
  p.head? = some slash

/-- `below` seen from the folder `p`. -/
def join (p below : Path) : Path :=
  if isAbsolute below then below
  else if p = [] ∨ p.getLast? = some slash then p ++ below
  else p ++ slash :: below

/-- A path as text. -/
def display (p : Path) : String :=
  Bytes.lossy p

end Path

/-- An ASCII capital made small. -/
def lowerByte (b : UInt8) : UInt8 :=
  if 0x41 ≤ b ∧ b ≤ 0x5A then b + 0x20 else b

/-- The extension of a path with ASCII capitals made small. -/
def Path.lowerExtension? (p : Path) : Option Name :=
  (Path.extension? p).map (·.map lowerByte)

end ScanBinder
