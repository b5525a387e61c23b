/-!
# Byte strings

File contents, file names and the text of a document are lists of bytes. This file reads
unsigned numbers from them in either byte order.
-/

namespace ScanBinder

/-- A byte string. -/
abbrev Bytes := List UInt8

namespace Bytes

/-- The bytes of a text in UTF-8. -/
def ofText (s : String) : Bytes :=
  s.toUTF8.data.toList

/-- The text whose UTF-8 form is the byte string, if it is well formed. -/
def toText? (bs : Bytes) : Option String :=
  String.fromUTF8? ⟨bs.toArray⟩

/-- The number written most significant byte first. -/
def bigEndian (bs : Bytes) : Nat :=
  bs.foldl (fun n b => n * 256 + b.toNat) 0

/-- The number written least significant byte first. -/
def littleEndian (bs : Bytes) : Nat :=
  bigEndian bs.reverse

/-- The first `n` bytes and the rest, if there are that many. -/
def split? (n : Nat) (bs : Bytes) : Option (Bytes × Bytes) :=
  if n ≤ bs.length then some (bs.take n, bs.drop n) else none

/-- `n` written in `width` bytes, most significant first. -/
def ofNatBE : (width n : Nat) → Bytes
  | 0, _ => []
  | width + 1, n => UInt8.ofNat (n / Nat.pow 256 width) :: ofNatBE width n

end Bytes

end ScanBinder
