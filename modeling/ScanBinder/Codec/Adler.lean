import ScanBinder.Bytes

/-!
# Checksum of compressed data

Two sums modulo a prime: of the bytes, and of the sums so far.
-/

namespace ScanBinder

/-- The largest prime below 65536. -/
def adlerPrime : Nat := 65521

/-- The checksum of bytes, as a number of 32 bits. -/
def adler32 (bytes : Array UInt8) : Nat :=
  let (a, b) := bytes.foldl
    (fun (a, b) x => ((a + x.toNat) % adlerPrime, (b + (a + x.toNat)) % adlerPrime)) (1, 0)
  65536 * b + a

end ScanBinder
