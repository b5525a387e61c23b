import ScanBinder.Bytes

/-!
# Cyclic redundancy check

The 32-bit check value that guards the chunks of a PNG file.
-/

namespace ScanBinder

/-- One bit of the division by the reflected polynomial. -/
def crcShift (c : UInt32) : UInt32 :=
  if c &&& 1 = 1 then (c >>> 1) ^^^ 0xEDB88320 else c >>> 1

/-- One byte of the division. -/
def crcByte (c : UInt32) (b : UInt8) : UInt32 :=
  crcShift (crcShift (crcShift (crcShift (crcShift (crcShift (crcShift (crcShift
    (c ^^^ b.toUInt32))))))))

/-- The check value of a byte string. -/
def crc32 (bs : Bytes) : UInt32 :=
  bs.foldl crcByte 0xFFFFFFFF ^^^ 0xFFFFFFFF

end ScanBinder
