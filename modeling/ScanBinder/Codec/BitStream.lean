import ScanBinder.Bytes

/-!
# Reading bits

A bit stream holds the bits left over from the byte in hand and the bytes after it. The
order of the bits in a byte is that of the function that opens it.
-/

namespace ScanBinder

/-- The bits of a byte, least significant first. -/
def bitsUp (b : UInt8) : List Bool :=
  [b &&& 1 ≠ 0, b &&& 2 ≠ 0, b &&& 4 ≠ 0, b &&& 8 ≠ 0,
    b &&& 16 ≠ 0, b &&& 32 ≠ 0, b &&& 64 ≠ 0, b &&& 128 ≠ 0]

/-- The bits of a byte, most significant first. -/
def bitsDown (b : UInt8) : List Bool :=
  (bitsUp b).reverse

structure BitStream where
  /-- The order in which a byte gives its bits. -/
  opening : UInt8 → List Bool
  pending : List Bool
  bytes : Bytes

namespace BitStream

/-- The stream of a byte string, least significant bits first. -/
def up (bs : Bytes) : BitStream :=
  ⟨bitsUp, [], bs⟩

/-- The stream of a byte string, most significant bits first. -/
def down (bs : Bytes) : BitStream :=
  ⟨bitsDown, [], bs⟩

def next? (s : BitStream) : Option (Bool × BitStream) :=
  match s.pending, s.bytes with
  | b :: bs, bytes => some (b, { s with pending := bs, bytes })
  | [], b :: bytes =>
    match s.opening b with
    | [] => none
    | c :: cs => some (c, { s with pending := cs, bytes })
  | [], [] => none

/-- The number of the next `n` bits, the first of them least significant. -/
def number? (s : BitStream) : (n : Nat) → Option (Nat × BitStream)
  | 0 => some (0, s)
  | n + 1 =>
    match s.next? with
    | none => none
    | some (b, s) =>
      match s.number? n with
      | none => none
      | some (v, s) => some (b.toNat + 2 * v, s)

/-- The number of the next `n` bits, the first of them most significant, after the bits
that make up `acc`. -/
def bigNumber? (s : BitStream) (acc : Nat) : (n : Nat) → Option (Nat × BitStream)
  | 0 => some (acc, s)
  | n + 1 =>
    match s.next? with
    | none => none
    | some (b, s) => s.bigNumber? (2 * acc + b.toNat) n

/-- The bytes after the one in hand. -/
def aligned (s : BitStream) : Bytes :=
  s.bytes

/-- How many bits are left. -/
def bitsLeft (s : BitStream) : Nat :=
  s.pending.length + 8 * s.bytes.length

/-- Whether at least `n` bits are left. -/
def has (s : BitStream) (n : Nat) : Bool :=
  n ≤ s.pending.length + 8 * (s.bytes.take ((n + 7) / 8)).length

end BitStream

end ScanBinder
