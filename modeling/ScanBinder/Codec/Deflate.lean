import ScanBinder.Codec.Adler
import ScanBinder.Codec.Inflate

/-!
# Compressing data

Data is compressed as one block with the fixed codes. Its bytes are taken one by one, except
where at least three of them repeat what stands three bytes before, as in a row of equal pixels;
such a run is one match.
-/

namespace ScanBinder

namespace Deflate

/-- A step of compressed data: a byte, or a number of bytes that repeat those three before. -/
inductive Token where
  | literal (b : UInt8)
  | again (n : Nat)
deriving DecidableEq

/-- How far back a match reaches. -/
def reach : Nat := 3

/-- The length of the shortest match that is used, and of the longest that can be written. -/
def shortest : Nat := 3

def longest : Nat := 258

/-- How many of the next bytes, up to a limit, repeat the three bytes before them. -/
def runLength : (limit : Nat) → (a b c : UInt8) → Bytes → Nat
  | limit + 1, a, b, c, x :: xs => if x = a then runLength limit b c a xs + 1 else 0
  | _, _, _, _, _ => 0

/-- The steps of data that stands behind three bytes. The first `skip` bytes belong to the last
step; the steps so far stand in `done`, last first. -/
def tokensAfter (done : List Token) : (skip : Nat) → (a b c : UInt8) → Bytes → List Token
  | _, _, _, _, [] => done.reverse
  | skip + 1, _, b, c, x :: xs => tokensAfter done skip b c x xs
  | 0, a, b, c, x :: xs =>
    let n := runLength longest a b c (x :: xs)
    if shortest ≤ n then tokensAfter (.again n :: done) (n - 1) b c x xs
    else tokensAfter (.literal x :: done) 0 b c x xs

/-- The steps of data. Nothing stands before its first three bytes that they could repeat. -/
def tokens : Bytes → List Token
  | a :: b :: c :: rest => tokensAfter [.literal c, .literal b, .literal a] 0 a b c rest
  | data => data.map .literal

/-- The `n` low bits of a number, lowest first. -/
def lowBits : (n v : Nat) → List Bool
  | 0, _ => []
  | n + 1, v => (v % 2 = 1) :: lowBits n (v / 2)

/-- A code word of `n` bits, highest first. -/
def word (n v : Nat) : List Bool :=
  (lowBits n v).reverse

/-- The word of a symbol in the fixed code of literals and lengths. -/
def literalWord (sym : Nat) : List Bool :=
  if sym < 144 then word 8 (0x30 + sym)
  else if sym < 256 then word 9 (0x190 + (sym - 144))
  else if sym < 280 then word 7 (sym - 256)
  else word 8 (0xC0 + (sym - 280))

/-- The symbol that ends a block. -/
def endSymbol : Nat := 256

/-- The place of a length among the first lengths of the symbols. -/
def lengthPlace (n : Nat) : Nat :=
  (Inflate.lengthBases.toList.takeWhile fun b => b.1 ≤ n).length - 1

/-- A length: its symbol, and how far it is from the first length of the symbol. -/
def lengthBits (n : Nat) : List Bool :=
  let place := lengthPlace n
  let (base, extra) := Inflate.lengthBases[place]?.getD (0, 0)
  literalWord (endSymbol + 1 + place) ++ lowBits extra (n - base)

/-- The word of the distance that matches have. -/
def reachWord : List Bool :=
  word 5 (reach - 1)

def Token.bits : Token → List Bool
  | literal b => literalWord b.toNat
  | again n => lengthBits n ++ reachWord

/-- The start of a block that is the last one and has the fixed codes. -/
def startBits : List Bool :=
  [true, true, false]

/-- The bits of a block with the given steps. -/
def blockBits (steps : List Token) : List Bool :=
  startBits ++ (steps.flatMap Token.bits ++ literalWord endSymbol)

/-- The byte of eight bits, lowest first. -/
def byteOf (bits : List Bool) : UInt8 :=
  UInt8.ofNat (bits.foldr (fun b v => b.toNat + 2 * v) 0)

/-- Bits as bytes, the last one filled up with zeros. Bytes that are done stand in `done`, last
first. -/
def packBits (done : Bytes) : List Bool → Bytes
  | a :: b :: c :: d :: e :: f :: g :: h :: rest =>
    packBits (byteOf [a, b, c, d, e, f, g, h] :: done) rest
  | [] => done.reverse
  | last => (byteOf (last ++ List.replicate (8 - last.length) false) :: done).reverse

/-- The two bytes of the header, for the usual window and the best compression. -/
def header : Bytes :=
  [0x78, 0xDA]

end Deflate

/-- Compressed data with its header and its checksum. -/
def deflate (data : Bytes) : Bytes :=
  Deflate.header ++
    (Deflate.packBits [] (Deflate.blockBits (Deflate.tokens data)) ++
      Bytes.ofNatBE 4 (adler32 data.toArray))

end ScanBinder
