import ScanBinder.Bytes

/-!
# Message digests of 128 bits

A message is filled up to whole blocks of sixteen words, least significant byte first, and
each block is mixed into a state of four words in sixty-four rounds.
-/

namespace ScanBinder.Md5

/-- The state: four words. -/
structure State where
  a : UInt32
  b : UInt32
  c : UInt32
  d : UInt32

/-- The state before the first block. -/
def State.start : State :=
  ⟨0x67452301, 0xEFCDAB89, 0x98BADCFE, 0x10325476⟩

/-- The constants of the rounds: the sines of the first whole numbers. -/
def sines : Array UInt32 :=
  #[0xD76AA478, 0xE8C7B756, 0x242070DB, 0xC1BDCEEE, 0xF57C0FAF, 0x4787C62A, 0xA8304613, 0xFD469501,
    0x698098D8, 0x8B44F7AF, 0xFFFF5BB1, 0x895CD7BE, 0x6B901122, 0xFD987193, 0xA679438E, 0x49B40821,
    0xF61E2562, 0xC040B340, 0x265E5A51, 0xE9B6C7AA, 0xD62F105D, 0x02441453, 0xD8A1E681, 0xE7D3FBC8,
    0x21E1CDE6, 0xC33707D6, 0xF4D50D87, 0x455A14ED, 0xA9E3E905, 0xFCEFA3F8, 0x676F02D9, 0x8D2A4C8A,
    0xFFFA3942, 0x8771F681, 0x6D9D6122, 0xFDE5380C, 0xA4BEEA44, 0x4BDECFA9, 0xF6BB4B60, 0xBEBFBC70,
    0x289B7EC6, 0xEAA127FA, 0xD4EF3085, 0x04881D05, 0xD9D4D039, 0xE6DB99E5, 0x1FA27CF8, 0xC4AC5665,
    0xF4292244, 0x432AFF97, 0xAB9423A7, 0xFC93A039, 0x655B59C3, 0x8F0CCC92, 0xFFEFF47D, 0x85845DD1,
    0x6FA87E4F, 0xFE2CE6E0, 0xA3014314, 0x4E0811A1, 0xF7537E82, 0xBD3AF235, 0x2AD7D2BB, 0xEB86D391]

/-- How far each round turns its word; four distances take turns in each quarter. -/
def turns : Array UInt32 :=
  #[7, 12, 17, 22, 5, 9, 14, 20, 4, 11, 16, 23, 6, 10, 15, 21]

/-- Turns a word to the left. -/
def rotate (x n : UInt32) : UInt32 :=
  (x <<< n) ||| (x >>> (32 - n))

/-- Mixes three words of the state in the quarter of a round. -/
def mix (quarter : Nat) (b c d : UInt32) : UInt32 :=
  match quarter with
  | 0 => (b &&& c) ||| (~~~b &&& d)
  | 1 => (d &&& b) ||| (~~~d &&& c)
  | 2 => b ^^^ c ^^^ d
  | _ => c ^^^ (b ||| ~~~d)

/-- The word of the block that a round takes. -/
def wordIndex (i : Nat) : Nat :=
  match i / 16 with
  | 0 => i % 16
  | 1 => (5 * i + 1) % 16
  | 2 => (3 * i + 5) % 16
  | _ => 7 * i % 16

/-- One round. -/
def round (block : Array UInt32) (s : State) (i : Nat) : State :=
  let f := mix (i / 16) s.b s.c s.d + s.a + sines[i]?.getD 0 + block[wordIndex i]?.getD 0
  let turn := turns[4 * (i / 16) + i % 4]?.getD 0
  ⟨s.d, s.b + rotate f turn, s.b, s.c⟩

/-- The state after a block. -/
def State.add (s : State) (block : Array UInt32) : State :=
  let t := (List.range 64).foldl (round block) s
  ⟨s.a + t.a, s.b + t.b, s.c + t.c, s.d + t.d⟩

/-- The bytes of a number, least significant first. -/
def littleBytes : (width n : Nat) → Bytes
  | 0, _ => []
  | width + 1, n => UInt8.ofNat n :: littleBytes width (n / 256)

/-- A message filled up to whole blocks: a mark, zeros, and the number of its bits. -/
def padded (message : Bytes) : Bytes :=
  let zeros := (64 - (message.length + 9) % 64) % 64
  message ++ 0x80 :: List.replicate zeros 0 ++ littleBytes 8 (8 * message.length)

/-- The words of a block. -/
def words : (count : Nat) → Bytes → List UInt32
  | 0, _ => []
  | count + 1, bs => UInt32.ofNat (Bytes.littleEndian (bs.take 4)) :: words count (bs.drop 4)

/-- The state after as many blocks as there are. -/
def run : (blocks : Nat) → State → Bytes → State
  | 0, s, _ => s
  | blocks + 1, s, bs => run blocks (s.add (words 16 bs).toArray) (bs.drop 64)

/-- The bytes of a state. -/
def State.bytes (s : State) : Bytes :=
  [s.a, s.b, s.c, s.d].flatMap fun w => littleBytes 4 w.toNat

end Md5

/-- The digest of a message, which has sixteen bytes. -/
def md5 (message : Bytes) : Bytes :=
  let bs := Md5.padded message
  (Md5.run (bs.length / 64) .start bs).bytes

end ScanBinder
