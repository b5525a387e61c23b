import ScanBinder.Bytes

/-!
# A cipher on blocks of sixteen bytes

A block is enciphered in rounds; each replaces its bytes, moves them within rows, mixes the
columns and adds a part of the key. Deciphering undoes the rounds from the last to the first.
The blocks of a message are chained: each is combined with the enciphered one before it. A
block is a list of bytes, column by column.
-/

namespace ScanBinder.Aes

/-- What each byte is replaced with. -/
def replacements : Array UInt8 :=
  #[0x63, 0x7C, 0x77, 0x7B, 0xF2, 0x6B, 0x6F, 0xC5, 0x30, 0x01, 0x67, 0x2B,
    0xFE, 0xD7, 0xAB, 0x76, 0xCA, 0x82, 0xC9, 0x7D, 0xFA, 0x59, 0x47, 0xF0,
    0xAD, 0xD4, 0xA2, 0xAF, 0x9C, 0xA4, 0x72, 0xC0, 0xB7, 0xFD, 0x93, 0x26,
    0x36, 0x3F, 0xF7, 0xCC, 0x34, 0xA5, 0xE5, 0xF1, 0x71, 0xD8, 0x31, 0x15,
    0x04, 0xC7, 0x23, 0xC3, 0x18, 0x96, 0x05, 0x9A, 0x07, 0x12, 0x80, 0xE2,
    0xEB, 0x27, 0xB2, 0x75, 0x09, 0x83, 0x2C, 0x1A, 0x1B, 0x6E, 0x5A, 0xA0,
    0x52, 0x3B, 0xD6, 0xB3, 0x29, 0xE3, 0x2F, 0x84, 0x53, 0xD1, 0x00, 0xED,
    0x20, 0xFC, 0xB1, 0x5B, 0x6A, 0xCB, 0xBE, 0x39, 0x4A, 0x4C, 0x58, 0xCF,
    0xD0, 0xEF, 0xAA, 0xFB, 0x43, 0x4D, 0x33, 0x85, 0x45, 0xF9, 0x02, 0x7F,
    0x50, 0x3C, 0x9F, 0xA8, 0x51, 0xA3, 0x40, 0x8F, 0x92, 0x9D, 0x38, 0xF5,
    0xBC, 0xB6, 0xDA, 0x21, 0x10, 0xFF, 0xF3, 0xD2, 0xCD, 0x0C, 0x13, 0xEC,
    0x5F, 0x97, 0x44, 0x17, 0xC4, 0xA7, 0x7E, 0x3D, 0x64, 0x5D, 0x19, 0x73,
    0x60, 0x81, 0x4F, 0xDC, 0x22, 0x2A, 0x90, 0x88, 0x46, 0xEE, 0xB8, 0x14,
    0xDE, 0x5E, 0x0B, 0xDB, 0xE0, 0x32, 0x3A, 0x0A, 0x49, 0x06, 0x24, 0x5C,
    0xC2, 0xD3, 0xAC, 0x62, 0x91, 0x95, 0xE4, 0x79, 0xE7, 0xC8, 0x37, 0x6D,
    0x8D, 0xD5, 0x4E, 0xA9, 0x6C, 0x56, 0xF4, 0xEA, 0x65, 0x7A, 0xAE, 0x08,
    0xBA, 0x78, 0x25, 0x2E, 0x1C, 0xA6, 0xB4, 0xC6, 0xE8, 0xDD, 0x74, 0x1F,
    0x4B, 0xBD, 0x8B, 0x8A, 0x70, 0x3E, 0xB5, 0x66, 0x48, 0x03, 0xF6, 0x0E,
    0x61, 0x35, 0x57, 0xB9, 0x86, 0xC1, 0x1D, 0x9E, 0xE1, 0xF8, 0x98, 0x11,
    0x69, 0xD9, 0x8E, 0x94, 0x9B, 0x1E, 0x87, 0xE9, 0xCE, 0x55, 0x28, 0xDF,
    0x8C, 0xA1, 0x89, 0x0D, 0xBF, 0xE6, 0x42, 0x68, 0x41, 0x99, 0x2D, 0x0F,
    0xB0, 0x54, 0xBB, 0x16]

/-- What each byte was before it was replaced. -/
def sources : Array UInt8 :=
  (List.range 256).foldl
    (fun t i => t.setIfInBounds (replacements[i]?.getD 0).toNat (UInt8.ofNat i))
    (Array.replicate 256 0)

def replaced (b : UInt8) : UInt8 :=
  replacements[b.toNat]?.getD 0

def restored (b : UInt8) : UInt8 :=
  sources[b.toNat]?.getD 0

/-- Combines two byte strings bit by bit. -/
def combine (xs ys : Bytes) : Bytes :=
  List.zipWith (· ^^^ ·) xs ys

/-- Doubles a byte as an element of the field with 256 elements. -/
def double (b : UInt8) : UInt8 :=
  if b &&& 0x80 = 0 then b <<< 1 else (b <<< 1) ^^^ 0x1B

/-- Nine, eleven, thirteen and fourteen times a byte, by the bits of the factor. -/
def times (factor : Nat) (b : UInt8) : UInt8 :=
  let part (bit : Nat) (x : UInt8) := if factor / bit % 2 = 1 then x else 0
  let two := double b
  let four := double two
  part 1 b ^^^ part 2 two ^^^ part 4 four ^^^ part 8 (double four)

/-- Undoes the mixing of a column. -/
def restoreColumn : Bytes → Bytes
  | [a, b, c, d] =>
    [times 14 a ^^^ times 11 b ^^^ times 13 c ^^^ times 9 d,
      times 9 a ^^^ times 14 b ^^^ times 11 c ^^^ times 13 d,
      times 13 a ^^^ times 9 b ^^^ times 14 c ^^^ times 11 d,
      times 11 a ^^^ times 13 b ^^^ times 9 c ^^^ times 14 d]
  | bs => bs

/-- Undoes the mixing of the columns of a block. -/
def restoreColumns (block : Bytes) : Bytes :=
  (List.range 4).flatMap fun i => restoreColumn ((block.drop (4 * i)).take 4)

/-- Undoes the moves within rows: row `r` has been moved by `r` columns. -/
def restoreRows (block : Bytes) : Bytes :=
  let bytes := block.toArray
  (List.range 16).map fun i => bytes[(4 * (i / 4 + 4 - i % 4) + i % 4) % 16]?.getD 0

/-- The next word of the key, in a key of `length` words; `i` is its position, and `round` the
constant of the round. -/
def nextWord (length i : Nat) (round : UInt8) (first last : Bytes) : Bytes :=
  if i % length = 0 then
    combine first (combine ((last.drop 1 ++ last.take 1).map replaced) [round, 0, 0, 0])
  else if 6 < length ∧ i % length = 4 then combine first (last.map replaced)
  else combine first last

/-- Words of the key after those in `words`, which stand last first. -/
def expand (length : Nat) : (count i : Nat) → (round : UInt8) → (words : List Bytes) → List Bytes
  | 0, _, _, words => words
  | count + 1, i, round, words =>
    let word := nextWord length i round (words.getD (length - 1) []) (words.headD [])
    expand length count (i + 1) (if i % length = 0 then double round else round) (word :: words)

/-- The words of a byte string. -/
def splitWords : (count : Nat) → Bytes → List Bytes
  | 0, _ => []
  | count + 1, bs => bs.take 4 :: splitWords count (bs.drop 4)

/-- The keys of the rounds, last round first. There are six rounds more than words in the
key. -/
def roundKeys (key : Bytes) : List Bytes :=
  let length := key.length / 4
  let total := 4 * (length + 7)
  let words := expand length (total - length) length 1 (splitWords length key).reverse
  (List.range (length + 7)).map fun i => ((words.drop (4 * i)).take 4).reverse.flatten

/-- Undoes the moves and replacements of a round. -/
def restoreBytes (block : Bytes) : Bytes :=
  (restoreRows block).map restored

/-- Undoes rounds with their keys, last round first. The first key of all was only added. -/
def undoRounds : (keys : List Bytes) → Bytes → Bytes
  | [], block => block
  | [key], block => combine (restoreBytes block) key
  | key :: keys, block => undoRounds keys (restoreColumns (combine (restoreBytes block) key))

/-- Deciphers a block. The last round mixes no columns. -/
def decipherBlock (keys : List Bytes) (block : Bytes) : Bytes :=
  undoRounds keys.tail (combine block (keys.headD []))

/-- Deciphers a chain of blocks behind the block `last`; what is done stands in `done`, last
byte first. -/
def decipherChain (keys : List Bytes) : (count : Nat) → (last done : Bytes) → Bytes → Bytes
  | 0, _, done, _ => done.reverse
  | count + 1, last, done, bs =>
    let block := bs.take 16
    let plain := combine (decipherBlock keys block) last
    decipherChain keys count block (plain.reverse ++ done) (bs.drop 16)

/-- A message without what fills up its last block: bytes that all give their number. -/
def stripPadding? (bs : Bytes) : Option Bytes :=
  match bs.getLast? with
  | none => none
  | some n =>
    let kept := bs.length - n.toNat
    if 1 ≤ n ∧ n ≤ 16 ∧ (bs.drop kept).all (· = n) then some (bs.take kept) else none

end Aes

/-- Deciphers a message whose first block starts the chain. An empty message is empty. -/
def aesDecipher? (key message : Bytes) : Option Bytes :=
  if message.length % 16 ≠ 0 then none
  else if message.isEmpty then some []
  else
    let blocks := message.length / 16 - 1
    let keys := Aes.roundKeys key
    Aes.stripPadding? (Aes.decipherChain keys blocks (message.take 16) [] (message.drop 16))

end ScanBinder
