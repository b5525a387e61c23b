import ScanBinder.Codec.Huffman

/-!
# Inflating compressed data

Compressed data is a header of two bytes and blocks that are stored, coded with a fixed
code or coded with a code of their own. Inflating reads as far as the data goes: it says
what came out, and whether the last block was reached, the data ended, or a fault was met.
The checksum at the end is not read.

A reader that expects a known number of bytes asks for no more than those. Such a reader
also looks ahead: what it sees in the last few bits counts as cut off, not as a fault, while
more data could still follow. A reader that takes all there is keeps a window of what came
out, which holds zeros at first.
-/

namespace ScanBinder

/-- What can be wrong with compressed data. -/
inductive InflateFault where
  | badHeader
  | insufficientInput
  | badBlockType
  | badStoredLength
  | badLiteralCount
  | badDistanceCount
  | badLengthRepeat
  | badLengthCode
  | badLiteralCode
  | badDistanceCode
  | noLiteralWord
  | noDistanceWord
  | distanceTooFar
deriving DecidableEq

/-- The name of a fault. -/
def InflateFault.text : InflateFault → String
  | badHeader => "BadZlibHeader"
  | insufficientInput => "InsufficientInput"
  | badBlockType => "InvalidBlockType"
  | badStoredLength => "InvalidUncompressedBlockLength"
  | badLiteralCount => "InvalidHlit"
  | badDistanceCount => "InvalidHdist"
  | badLengthRepeat => "InvalidCodeLengthRepeat"
  | badLengthCode => "BadCodeLengthHuffmanTree"
  | badLiteralCode => "BadLiteralLengthHuffmanTree"
  | badDistanceCode => "BadDistanceHuffmanTree"
  | noLiteralWord => "InvalidLiteralLengthCode"
  | noDistanceWord => "InvalidDistanceCode"
  | distanceTooFar => "DistanceTooFarBack"

namespace Inflate

/-- Why reading stopped. After the last block there are bytes left, the checksum first. -/
inductive Stop where
  | finished (rest : Bytes)
  | ended
  | full
  | faulty (f : InflateFault)
deriving DecidableEq

/-- How data is read. -/
structure Manner where
  /-- The most bytes that are wanted. -/
  limit : Option Nat
  /-- Whether parts of the data are looked at only once the bits after them are there. -/
  looksAhead : Bool

namespace Manner

/-- Reads all there is. -/
def all : Manner :=
  ⟨none, false⟩

/-- Reads up to `n` bytes, looking ahead. -/
def upTo (n : Nat) : Manner :=
  ⟨some n, true⟩

/-- How many of the next `n` bytes are wanted. -/
def wanted (m : Manner) (out : Array UInt8) (n : Nat) : Nat :=
  match m.limit with
  | some limit => min n (limit - out.size)
  | none => n

/-- Whether no more bytes are wanted. -/
def isFull (m : Manner) (out : Array UInt8) : Bool :=
  m.wanted out 1 = 0

/-- Stops if `n` bits should be there and are not. -/
def await (m : Manner) (n : Nat) (s : BitStream) : Except Stop Unit :=
  if m.looksAhead && !s.has n then .error .ended else .ok ()

end Manner

/-- What reading gave: the bytes that came out, and either the rest or why it stopped. -/
abbrev Progress := Array UInt8 × Except Stop BitStream

/-- Reads a number, or stops at the end of the data. -/
def number (s : BitStream) (n : Nat) : Except Stop (Nat × BitStream) :=
  match s.number? n with
  | some r => .ok r
  | none => .error .ended

/-- The next symbol of a code. -/
def Manner.symbol (m : Manner) (c : PrefixCode) (s : BitStream) :
    Except PrefixCode.Miss (Nat × BitStream) :=
  if m.looksAhead then c.symbol s else c.promptSymbol s

/-- Reads a symbol, or stops; `f` says that no word fits. -/
def symbol (m : Manner) (c : PrefixCode) (f : InflateFault) (s : BitStream) :
    Except Stop (Nat × BitStream) :=
  match m.symbol c s with
  | .ok r => .ok r
  | .error .ended => .error .ended
  | .error .noWord => .error (.faulty f)

/-- The first length of each length symbol and its number of further bits. -/
def lengthBases : Array (Nat × Nat) :=
  #[(3, 0), (4, 0), (5, 0), (6, 0), (7, 0), (8, 0), (9, 0), (10, 0), (11, 1), (13, 1), (15, 1),
    (17, 1), (19, 2), (23, 2), (27, 2), (31, 2), (35, 3), (43, 3), (51, 3), (59, 3), (67, 4),
    (83, 4), (99, 4), (115, 4), (131, 5), (163, 5), (195, 5), (227, 5), (258, 0)]

/-- The first distance of each distance symbol and its number of further bits. -/
def distanceBases : Array (Nat × Nat) :=
  #[(1, 0), (2, 0), (3, 0), (4, 0), (5, 1), (7, 1), (9, 2), (13, 2), (17, 3), (25, 3), (33, 4),
    (49, 4), (65, 5), (97, 5), (129, 6), (193, 6), (257, 7), (385, 7), (513, 8), (769, 8),
    (1025, 9), (1537, 9), (2049, 10), (3073, 10), (4097, 11), (6145, 11), (8193, 12),
    (12289, 12), (16385, 13), (24577, 13)]

/-- Repeats `n` bytes from `distance` back. Before the first byte there are zeros. -/
def copyBack (distance : Nat) : (n : Nat) → Array UInt8 → Array UInt8
  | 0, out => out
  | n + 1, out =>
    let b := if distance ≤ out.size then out[out.size - distance]?.getD 0 else 0
    copyBack distance n (out.push b)

-- Left open, the subtraction of the first symbol would be unfolded unit by unit.
/-- The length that a length symbol begins. -/
@[irreducible]
def matchLength (sym : Nat) (s : BitStream) : Except Stop (Nat × BitStream) :=
  match lengthBases[sym - 257]? with
  | none => .error (.faulty .noLiteralWord)
  | some (base, extra) => (number s extra).map fun (v, s) => (base + v, s)

/-- The bits that a distance may take before further ones. -/
def distanceSpan : Nat := 10

/-- The distance that comes next. A word that stands for none is no fault to a reader that
looks ahead before the longest distance could be there. -/
def matchDistance (m : Manner) (dist : PrefixCode) (s : BitStream) :
    Except Stop (Nat × BitStream) :=
  let missing := do
    m.await distanceSpan s
    throw (.faulty .noDistanceWord)
  match m.symbol dist s with
  | .ok (sym, s) =>
    match distanceBases[sym]? with
    | none => missing
    | some (base, extra) => (number s extra).map fun (v, s) => (base + v, s)
  | .error .noWord => missing
  | .error .ended => if m.looksAhead && dist.isSparse then missing else .error .ended

/-- The most bits of two literals that are taken together. -/
def pairSpan : Nat := 12

/-- Whether the literal between `s` and `t` is held back at the end of the data: the bits
after it, filled up with zeros, are a literal that would be taken with it and is not all
there. -/
def isHeldBack (lit : PrefixCode) (s t : BitStream) : Bool :=
  let padded := { t with bytes := t.bytes ++ [0, 0] }
  match lit.symbol padded with
  | .ok (second, rest) =>
    let span := s.bitsLeft - t.bitsLeft + (padded.bitsLeft - rest.bitsLeft)
    second < 256 && span ≤ pairSpan && s.bitsLeft < span
  | .error _ => false

/-- The literals and matches of a coded block, up to the symbol that ends it. The last two
words of the fixed code stand for no length; to a reader that looks ahead they end the block
as well. -/
def coded (m : Manner) (lit dist : PrefixCode) :
    (fuel : Nat) → BitStream → Array UInt8 → Progress
  | 0, _, out => (out, .error .ended)
  | fuel + 1, s, out =>
    if m.isFull out then (out, .error .full)
    else match symbol m lit .noLiteralWord s with
    | .error e => (out, .error e)
    | .ok (sym, t) =>
      if sym < 256 then
        if m.looksAhead && !s.has pairSpan && isHeldBack lit s t then (out, .error .ended)
        else coded m lit dist fuel t (out.push (UInt8.ofNat sym))
      else if sym = 256 || (285 < sym && m.looksAhead) then (out, .ok t)
      else
        match matchLength sym t with
        | .error e => (out, .error e)
        | .ok (n, t) =>
          match matchDistance m dist t with
          | .error e => (out, .error e)
          | .ok (d, t) =>
            if m.looksAhead && out.size < d then (out, .error (.faulty .distanceTooFar))
            else coded m lit dist fuel t (copyBack d (m.wanted out n) out)

/-- A stored block, which starts at a byte. -/
def stored (m : Manner) (s : BitStream) (out : Array UInt8) : Progress :=
  match s.aligned with
  | a :: b :: c :: d :: bytes =>
    let n := Bytes.littleEndian [a, b]
    if n + Bytes.littleEndian [c, d] ≠ 0xFFFF then (out, .error (.faulty .badStoredLength))
    else
      let wanted := m.wanted out n
      let all := out ++ (bytes.take wanted).toArray
      if bytes.length < wanted then (all, .error .ended)
      else if wanted < n then (all, .error .full)
      else (all, .ok (.up (bytes.drop n)))
  | _ => (out, .error .ended)

/-- The codes of a block without codes of its own. -/
def fixedLiterals : PrefixCode :=
  .ofLengths 15 (List.replicate 144 8 ++ List.replicate 112 9 ++ List.replicate 24 7 ++
    List.replicate 8 8)

def fixedDistances : PrefixCode :=
  .ofLengths 15 (List.replicate 32 5)

/-- The order in which the lengths of the length code are written. -/
def lengthOrder : List Nat :=
  [16, 17, 18, 0, 8, 7, 9, 6, 10, 5, 11, 4, 12, 3, 13, 2, 14, 1, 15]

/-- Reads `n` lengths of three bits. -/
def shortLengths : (n : Nat) → BitStream → Except Stop (List Nat × BitStream)
  | 0, s => .ok ([], s)
  | n + 1, s => do
    let (v, s) ← number s 3
    let (vs, s) ← shortLengths n s
    return (v :: vs, s)

/-- Reads code lengths until there are `total`; those in `done` are known, last first. -/
def codeLengths (m : Manner) (code : PrefixCode) (total : Nat) :
    (fuel : Nat) → List Nat → BitStream → Except Stop (List Nat × BitStream)
  | 0, _, _ => .error (.faulty .badLengthRepeat)
  | fuel + 1, done, s =>
    if total ≤ done.length then
      if total = done.length then .ok (done.reverse, s) else .error (.faulty .badLengthRepeat)
    else do
      m.await 7 s
      let (sym, s) ← symbol m code .badLengthCode s
      if sym < 16 then codeLengths m code total fuel (sym :: done) s
      else if sym = 16 then
        m.await 2 s
        match done with
        | [] => .error (.faulty .badLengthRepeat)
        | l :: _ =>
          let (v, s) ← number s 2
          codeLengths m code total fuel (List.replicate (3 + v) l ++ done) s
      else
        let (v, s) ← number s (if sym = 17 then 3 else 7)
        codeLengths m code total fuel
          (List.replicate ((if sym = 17 then 3 else 11) + v) 0 ++ done) s

/-- The codes that a block brings along. A reader that looks ahead wants a word for the end of
the block and has narrower rules for codes that are not complete. -/
def ownCodes (m : Manner) (s : BitStream) : Except Stop ((PrefixCode × PrefixCode) × BitStream) := do
  let (literals, s) ← number s 5
  let (distances, s) ← number s 5
  let (lengths, s) ← number s 4
  if 29 < literals then throw (.faulty .badLiteralCount)
  if 29 < distances then throw (.faulty .badDistanceCount)
  let (short, s) ← shortLengths (lengths + 4) s
  let placed := lengthOrder.zip short
  let code := PrefixCode.ofLengths 7 ((List.range 19).map fun i => (placed.lookup i).getD 0)
  if !code.isComplete then throw (.faulty .badLengthCode)
  let total := literals + 257 + (distances + 1)
  let (all, s) ← codeLengths m code total (total + 1) [] s
  let lit := PrefixCode.ofLengths 15 (all.take (literals + 257))
  let dist := PrefixCode.ofLengths 15 (all.drop (literals + 257))
  if m.looksAhead then
    if all[256]?.getD 0 = 0 then throw (.faulty .badLiteralCode)
    if !lit.isComplete then throw (.faulty .badLengthCode)
    if !dist.isComplete && !dist.isSparse then throw (.faulty .badDistanceCode)
  else
    if !lit.isComplete && !lit.isLone then throw (.faulty .badLengthCode)
    if !dist.isComplete && !dist.isLone then throw (.faulty .badDistanceCode)
  return ((lit, dist), s)

/-- One block. -/
def block (m : Manner) (kind : Nat) (s : BitStream) (out : Array UInt8) : Progress :=
  if kind = 0 then stored m s out
  else if kind = 1 then coded m fixedLiterals fixedDistances (s.bitsLeft + 1) s out
  else if kind = 2 then
    match ownCodes m s with
    | .ok ((lit, dist), s) => coded m lit dist (s.bitsLeft + 1) s out
    | .error e => (out, .error e)
  else (out, .error (.faulty .badBlockType))

/-- The bits that the shortest block takes. -/
def blockSpan : Nat := 10

/-- Whether a block is the last one, and its kind. -/
def blockStart (m : Manner) (s : BitStream) : Except Stop (Nat × BitStream) := do
  m.await blockSpan s
  number s 3

/-- Blocks up to the last one. -/
def blocks (m : Manner) : (fuel : Nat) → BitStream → Array UInt8 → Array UInt8 × Stop
  | 0, _, out => (out, .ended)
  | fuel + 1, s, out =>
    match blockStart m s with
    | .error e => (out, e)
    | .ok (v, s) =>
      match block m (v / 2) s out with
      | (out, .error e) => (out, e)
      | (out, .ok s) => if v % 2 = 1 then (out, .finished s.aligned) else blocks m fuel s out

/-- Whether two bytes are a header: the usual method, a window that exists, no dictionary,
and a multiple of 31. -/
def isHeader (a b : UInt8) : Bool :=
  a &&& 0x0F = 8 && a &&& 0xF0 ≤ 0x70 && b &&& 0x20 = 0 && (a.toNat * 256 + b.toNat) % 31 = 0

end Inflate

/-- Inflates as far as the data goes. -/
def inflate (m : Inflate.Manner) (bs : Bytes) : Array UInt8 × Inflate.Stop :=
  match bs with
  | a :: b :: rest =>
    if Inflate.isHeader a b then Inflate.blocks m (8 * rest.length + 1) (.up rest) #[]
    else (#[], .faulty .badHeader)
  | _ => (#[], .ended)

end ScanBinder
