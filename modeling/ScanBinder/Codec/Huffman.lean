import ScanBinder.Codec.BitStream

/-!
# Canonical prefix codes

A canonical code is given by the length of each symbol's code word: shorter words come
before longer ones, and words of one length follow the order of the symbols. It is kept as
the number of words of each length and the symbols in the order of their words.
-/

namespace ScanBinder

structure PrefixCode where
  /-- How many words have one bit, two bits, and so on. -/
  counts : List Nat
  symbols : Array Nat

namespace PrefixCode

/-- The code in which symbol `i` has a word of `lengths[i]` bits, or none if that is zero. -/
def ofLengths (longest : Nat) (lengths : List Nat) : PrefixCode :=
  let lens := (List.range longest).map (· + 1)
  { counts := lens.map fun n => lengths.count n
    symbols := (lens.flatMap fun n =>
      lengths.zipIdx.filterMap fun (l, i) => if l = n then some i else none).toArray }

/-- How many more of the longest words would fit; nothing if there are too many words. -/
def room? (c : PrefixCode) : Option Nat :=
  c.counts.foldl
    (fun left n => left.bind fun left => if n ≤ 2 * left then some (2 * left - n) else none)
    (some 1)

/-- Every sequence of bits starts with one word. -/
def isComplete (c : PrefixCode) : Bool :=
  c.room? = some 0

/-- There is no word, or only one, of a single bit. -/
def isSparse (c : PrefixCode) : Bool :=
  c.symbols.size = 0 || (c.symbols.size = 1 && c.counts.head? = some 1)

/-- There is no word, or only one. -/
def isLone (c : PrefixCode) : Bool :=
  c.symbols.size ≤ 1

/-- Why no symbol could be read. -/
inductive Miss where
  | ended
  | noWord
deriving DecidableEq

/-- Walks the word lengths. The words of the present length start at the number `first`,
and their symbols at `index`; `code` holds the bits read so far. -/
def walkLengths (symbols : Array Nat) :
    (counts : List Nat) → (code first index : Nat) → BitStream → Except Miss (Nat × BitStream)
  | [], _, _, _, _ => .error .noWord
  | n :: counts, code, first, index, s =>
    match s.next? with
    | none => .error .ended
    | some (b, s) =>
      let code := code + b.toNat
      if code < first + n then
        match symbols[index + (code - first)]? with
        | some v => .ok (v, s)
        | none => .error .noWord
      else walkLengths symbols counts (2 * code) (2 * (first + n)) (index + n) s

/-- The next symbol. -/
def symbol (c : PrefixCode) (s : BitStream) : Except Miss (Nat × BitStream) :=
  walkLengths c.symbols c.counts 0 0 0 s

/-- The symbol of an only word, which is all zeros. The first bit that cannot belong to it ends
the reading. -/
def loneSymbol (symbols : Array Nat) :
    (counts : List Nat) → BitStream → Except Miss (Nat × BitStream)
  | [], s => if s.next?.isSome then .error .noWord else .error .ended
  | n :: counts, s =>
    match s.next? with
    | none => .error .ended
    | some (true, _) => .error .noWord
    | some (false, s) =>
      if n = 0 then loneSymbol symbols counts s
      else
        match symbols[0]? with
        | some v => .ok (v, s)
        | none => .error .noWord

/-- The next symbol, with as few bits as tell that there is none. -/
def promptSymbol (c : PrefixCode) (s : BitStream) : Except Miss (Nat × BitStream) :=
  if c.symbols.isEmpty then loneSymbol c.symbols [] s
  else if c.isLone then loneSymbol c.symbols c.counts s
  else c.symbol s

end PrefixCode

end ScanBinder
