import ScanBinder.Bytes

/-!
# Bytes as printable characters

Five characters are the digits of a number in base 85 that stands for four bytes; a `!` is
zero, and each following character is one more. A `z` stands for four zeros, and a tilde ends
the data.
-/

namespace ScanBinder.Ascii85

/-- What can be wrong with the characters. -/
inductive Fault where
  | zerosInGroup
  | productTooLarge
  | sumTooLarge
deriving DecidableEq

def Fault.text : Fault → String
  | zerosInGroup => "z character is not allowed in the middle of a group"
  | productTooLarge => "multiplication overflow"
  | sumTooLarge => "addition overflow"

/-- The numbers that four bytes can stand for are below this one. -/
def groupLimit : Nat := 4294967296

/-- What a character is worth, counted in a circle from `!` on. -/
def digit (c : UInt8) : Nat :=
  (c - 0x21).toNat

/-- The digit that fills up a last group. -/
def highest : Nat := 84

/-- A number with one more digit. -/
def extend (n d : Nat) : Except Fault Nat :=
  if groupLimit ≤ 85 * n then .error .productTooLarge
  else if groupLimit ≤ 85 * n + d then .error .sumTooLarge
  else .ok (85 * n + d)

/-- A number with more digits, all of them the highest. -/
def fillUp : (missing n : Nat) → Except Fault Nat
  | 0, n => .ok n
  | missing + 1, n => do fillUp missing (← extend n highest)

/-- The bytes of a last group of `count` digits, which has one byte less than digits. -/
def lastBytes (count n : Nat) : Except Fault Bytes :=
  if count = 0 then .ok []
  else (fillUp (5 - count) n).map fun n => (Bytes.ofNatBE 4 n).take (count - 1)

/-- Whether a character only separates others. -/
def isBlank (c : UInt8) : Bool :=
  c = 0x20 || c = 0x09 || c = 0x0A || c = 0x0C || c = 0x0D

/-- Decodes characters; `count` digits of a group have been read and make up `n`, and `done`
holds the bytes of the groups before it, last first. -/
def run (count n : Nat) (done : Bytes) : Bytes → Except Fault Bytes
  | [] => (lastBytes count n).map (done.reverse ++ ·)
  | c :: cs =>
    if c = 0x7E then (lastBytes count n).map (done.reverse ++ ·)
    else if isBlank c then run count n done cs
    else if c = 0x7A then
      if count = 0 then run 0 0 ([0, 0, 0, 0] ++ done) cs else .error .zerosInGroup
    else
      match extend n (digit c) with
      | .error f => .error f
      | .ok n =>
        if count = 4 then run 0 0 ((Bytes.ofNatBE 4 n).reverse ++ done) cs
        else run (count + 1) n done cs

/-- The bytes that characters stand for. -/
def decode (cs : Bytes) : Except Fault Bytes :=
  run 0 0 [] cs

end ScanBinder.Ascii85
