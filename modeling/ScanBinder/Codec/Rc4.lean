import ScanBinder.Bytes

/-!
# Ciphers that add a stream of bytes

A key shuffles a table of all bytes. The table gives a stream, shuffling itself further, and a
message is combined with the stream bit by bit, so that enciphering twice gives the message
back.
-/

namespace ScanBinder.Rc4

/-- A shuffled table and two positions in it. -/
structure State where
  table : Array UInt8
  i : UInt8
  j : UInt8

/-- The byte of the table at a position. -/
def State.at (s : State) (i : UInt8) : UInt8 :=
  s.table[i.toNat]?.getD 0

/-- Exchanges the bytes at the two positions. -/
def State.exchange (s : State) : State :=
  let a := s.at s.i
  let b := s.at s.j
  { s with table := (s.table.setIfInBounds s.i.toNat b).setIfInBounds s.j.toNat a }

/-- One step of shuffling by a key: the position `n`, and the byte of the key for it. -/
def State.shuffle (key : Array UInt8) (s : State) (n : Nat) : State :=
  let i := UInt8.ofNat n
  let j := s.j + s.at i + key[n % key.size]?.getD 0
  { s with i, j }.exchange

/-- The table that a key shuffles. -/
def State.ofKey (key : Bytes) : State :=
  let s : State := ⟨((List.range 256).map UInt8.ofNat).toArray, 0, 0⟩
  { (List.range 256).foldl (State.shuffle key.toArray) s with i := 0, j := 0 }

/-- The next byte of the stream. -/
def State.next (s : State) : UInt8 × State :=
  let i := s.i + 1
  let s := { s with i, j := s.j + s.at i }.exchange
  (s.at (s.at s.i + s.at s.j), s)

/-- Combines a message with the stream; what is done stands in `done`, last byte first. -/
def run (s : State) (done : Bytes) : Bytes → Bytes
  | [] => done.reverse
  | b :: bs => let (k, s) := s.next; run s ((b ^^^ k) :: done) bs

end Rc4

/-- Enciphers or deciphers a message. -/
def rc4 (key message : Bytes) : Bytes :=
  Rc4.run (.ofKey key) [] message

end ScanBinder
