import ScanBinder.Codec.BitStream

/-!
# Facsimile coding in two dimensions

A line of black and white pixels is given by its edges, the columns in which the shade
changes; every line starts white. It is coded with respect to the line before it: an edge
stands close to one of that line, an edge of that line has none here, or the next two runs
are written out. The first line follows a white one.
-/

namespace ScanBinder.Facsimile

inductive Shade where
  | white
  | black
deriving DecidableEq

def Shade.other : Shade → Shade
  | white => black
  | black => white

/-- How the next part of a line is coded. -/
inductive Mode where
  | pass
  | horizontal
  | vertical (shift : Int)
  | extension
  | ending
deriving DecidableEq

/-- The bits of a code word that is written with digits. -/
def word (digits : String) : List Bool :=
  digits.toList.map (· = '1')

def modes : List (List Bool × Mode) :=
  [(word "1", .vertical 0), (word "011", .vertical 1), (word "010", .vertical (-1)),
    (word "001", .horizontal), (word "0001", .pass), (word "000011", .vertical 2),
    (word "000010", .vertical (-2)), (word "0000011", .vertical 3),
    (word "0000010", .vertical (-3)), (word "0000001", .extension),
    (word "000000000001", .ending)]

/-- The words of the runs of 0 to 63 white pixels. -/
def shortWhite : List String :=
  ["00110101", "000111", "0111", "1000", "1011", "1100", "1110", "1111", "10011", "10100", "00111",
    "01000", "001000", "000011", "110100", "110101", "101010", "101011", "0100111", "0001100",
    "0001000", "0010111", "0000011", "0000100", "0101000", "0101011", "0010011", "0100100",
    "0011000", "00000010", "00000011", "00011010", "00011011", "00010010", "00010011", "00010100",
    "00010101", "00010110", "00010111", "00101000", "00101001", "00101010", "00101011", "00101100",
    "00101101", "00000100", "00000101", "00001010", "00001011", "01010010", "01010011", "01010100",
    "01010101", "00100100", "00100101", "01011000", "01011001", "01011010", "01011011", "01001010",
    "01001011", "00110010", "00110011", "00110100"]

/-- The words of the runs of 64, 128, …, 1728 white pixels. -/
def longWhite : List String :=
  ["11011", "10010", "010111", "0110111", "00110110", "00110111", "01100100", "01100101",
    "01101000", "01100111", "011001100", "011001101", "011010010", "011010011", "011010100",
    "011010101", "011010110", "011010111", "011011000", "011011001", "011011010", "011011011",
    "010011000", "010011001", "010011010", "011000", "010011011"]

/-- The words of the runs of 0 to 63 black pixels. -/
def shortBlack : List String :=
  ["0000110111", "010", "11", "10", "011", "0011", "0010", "00011", "000101", "000100", "0000100",
    "0000101", "0000111", "00000100", "00000111", "000011000", "0000010111", "0000011000",
    "0000001000", "00001100111", "00001101000", "00001101100", "00000110111", "00000101000",
    "00000010111", "00000011000", "000011001010", "000011001011", "000011001100", "000011001101",
    "000001101000", "000001101001", "000001101010", "000001101011", "000011010010", "000011010011",
    "000011010100", "000011010101", "000011010110", "000011010111", "000001101100", "000001101101",
    "000011011010", "000011011011", "000001010100", "000001010101", "000001010110", "000001010111",
    "000001100100", "000001100101", "000001010010", "000001010011", "000000100100", "000000110111",
    "000000111000", "000000100111", "000000101000", "000001011000", "000001011001", "000000101011",
    "000000101100", "000001011010", "000001100110", "000001100111"]

/-- The words of the runs of 64, 128, …, 1728 black pixels. -/
def longBlack : List String :=
  ["0000001111", "000011001000", "000011001001", "000001011011", "000000110011", "000000110100",
    "000000110101", "0000001101100", "0000001101101", "0000001001010", "0000001001011",
    "0000001001100", "0000001001101", "0000001110010", "0000001110011", "0000001110100",
    "0000001110101", "0000001110110", "0000001110111", "0000001010010", "0000001010011",
    "0000001010100", "0000001010101", "0000001011010", "0000001011011", "0000001100100",
    "0000001100101"]

/-- The words of the runs of 1792, 1856, …, 2560 pixels of either shade. -/
def longest : List String :=
  ["00000001000", "00000001100", "00000001101", "000000010010", "000000010011", "000000010100",
    "000000010101", "000000010110", "000000010111", "000000011100", "000000011101",
    "000000011110", "000000011111"]

/-- The length from which on a run goes on with another word. -/
def longRun : Nat := 64

/-- The words of runs, given those of short and of long ones. -/
def runWords (short long : List String) : List (List Bool × Nat) :=
  short.zipIdx.map (fun (digits, n) => (word digits, n)) ++
    (long ++ longest).zipIdx.map fun (digits, n) => (word digits, longRun * (n + 1))

def Shade.runs : Shade → List (List Bool × Nat)
  | white => runWords shortWhite longWhite
  | black => runWords shortBlack longBlack

/-- The stream after a word, if it starts with it. -/
def afterWord? : List Bool → BitStream → Option BitStream
  | [], s => some s
  | b :: w, s =>
    match s.next? with
    | some (c, s) => if b = c then afterWord? w s else none
    | none => none

/-- What the word at the front of the stream stands for. -/
def read? {α : Type} (table : List (List Bool × α)) (s : BitStream) : Option (α × BitStream) :=
  table.findSome? fun (w, a) => (afterWord? w s).map fun s => (a, s)

/-- The length of a run after `n` pixels of it. -/
def run? (table : List (List Bool × Nat)) :
    (fuel n : Nat) → BitStream → Option (Nat × BitStream)
  | 0, _, _ => none
  | fuel + 1, n, s =>
    match read? table s with
    | none => none
    | some (m, s) => if m < longRun then some (n + m, s) else run? table fuel (n + m) s

/-- A place among the edges of the line before. -/
structure Reference where
  edges : Array Nat
  place : Nat

namespace Reference

/-- The edge at the place, and the place after it. -/
def next (r : Reference) : Option Nat × Reference :=
  match r.edges[r.place]? with
  | some e => (some e, { r with place := r.place + 1 })
  | none => (none, r)

/-- Goes on to the first edge behind a column. -/
def pass (r : Reference) (column : Nat) : (fuel : Nat) → Reference
  | 0 => r
  | fuel + 1 =>
    match r.edges[r.place]? with
    | some e => if e ≤ column then { r with place := r.place + 1 }.pass column fuel else r
    | none => r

/-- The next edge behind a column where a shade begins. Edges at even places begin black. -/
def nextOf (r : Reference) (column : Nat) (shade : Shade) : Option Nat × Reference :=
  let r := r.pass column (r.edges.size + 1)
  if r.place < r.edges.size ∧ decide (r.place % 2 = 0) ≠ decide (shade = .black) then
    { r with place := r.place + 1 }.next
  else r.next

/-- Goes back to the first edge that is not before a column. -/
def back (r : Reference) (column : Nat) : (fuel : Nat) → Reference
  | 0 => r
  | fuel + 1 =>
    match r.place with
    | 0 => r
    | place + 1 =>
      if column < r.edges[place]?.getD 0 then { r with place }.back column fuel else r

/-- Goes back to a column, at most from the last edge. -/
def seekBack (r : Reference) (column : Nat) : Reference :=
  { r with place := min r.place (r.edges.size - 1) }.back column r.edges.size

/-- The first edge of a line where a shade begins. -/
def first (r : Reference) (shade : Shade) : Option Nat × Reference :=
  let place := if shade = .black then 0 else 1
  (r.edges[place]?, { r with place := place + 1 })

end Reference

/-- What comes of reading a line: its edges and the rest, the end of the data, or a word
without a meaning. -/
inductive Line where
  | edges (found : Array Nat) (rest : BitStream)
  | ending
  | bad

/-- Reads a line from column `a` on, in which the shade is `shade`; `fresh` says that nothing
of the line has been read. -/
def readLine (width : Nat) : (fuel : Nat) → (fresh : Bool) → (a : Nat) → Shade → Reference →
    (done : Array Nat) → BitStream → Line
  | 0, _, _, _, _, _, _ => .bad
  | fuel + 1, fresh, a, shade, r, done, s =>
    match read? modes s with
    | none => .bad
    | some (.ending, _) => .ending
    | some (.extension, _) => .bad
    | some (.pass, s) =>
      let (b, r) := if fresh then (some 0, { r with place := r.place + 1 })
        else r.nextOf a shade.other
      if b.isNone then .bad
      else
        let (e, r) := r.next
        let a := e.getD a
        if width ≤ a then .edges done s else readLine width fuel false a shade r done s
    | some (.vertical shift, s) =>
      let (b, r) := if fresh then r.first shade.other else r.nextOf a shade.other
      let column := (b.getD width : Int) + shift
      if column < 0 ∨ (width : Int) ≤ column then .edges done s
      else
        let a := column.toNat
        let r := if shift < 0 then r.seekBack a else r
        readLine width fuel false a shade.other r (done.push a) s
    | some (.horizontal, s) =>
      match run? shade.runs (s.bitsLeft + 1) 0 s with
      | none => .bad
      | some (n, s) =>
        match run? shade.other.runs (s.bitsLeft + 1) 0 s with
        | none => .bad
        | some (m, s) =>
          if width ≤ a + n then .edges (done.push (a + n)) s
          else
            let done := (done.push (a + n)).push (a + n + m)
            if width ≤ a + n + m then .edges done s
            else readLine width fuel false (a + n + m) shade r done s

/-- The pixels from column `last` on, black as `true`. -/
def pixelsFrom : (last : Nat) → (black : Bool) → (edges : List Nat) → List Bool
  | _, _, [] => []
  | last, black, e :: edges => List.replicate (e - last) black ++ pixelsFrom e (!black) edges

/-- The pixels of a line; the last shade goes on to its end. -/
def pixels (width : Nat) (edges : Array Nat) : List Bool :=
  let drawn := (pixelsFrom 0 false edges.toList).take width
  drawn ++ List.replicate (width - drawn.length) (decide (edges.size % 2 = 1))

/-- Bits packed into bytes, the first most significant; zeros fill up the last one. -/
def packBits : (fuel : Nat) → List Bool → Bytes
  | 0, _ => []
  | _, [] => []
  | fuel + 1, bits =>
    let byte := (List.range 8).foldl (fun n i => 2 * n + (bits[i]?.getD false).toNat) 0
    UInt8.ofNat byte :: packBits fuel (bits.drop 8)

/-- The bytes of up to `count` lines, black as ones, and whether a word without a meaning came
before the last of them. The lines in `done` come first, the last in front. -/
def decodeLines (width : Nat) : (count : Nat) → (before : Array Nat) → (done : List Bytes) →
    BitStream → Bytes × Bool
  | 0, _, done, _ => (done.reverse.flatten, false)
  | count + 1, before, done, s =>
    match readLine width (s.bitsLeft + 1) true 0 .white ⟨before, 0⟩ #[] s with
    | .edges found rest =>
      decodeLines width count found (packBits width (pixels width found) :: done) rest
    | .ending => (done.reverse.flatten, false)
    | .bad => (done.reverse.flatten, true)

/-- Decodes up to `count` lines. -/
def decode (width count : Nat) (data : Bytes) : Bytes × Bool :=
  decodeLines width count #[] [] (.down data)

end ScanBinder.Facsimile
