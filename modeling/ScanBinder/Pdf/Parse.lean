import ScanBinder.Number.Decimal
import ScanBinder.Pdf.Write

/-!
# Reading PDF syntax

A reader takes the front of a byte string and gives what it has read and the rest, or
nothing if the front is not of its kind. White space is skipped after a value, not before
it.
-/

namespace ScanBinder.Pdf

/-- What is left after a fixed front. -/
def expect (front : Bytes) (bs : Bytes) : Option Bytes :=
  if front.isPrefixOf bs then some (bs.drop front.length) else none

/-- What is left after a fixed text. -/
def keyword (s : String) (bs : Bytes) : Option Bytes :=
  expect (Bytes.ofText s) bs

def isLineEnd (b : UInt8) : Bool :=
  b = 0x0D || b = 0x0A

/-- What is left after the end of a line. -/
def lineEnd : Bytes → Option Bytes
  | 0x0D :: 0x0A :: bs => some bs
  | b :: bs => if isLineEnd b then some bs else none
  | [] => none

/-- What is left after white space and comments. A comment ends with its line and counts
only if the line ends. -/
def skipSpace (inComment : Bool) : Bytes → Bytes
  | [] => []
  | b :: bs =>
    if inComment then skipSpace (!isLineEnd b) bs
    else if isSpace b then skipSpace false bs
    else if b = 0x25 && bs.any isLineEnd then skipSpace true bs
    else b :: bs

/-- What is left after white space and comments. -/
def space (bs : Bytes) : Bytes :=
  skipSpace false bs

/-! ## Numbers -/

def decimalDigit? (b : UInt8) : Option Nat :=
  if 0x30 ≤ b ∧ b ≤ 0x39 then some (b.toNat - 0x30) else none

/-- The digits at the front. -/
def takeNumerals : Bytes → List Nat × Bytes
  | [] => ([], [])
  | b :: bs =>
    match decimalDigit? b with
    | some d => let (ds, rest) := takeNumerals bs; (d :: ds, rest)
    | none => ([], b :: bs)

/-- A natural number below a limit. -/
def natural (limit : Nat) (bs : Bytes) : Option (Nat × Bytes) :=
  match takeNumerals bs with
  | ([], _) => none
  | (ds, rest) => if digitsValue ds < limit then some (digitsValue ds, rest) else none

/-- Whether there is a minus sign, and what is left after a sign. -/
def sign : Bytes → Bool × Bytes
  | 0x2D :: bs => (true, bs)
  | 0x2B :: bs => (false, bs)
  | bs => (false, bs)

/-- An integer of 64 bits. -/
def integer (bs : Bytes) : Option (Int × Bytes) :=
  let (negative, bs) := sign bs
  match takeNumerals bs with
  | ([], _) => none
  | (ds, rest) =>
    let n : Int := if negative then -(digitsValue ds : Int) else digitsValue ds
    if -9223372036854775808 ≤ n ∧ n < 9223372036854775808 then some (n, rest) else none

/-- A number with a point, and a digit before or after it. -/
def real (bs : Bytes) : Option (Single × Bytes) :=
  let (negative, bs) := sign bs
  let (whole, bs) := takeNumerals bs
  match bs with
  | 0x2E :: bs =>
    let (places, bs) := takeNumerals bs
    if whole.isEmpty && places.isEmpty then none
    else
      some (Binary.ofDecimal .single negative ⟨digitsValue (whole ++ places), -places.length⟩, bs)
  | _ => none

/-- The number and generation of an object. -/
def objectId (bs : Bytes) : Option (ObjectId × Bytes) :=
  match natural 4294967296 bs with
  | none => none
  | some (n, bs) =>
    match natural 65536 (space bs) with
    | none => none
    | some (g, bs) => some (⟨n, g⟩, space bs)

/-- A reference to an object. -/
def reference (bs : Bytes) : Option (ObjectId × Bytes) :=
  match objectId bs with
  | some (id, 0x52 :: bs) => some (id, bs)
  | _ => none

/-! ## Names and strings -/

def hexValue? (b : UInt8) : Option Nat :=
  if 0x30 ≤ b ∧ b ≤ 0x39 then some (b.toNat - 0x30)
  else if 0x41 ≤ b ∧ b ≤ 0x46 then some (b.toNat - 0x41 + 10)
  else if 0x61 ≤ b ∧ b ≤ 0x66 then some (b.toNat - 0x61 + 10)
  else none

/-- The characters of a name. A number sign stands for the character whose two hexadecimal
digits follow it; without them the name ends before it. -/
def nameChars : Bytes → Bytes × Bytes
  | 0x23 :: h :: l :: bs =>
    match hexValue? h, hexValue? l with
    | some hi, some lo =>
      let (n, rest) := nameChars bs
      (UInt8.ofNat (16 * hi + lo) :: n, rest)
    | _, _ => ([], 0x23 :: h :: l :: bs)
  | b :: bs =>
    if isRegular b then
      let (n, rest) := nameChars bs
      (b :: n, rest)
    else ([], b :: bs)
  | [] => ([], [])

def name : Bytes → Option (Bytes × Bytes)
  | 0x2F :: bs => some (nameChars bs)
  | _ => none

/-- How deep parentheses may be nested inside a string. -/
def nestingLimit : Nat := 100

def octalDigit? (b : UInt8) : Option Nat :=
  if 0x30 ≤ b ∧ b ≤ 0x37 then some (b.toNat - 0x30) else none

/-- The character that a letter stands for behind a backslash. -/
def escaped (b : UInt8) : UInt8 :=
  if b = 0x6E then 0x0A
  else if b = 0x72 then 0x0D
  else if b = 0x74 then 0x09
  else if b = 0x62 then 0x08
  else if b = 0x66 then 0x0C
  else b

/-- A string from behind its opening parenthesis on: `opened` parentheses inside it wait
for their partners, and `done` holds the characters so far, the last in front. -/
def literal (opened : Nat) (done : Bytes) : Bytes → Option (Bytes × Bytes)
  | [] => none
  | 0x5C :: bs =>
    match bs with
    | [] => none
    | 0x0D :: 0x0A :: bs => literal opened done bs
    | c :: bs =>
      if isLineEnd c then literal opened done bs
      else
        match octalDigit? c with
        | none => literal opened (escaped c :: done) bs
        | some d₁ =>
          match bs with
          | [] => none
          | c₂ :: bs₂ =>
            match octalDigit? c₂ with
            | none => literal opened (UInt8.ofNat d₁ :: done) (c₂ :: bs₂)
            | some d₂ =>
              match bs₂ with
              | [] => none
              | c₃ :: bs₃ =>
                match octalDigit? c₃ with
                | none => literal opened (UInt8.ofNat (8 * d₁ + d₂) :: done) (c₃ :: bs₃)
                | some d₃ => literal opened (UInt8.ofNat (64 * d₁ + 8 * d₂ + d₃) :: done) bs₃
  | b :: bs =>
    if b = 0x29 then
      match opened with
      | 0 => some (done.reverse, bs)
      | n + 1 => literal n (b :: done) bs
    else if b = 0x28 then
      if nestingLimit ≤ opened then none else literal (opened + 1) (b :: done) bs
    else literal opened (b :: done) bs
termination_by structural bs => bs

/-- The bytes of hexadecimal digits; a missing last digit is zero. -/
def hexPairs : List Nat → Bytes
  | a :: b :: ds => UInt8.ofNat (16 * a + b) :: hexPairs ds
  | [a] => [UInt8.ofNat (16 * a)]
  | [] => []

/-- A string of hexadecimal digits from behind its opening bracket on; `done` holds the
digits so far, the last in front. -/
def hexString (done : List Nat) : Bytes → Option (Bytes × Bytes)
  | [] => none
  | b :: bs =>
    if isSpace b then hexString done bs
    else if b = 0x3E then some (hexPairs done.reverse, bs)
    else match hexValue? b with
      | some d => hexString (d :: done) bs
      | none => none

/-! ## Values -/

/-- A value without parts. -/
def atom (bs : Bytes) : Option (Value × Bytes) :=
  match keyword "null" bs with
  | some bs => some (.null, bs)
  | none =>
  match keyword "true" bs with
  | some bs => some (.bool true, bs)
  | none =>
  match keyword "false" bs with
  | some bs => some (.bool false, bs)
  | none =>
  match reference bs with
  | some (id, bs) => some (.ref id, bs)
  | none =>
  match real bs with
  | some (x, bs) => some (.real x, bs)
  | none =>
  match integer bs with
  | some (n, bs) => some (.int n, bs)
  | none =>
  match name bs with
  | some (n, bs) => some (.name n, bs)
  | none => none

mutual

/-- A value and the white space after it. -/
def value : (fuel : Nat) → Bytes → Option (Value × Bytes)
  | 0, _ => none
  | fuel + 1, bs =>
    match atom bs with
    | some (v, bs) => some (v, space bs)
    | none =>
      match bs with
      | 0x28 :: bs => (literal 0 [] bs).map fun (s, bs) => (.str s, space bs)
      | 0x5B :: bs =>
        match items fuel (space bs) with
        | (vs, 0x5D :: bs) => some (.array vs, space bs)
        | _ => none
      | 0x3C :: bs =>
        match hexString [] bs with
        | some (s, bs) => some (.str s, space bs)
        | none =>
          match dictionary fuel (0x3C :: bs) with
          | some (d, bs) => some (.dict d, space bs)
          | none => none
      | _ => none

/-- As many values as there are. -/
def items : (fuel : Nat) → Bytes → List Value × Bytes
  | 0, bs => ([], bs)
  | fuel + 1, bs =>
    match value fuel bs with
    | some (v, rest) => let (vs, rest) := items fuel rest; (v :: vs, rest)
    | none => ([], bs)

/-- A dictionary. The last value of a key counts. -/
def dictionary : (fuel : Nat) → Bytes → Option (Dict × Bytes)
  | 0, _ => none
  | fuel + 1, bs =>
    match bs with
    | 0x3C :: 0x3C :: bs =>
      match entries fuel [] (space bs) with
      | (d, 0x3E :: 0x3E :: bs) => some (d, bs)
      | _ => none
    | _ => none

/-- As many keys and values as there are, added to those known. -/
def entries : (fuel : Nat) → Dict → Bytes → Dict × Bytes
  | 0, d, bs => (d, bs)
  | fuel + 1, d, bs =>
    match name bs with
    | none => (d, bs)
    | some (k, rest) =>
      match value fuel (space rest) with
      | some (v, rest) => entries fuel (Dict.set d k v) rest
      | none => (d, bs)

end

/-- Enough fuel for all the values in a byte string. -/
def fuelFor (bs : Bytes) : Nat :=
  2 * bs.length + 2

/-- What is left after the start of a numbered object, which has to have the given number if
there is one. -/
def objectStart (expected : Option ObjectId) (bs : Bytes) : Option (ObjectId × Bytes) :=
  match objectId (space bs) with
  | none => none
  | some (id, bs) =>
    match keyword "obj" bs with
    | none => none
    | some bs => if expected.all (· = id) then some (id, space bs) else none

/-- What is left after blanks and tabulators. -/
def skipBlanks (bs : Bytes) : Bytes :=
  bs.dropWhile fun b => b = 0x20 || b = 0x09

/-- What became of reading a stream. -/
inductive StreamResult where
  | notStream
  | broken
  | read (s : Stream)

/-- A stream, its dictionary first. `lengthOf` finds the number that a reference stands for.
Without a usable length the data is left out. -/
def stream (lengthOf : ObjectId → Option Int) (bs : Bytes) : StreamResult :=
  match dictionary (fuelFor bs) bs with
  | none => .notStream
  | some (d, rest) =>
    match (keyword "stream" (space rest)).bind fun rest => lineEnd (skipBlanks rest) with
    | none => .notStream
    | some rest =>
      let length := match d.get? "Length" with
        | some (.int n) => some n
        | some (.ref id) => lengthOf id
        | _ => none
      match length with
      | none => .read ⟨d, [], true⟩
      | some n =>
        if n < 0 then .broken
        else
          match Bytes.split? n.toNat rest with
          | none => .notStream
          | some (data, rest) =>
            let rest := (lineEnd rest).getD rest
            match keyword "endstream" rest with
            | some _ => .read ⟨d, data, true⟩
            | none => .notStream

/-- The object at the front of a byte string. What follows it does not matter. -/
def indirectObject (lengthOf : ObjectId → Option Int) (expected : Option ObjectId) (bs : Bytes) :
    Option (ObjectId × Object) :=
  match objectStart expected bs with
  | none => none
  | some (id, bs) =>
    match stream lengthOf bs with
    | .broken => none
    | .read s => some (id, .stream s)
    | .notStream =>
      match value (fuelFor bs) bs with
      | some (v, _) => some (id, .value v)
      | none => none

end ScanBinder.Pdf
