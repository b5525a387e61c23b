import ScanBinder.Number.Decimal
import ScanBinder.Pdf.Object

/-!
# Writing PDF files

A file is a header, the objects one after another, a table of where each of them starts,
and the trailer. Stream data is stored as it is.
-/

namespace ScanBinder.Pdf

/-- The digits of a natural number. -/
def natBytes (n : Nat) : Bytes :=
  (Nat.toDigits 10 n).map fun c => UInt8.ofNat c.toNat

/-- The digits of an integer behind its sign. -/
def intBytes (n : Int) : Bytes :=
  if n < 0 then 0x2D :: natBytes n.natAbs else natBytes n.natAbs

def isSpace (b : UInt8) : Bool :=
  b = 0x20 || b = 0x09 || b = 0x0A || b = 0x0D || b = 0x00 || b = 0x0C

/-- The characters `( ) < > [ ] { } / %`. -/
def isDelimiter (b : UInt8) : Bool :=
  b = 0x28 || b = 0x29 || b = 0x3C || b = 0x3E || b = 0x5B || b = 0x5D || b = 0x7B || b = 0x7D ||
    b = 0x2F || b = 0x25

/-- A character that stands for itself in a name. -/
def isRegular (b : UInt8) : Bool :=
  !isSpace b && !isDelimiter b && b ≠ 0x23

/-- A hexadecimal digit. -/
def hexDigit (n : Nat) : UInt8 :=
  UInt8.ofNat (Nat.digitChar n).toNat

/-- A character of a name, by its number if it cannot stand for itself. -/
def nameByte (b : UInt8) : Bytes :=
  if isRegular b && 0x21 ≤ b && b ≤ 0x7E then [b]
  else [0x23, hexDigit (b.toNat / 16), hexDigit (b.toNat % 16)]

def nameBytes (n : Bytes) : Bytes :=
  0x2F :: n.flatMap nameByte

/-- Marks each byte of a string with whether it needs a backslash, from the end backwards:
`closing` parentheses wait for an opening one. Gives the marks and how many still wait. -/
def markOpening : Bytes → List Bool × Nat
  | [] => ([], 0)
  | b :: bs =>
    let (marks, closing) := markOpening bs
    if b = 0x29 then (false :: marks, closing + 1)
    else if b = 0x28 then
      if closing = 0 then (true :: marks, 0) else (false :: marks, closing - 1)
    else (false :: marks, closing)

/-- Marks each byte that needs a backslash: a backslash, a carriage return, and a
parenthesis without its partner. `opened` parentheses wait for a closing one. -/
def escapeMarks (opened : Nat) : Bytes → List Bool → List Bool
  | b :: bs, m :: ms =>
    if b = 0x28 then m :: escapeMarks (if m then opened else opened + 1) bs ms
    else if b = 0x29 then (opened = 0) :: escapeMarks (opened - 1) bs ms
    else (b = 0x5C || b = 0x0D) :: escapeMarks opened bs ms
  | _, _ => []

/-- A byte of a string, behind a backslash if it is marked. -/
def stringByte (b : UInt8) (marked : Bool) : Bytes :=
  if marked then [0x5C, if b = 0x0D then 0x72 else b] else [b]

/-- A string between parentheses. -/
def stringBytes (s : Bytes) : Bytes :=
  let marks := escapeMarks 0 s (markOpening s).1
  0x28 :: (List.zipWith stringByte s marks).flatten ++ [0x29]

mutual

/-- A value as it is written. -/
def Value.bytes : Value → Bytes
  | .null => Bytes.ofText "null"
  | .bool b => Bytes.ofText (if b then "true" else "false")
  | .int n => intBytes n
  | .real x => Bytes.ofText x.text
  | .name n => nameBytes n
  | .str s => stringBytes s
  | .array items => 0x5B :: itemBytes items ++ [0x5D]
  | .dict entries => [0x3C, 0x3C] ++ entryBytes entries ++ [0x3E, 0x3E]
  | .ref id => natBytes id.number ++ 0x20 :: natBytes id.generation ++ [0x20, 0x52]

/-- Values, each behind a space. -/
def itemBytes : List Value → Bytes
  | [] => []
  | v :: vs => 0x20 :: v.bytes ++ itemBytes vs

/-- Keys and values with spaces between them. -/
def entryBytes : List (Bytes × Value) → Bytes
  | [] => []
  | (k, v) :: es => nameBytes k ++ 0x20 :: v.bytes ++ 0x20 :: entryBytes es

end

/-- An object as it is written. -/
def Object.bytes : Object → Bytes
  | .value v => v.bytes
  | .stream s =>
    (Value.dict s.dict).bytes ++ Bytes.ofText "stream\n" ++ s.data ++ Bytes.ofText "\nendstream"

/-- An object with its number. -/
def indirectBytes (id : ObjectId) (o : Object) : Bytes :=
  natBytes id.number ++ 0x20 :: natBytes id.generation ++ Bytes.ofText " obj\n" ++ o.bytes ++
    Bytes.ofText "\nendobj\n"

/-- The header, with a line that shows that the file is not plain text. -/
def headerBytes (version : String) : Bytes :=
  Bytes.ofText ("%PDF-" ++ version ++ "\n") ++ [0x25, 0xBB, 0xAD, 0xC0, 0xDE, 0x0A]

/-- Where each object starts, if the first one starts at `offset`. -/
def offsets (offset : Nat) : List (ObjectId × Object) → List (ObjectId × Nat)
  | [] => []
  | (id, o) :: rest => (id, offset) :: offsets (offset + (indirectBytes id o).length) rest

/-- The digits of a number, with zeros in front to make up the width. -/
def paddedBytes (width n : Nat) : Bytes :=
  List.replicate (width - (natBytes n).length) 0x30 ++ natBytes n

/-- The part of the table for one object. -/
def tableEntry (id : ObjectId) (offset : Nat) : Bytes :=
  natBytes id.number ++ Bytes.ofText " 1\n" ++ paddedBytes 10 offset ++ 0x20 ::
    paddedBytes 5 id.generation ++ Bytes.ofText " n \n"

/-- The largest object number and one more. -/
def Document.size (d : Document) : Nat :=
  d.objects.foldl (fun n o => max n (o.1.number + 1)) 1

/-- A document as a file. -/
def Document.bytes (d : Document) : Bytes :=
  let head := headerBytes d.version
  let body := d.objects.flatMap fun (id, o) => indirectBytes id o
  let table := Bytes.ofText "xref\n0 1\n0000000000 65535 f \n" ++
    (offsets head.length d.objects).flatMap fun (id, offset) => tableEntry id offset
  let trailer := Dict.set d.trailer (Bytes.ofText "Size") (.int d.size)
  head ++ body ++ table ++ Bytes.ofText "trailer\n" ++ (Value.dict trailer).bytes ++
    Bytes.ofText "\nstartxref\n" ++ natBytes (head.length + body.length) ++ Bytes.ofText "\n%%EOF"

end ScanBinder.Pdf
