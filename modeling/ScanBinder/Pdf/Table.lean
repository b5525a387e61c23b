import ScanBinder.Pdf.Filter
import ScanBinder.Pdf.Parse

/-!
# Cross-reference tables

A table says at which byte of the file each object starts. A file may hold several, each
one pointing to the table before it; what a newer table says of an object wins. A table is
written as text, or as the data of a stream.
-/

namespace ScanBinder.Pdf

/-- Where an object is: at a place in the file, or inside a stream. -/
inductive TableEntry where
  | plain (offset generation : Nat)
  | packed
deriving DecidableEq

/-- Entries by object number. Of several entries for one number the first counts. -/
abbrev Table := List (Nat × TableEntry)

/-- Object numbers have 32 bits. -/
def numberLimit : Nat := 4294967296

/-- The end of a line of the table. -/
def rowEnd : Bytes → Option Bytes
  | 0x20 :: 0x0D :: bs => some bs
  | 0x20 :: 0x0A :: bs => some bs
  | 0x0D :: 0x0A :: bs => some bs
  | _ => none

/-- What is left after one space. -/
def oneSpace (bs : Bytes) : Option Bytes :=
  expect [0x20] bs

/-- A row: where the object is, if it is in use. -/
def row (bs : Bytes) : Option (Option TableEntry × Bytes) := do
  let (offset, bs) ← natural 4294967296 bs
  let bs ← oneSpace bs
  let (generation, bs) ← natural 4294967296 bs
  let bs ← oneSpace bs
  match bs with
  | 0x6E :: bs =>
    let bs ← rowEnd bs
    return (if generation < 65536 then some (.plain offset generation) else none, bs)
  | 0x66 :: bs =>
    let bs ← rowEnd bs
    return (none, bs)
  | _ => none

/-- As many rows as there are, for the objects from `number` on, added to those known. -/
def rows : (fuel number : Nat) → Table → Bytes → Table × Bytes
  | 0, _, t, bs => (t, bs)
  | fuel + 1, number, t, bs =>
    match row bs with
    | none => (t, bs)
    | some (some e, bs) => rows fuel (number + 1) ((number % numberLimit, e) :: t) bs
    | some (none, bs) => rows fuel (number + 1) t bs

/-- The heading of a section: the number of its first object. -/
def sectionStart (bs : Bytes) : Option (Nat × Bytes) := do
  let (start, bs) ← natural 18446744073709551616 bs
  let bs ← oneSpace bs
  let (_, bs) ← natural 4294967296 bs
  let bs ← lineEnd ((oneSpace bs).getD bs)
  return (start, bs)

/-- As many sections as there are, added to those known. -/
def sections : (fuel : Nat) → Table → Bytes → Table × Bytes
  | 0, t, bs => (t, bs)
  | fuel + 1, t, bs =>
    match sectionStart bs with
    | none => (t, bs)
    | some (start, bs) =>
      let (t, bs) := rows bs.length start t bs
      sections fuel t bs

/-- A table written as text, and its trailer. -/
def textTable (bs : Bytes) : Option (Table × Dict) := do
  let bs ← (keyword "xref" bs).bind lineEnd
  let _ ← sectionStart bs
  let (t, bs) := sections (bs.length + 1) [] bs
  let bs ← keyword "trailer" (space bs)
  let (d, _) ← dictionary (fuelFor bs) (space bs)
  return (t, d)

/-! ## Tables in streams -/

/-- The integers of an array. -/
def integers? : Option Value → Option (List Int)
  | some (.array vs) => vs.mapM fun
    | .int n => some n
    | _ => none
  | _ => none

/-- A number of 32 bits in the next `width` bytes, and the bytes after them. -/
def field (width : Nat) (bs : Bytes) : Except Fault (Nat × Bytes) :=
  match Bytes.split? width bs with
  | some (n, bs) => .ok (Bytes.bigEndian n % numberLimit, bs)
  | none => .error .shortData

/-- An entry of three fields with the given widths. An entry of an unknown kind has only the
first field. -/
def fieldEntry (w₁ w₂ w₃ : Nat) (bs : Bytes) : Except Fault (Option TableEntry × Bytes) := do
  let (kind, bs) ← if w₁ = 0 then pure (1, bs) else field w₁ bs
  if 2 < kind then return (none, bs)
  let (second, bs) ← field w₂ bs
  let (third, bs) ← field w₃ bs
  return (if kind = 1 then some (.plain second (third % 65536))
    else if kind = 2 then some .packed else none, bs)

/-- Reads `count` entries for the objects from `number` on. -/
def fields (w₁ w₂ w₃ : Nat) : (count number : Nat) → Table → Bytes → Except Fault (Table × Bytes)
  | 0, _, t, bs => .ok (t, bs)
  | count + 1, number, t, bs => do
    match ← fieldEntry w₁ w₂ w₃ bs with
    | (some e, bs) => fields w₁ w₂ w₃ count (number + 1) ((number % numberLimit, e) :: t) bs
    | (none, bs) => fields w₁ w₂ w₃ count (number + 1) t bs

/-- Reads the sections of a table in a stream: pairs of a first number and a count. -/
def fieldSections (w₁ w₂ w₃ : Nat) : List Int → Table → Bytes → Except Fault Table
  | start :: count :: more, t, bs => do
    let number := (start % (numberLimit : Int)).toNat
    let (t, bs) ← fields w₁ w₂ w₃ count.toNat number t bs
    fieldSections w₁ w₂ w₃ more t bs
  | _, t, _ => .ok t

/-- A table in a stream, whose dictionary is the trailer. -/
def streamTable (s : Stream) : Except Fault (Table × Dict) := do
  let data ← match s.dict.get? "Filter" with
    | some _ => s.unpacked
    | none => .ok s.data
  match s.dict.get? "Size", integers? (s.dict.get? "W") with
  | some (.int size), some (w₁ :: w₂ :: w₃ :: _) =>
    if w₁ < 0 ∨ w₂ < 0 ∨ w₃ < 0 then throw .badTable
    else
      let index := (integers? (s.dict.get? "Index")).getD [0, size]
      return (← fieldSections w₁.toNat w₂.toNat w₃.toNat index [] data, s.dict)
  | _, _ => throw .badTable

/-- The table at the front of a byte string. The trailer of a table in text has to give the
number of objects. -/
def table (bs : Bytes) : Except Fault (Table × Dict) :=
  match textTable bs with
  | some (t, d) =>
    match d.get? "Size" with
    | some (.int _) => .ok (t, d)
    | _ => .error .badTrailer
  | none =>
    match indirectObject (fun _ => none) none bs with
    | some (_, .stream s) => streamTable s
    | some _ => .error .badTable
    | none => .error .badTrailer

end ScanBinder.Pdf
