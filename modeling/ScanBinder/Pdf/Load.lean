import ScanBinder.Pdf.Packed
import ScanBinder.Pdf.Security
import ScanBinder.Pdf.Table

/-!
# Reading PDF files

The end of a file says where its newest cross-reference table starts. Every object of the
tables is read, and goes by the number that it calls itself; one that cannot be read is left
out.
-/

namespace ScanBinder.Pdf

/-- The byte string from the first place on where `pattern` stands. -/
def fromFirst (pattern : Bytes) : Bytes → Option Bytes
  | [] => if pattern.isEmpty then some [] else none
  | b :: bs => if pattern.isPrefixOf (b :: bs) then some (b :: bs) else fromFirst pattern bs

/-- The last place where `pattern` stands; `place` is that of the front, and `best` the last
one found before it. -/
def lastPlace (pattern : Bytes) (place : Nat) (best : Option Nat) : Bytes → Option Nat
  | [] => best
  | b :: bs =>
    lastPlace pattern (place + 1) (if pattern.isPrefixOf (b :: bs) then some place else best) bs

/-- The last place from `start` on where `pattern` stands. -/
def lastFrom (pattern : Bytes) (start : Nat) (bs : Bytes) : Option Nat :=
  lastPlace pattern start none (bs.drop start)

/-- The version in the first line, which has to end. -/
def header (bs : Bytes) : Option String := do
  let bs ← keyword "%PDF-" bs
  if !bs.any isLineEnd then none
  else Bytes.toText? (bs.takeWhile fun b => !isLineEnd b)

/-- How far from the end of a file its last mark is looked for. -/
def tailLength : Nat := 512

/-- How far before the last mark the start of the table is looked for. -/
def startReach : Nat := 25

/-- What is left after any number of spaces. -/
def skipSpaces (bs : Bytes) : Bytes :=
  bs.dropWhile (· = 0x20)

/-- The number that the end of a file gives as the start of its table. -/
def tableStart (file : Bytes) : Option Int := do
  let mark ← lastFrom (Bytes.ofText "%%EOF") (file.length - tailLength) file
  if mark ≤ startReach then none
  else
    let place ← lastFrom (Bytes.ofText "startxref") (mark - startReach) file
    let bs ← (keyword "startxref" (file.drop place)).bind lineEnd
    let (n, bs) ← integer (skipSpaces bs)
    let bs ← lineEnd (skipSpaces bs)
    let _ ← keyword "%%EOF" bs
    return n

/-- The table at an offset of the file; `f` says that there is no such offset. -/
def tableAt (file : Bytes) (offset : Int) (f : Fault) : Except Fault (Table × Dict) :=
  if offset < 0 ∨ (file.length : Int) < offset then .error f
  else table (file.drop offset.toNat)

/-- The table in a further stream, which a trailer may name beside an older table. -/
def extraTable (file : Bytes) (trailer : Dict) : Except Fault Table :=
  match trailer.get? "XRefStm" with
  | some (.int n) => (tableAt file n .badExtra).map (·.1)
  | _ => .ok []

/-- Adds the older tables that a trailer leads to. `seen` holds the offsets that have been
read, so that a cycle ends. The further stream of the newest trailer comes right behind the
first older table. -/
def olderTables (file : Bytes) (newest : Dict) : (fuel : Nat) → (seen : List Int) → Table → Dict →
    Except Fault Table
  | 0, _, t, _ => .ok t
  | fuel + 1, seen, t, trailer =>
    match trailer.get? "Prev" with
    | some (.int prev) =>
      if seen.contains prev then .ok t
      else do
        let (older, trailer) ← tableAt file prev .badPrevious
        let extra ← if seen.isEmpty then extraTable file newest else pure []
        olderTables file newest fuel (prev :: seen) (t ++ older ++ extra) trailer
    | _ => .ok t

/-- The integer that an object of the table is, if it is one. -/
def lengthIn (file : Bytes) (t : Table) (id : ObjectId) : Option Int :=
  match t.lookup id.number with
  | some (.plain offset generation) =>
    if generation = id.generation then
      match objectStart (some id) (file.drop offset) with
      | some (_, bs) =>
        match value (fuelFor bs) bs with
        | some (.int n, _) => some n
        | _ => none
      | none => none
    else none
  | _ => none

/-- The entries that count, by number. -/
def Table.effective (t : Table) : Table :=
  let numbers := ((t.map (·.1)).eraseDups).mergeSort (· ≤ ·)
  numbers.filterMap fun n => (t.lookup n).map (n, ·)

/-- The object that an entry of the table leads to. -/
def objectAt? (file : Bytes) (t : Table) : TableEntry → Option (ObjectId × Object)
  | .packed => none
  | .plain offset _ =>
    if file.length < offset then none
    else indirectObject (lengthIn file t) none (file.drop offset)

/-- Whether an object can be used. A stream of objects that does not say where they are
cannot. -/
def Object.isUsable : Object → Bool
  | .stream s => !s.isPacked || s.objects?.isSome
  | .value _ => true

/-- The objects inside an object. -/
def objectsWithin : ObjectId × Object → List (ObjectId × Object)
  | (_, .stream s) => if s.isPacked then s.objects?.getD [] else []
  | _ => []

/-- Whether one object comes before another: by number, then by generation. -/
def ObjectId.le (a b : ObjectId) : Bool :=
  a.number < b.number || (a.number = b.number && a.generation ≤ b.generation)

/-- Objects in order. Of several with the same number the last one counts. -/
def inOrder (os : List (ObjectId × Object)) : List (ObjectId × Object) :=
  let ids := ((os.map (·.1)).eraseDups).mergeSort ObjectId.le
  ids.filterMap fun id => (os.reverse.lookup id).map (id, ·)

/-- The objects of a table: those in the file, and those inside of them that are not in the
file by themselves. Objects in the file are read through `decipher`. -/
def Table.objects (t : Table) (file : Bytes) (decipher : ObjectId → Object → Object) :
    List (ObjectId × Object) :=
  let found := t.effective.filterMap fun (_, e) => objectAt? file t e
  let plain := (found.map fun (id, o) => (id, decipher id o)).filter (·.2.isUsable)
  inOrder (plain.flatMap objectsWithin ++ plain)

/-- The object of the given number among those that the entries of a table lead to. -/
def Table.object? (t : Table) (file : Bytes) (id : ObjectId) : Option Object :=
  (t.effective.filterMap fun (_, e) => objectAt? file t e).reverse.lookup id

/-- The objects of an encrypted file, whose dictionary `guard` leads to. If it cannot be opened,
only that dictionary is there. -/
def Table.protectedObjects (t : Table) (file : Bytes) (trailer : Dict) (guard : Value) :
    Except Fault (List (ObjectId × Object)) :=
  match guard with
  | .ref id =>
    match t.object? file id with
    | some (.value (.dict dict)) =>
      match Protection.read? dict trailer with
      | none => .ok [(id, .value (.dict dict))]
      | some p =>
        if !p.isOpenedBy [] then .ok [(id, .value (.dict dict))]
        else
          match Dict.get? dict "Filter" with
          | some (.name n) =>
            if n = Bytes.ofText "Standard" then
              let key := p.fileKey []
              .ok (t.objects file fun i o => if i = id then o else p.decipher key i o)
            else .error .unknownHandler
          | some v => .error (.wrongKind Kind.name.text v.kind)
          | none => .error (.missingKey "Filter")
    | some o => .ok [(id, o)]
    | none => .ok []
  | _ => .ok []

/-- Reads a file. Bytes before the first line do not count. -/
def Document.ofBytes (bytes : Bytes) : Except Fault Document := do
  let file := (fromFirst (Bytes.ofText "%PDF-") bytes).getD bytes
  match header file with
  | none => throw .badHeader
  | some version =>
    match tableStart file with
    | none => throw .badStart
    | some start =>
      let (newest, trailer) ← tableAt file start .badStart
      let t ← olderTables file trailer (file.length + 2) [] newest trailer
      if t.any (·.1 + 1 = numberLimit) then throw .badTable
      match trailer.get? "Encrypt" with
      | some guard => return ⟨version, ← t.protectedObjects file trailer guard, trailer⟩
      | none => return ⟨version, t.objects file (fun _ o => o), trailer⟩

end ScanBinder.Pdf
