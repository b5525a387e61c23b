import ScanBinder.Codec.Ascii85
import ScanBinder.Files.Tree
import ScanBinder.Number.Binary

/-!
# Objects of a PDF document

A document is a numbered collection of objects and a trailer. Objects are values, which may
refer to other objects by number, and streams, which are dictionaries with data. A
dictionary is a list of keys and values in which no key comes twice.
-/

namespace ScanBinder.Pdf

/-- The number and generation of an object. -/
structure ObjectId where
  number : Nat
  generation : Nat
deriving DecidableEq

inductive Value where
  | null
  | bool (b : Bool)
  | int (n : Int)
  | real (x : Single)
  | name (n : Bytes)
  | str (s : Bytes)
  | array (items : List Value)
  | dict (entries : List (Bytes × Value))
  | ref (id : ObjectId)

abbrev Dict := List (Bytes × Value)

/-- The value of a key that is given as text. -/
def Dict.get? (d : Dict) (key : String) : Option Value :=
  d.lookup (Bytes.ofText key)

/-- Sets a key, in the place of an older value or else at the end. -/
def Dict.set (d : Dict) (key : Bytes) (v : Value) : Dict :=
  if d.any (·.1 = key) then d.map fun e => if e.1 = key then (key, v) else e
  else d ++ [(key, v)]

structure Stream where
  dict : Dict
  data : Bytes
  /-- Whether the data may be stored compressed. -/
  compressible : Bool

inductive Object where
  | value (v : Value)
  | stream (s : Stream)

structure Document where
  version : String
  objects : List (ObjectId × Object)
  trailer : Dict

/-- The kinds of objects, as they are named in messages. -/
inductive Kind where
  | null
  | boolean
  | integer
  | real
  | name
  | string
  | array
  | dictionary
  | stream
  | reference
deriving DecidableEq

namespace Kind

def text : Kind → String
  | null => "Null"
  | boolean => "Boolean"
  | integer => "Integer"
  | real => "Real"
  | name => "Name"
  | string => "String"
  | array => "Array"
  | dictionary => "Dictionary"
  | stream => "Stream"
  | reference => "Reference"

end Kind

def Value.kind : Value → Kind
  | null => .null
  | bool _ => .boolean
  | int _ => .integer
  | real _ => .real
  | name _ => .name
  | str _ => .string
  | array _ => .array
  | dict _ => .dictionary
  | ref _ => .reference

def Object.kind : Object → Kind
  | value v => v.kind
  | stream _ => .stream

/-- What can be wrong with a PDF file or with a question to it. -/
inductive Fault where
  | unreadable (e : PathError)
  | badHeader
  | badTrailer
  | badTable
  | badStart
  | badPrevious
  | badExtra
  | shortData
  | unknownRowFilter (n : UInt8)
  | badDigits (f : Ascii85.Fault)
  | unknownFilter
  | unknownHandler
  | notFound (id : ObjectId)
  | wrongKind (expected : String) (found : Kind)
  | missingKey (key : String)
  | tooManyReferences
deriving DecidableEq

def Fault.text : Fault → String
  | unreadable e => "IO error: " ++ e.text
  | badHeader => "couldn't parse input: invalid file header"
  | badTrailer => "couldn't parse input: invalid file trailer"
  | badTable => "couldn't parse input: invalid cross reference table"
  | badStart => "failed parsing cross reference table: invalid start value"
  | badPrevious => "failed parsing cross reference table: invalid start value in Prev field"
  | badExtra => "failed parsing cross reference table: invalid start value of XRefStm"
  | shortData => "IO error: failed to fill whole buffer"
  | unknownRowFilter n => "IO error: invalid PNG filter type (" ++ toString n.toNat ++ ")"
  | badDigits f => "couldn't decompress stream decoding ASCII85 failed: " ++ f.text
  | unknownFilter =>
    "missing feature of lopdf: decompression algorithms; please open an issue at " ++
      "https://github.com/J-F-Liu/lopdf/ to let the developers know of your usecase"
  | unknownHandler => "unsupported security handler"
  | notFound id => "object ID " ++ toString id.number ++ " " ++ toString id.generation ++ " not found"
  | wrongKind expected found =>
    "object has wrong type; expected type " ++ expected ++ " but found type " ++ found.text
  | missingKey key => "missing required dictionary key \"" ++ key ++ "\""
  | tooManyReferences => "dereferencing object reached limit, may indicate a reference cycle"

namespace Document

/-- The object of a number and generation. -/
def object? (d : Document) (id : ObjectId) : Option Object :=
  d.objects.lookup id

/-- How many references are followed one after another. -/
def referenceLimit : Nat := 128

/-- Follows an object that is only a reference. -/
def follow (d : Document) : (fuel : Nat) → Object → Except Fault Object
  | 0, .value (.ref id) =>
    if (d.object? id).isSome then .error .tooManyReferences else .error (.notFound id)
  | fuel + 1, .value (.ref id) =>
    match d.object? id with
    | some o => d.follow fuel o
    | none => .error (.notFound id)
  | _, o => .ok o

/-- The object of a number and generation, references followed. -/
def get (d : Document) (id : ObjectId) : Except Fault Object :=
  match d.object? id with
  | some o => d.follow referenceLimit o
  | none => .error (.notFound id)

/-- The dictionary of a number and generation. -/
def dictionary (d : Document) (id : ObjectId) : Except Fault Dict :=
  match d.get id with
  | .ok (.value (.dict entries)) => .ok entries
  | .ok o => .error (.wrongKind Kind.dictionary.text o.kind)
  | .error e => .error e

/-- The catalog that the trailer refers to. -/
def catalog? (d : Document) : Option Dict :=
  match d.trailer.get? "Root" with
  | some (.ref id) => (d.dictionary id).toOption
  | _ => none

end Document

end ScanBinder.Pdf
