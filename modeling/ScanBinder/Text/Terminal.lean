import ScanBinder.Text.Escape

/-!
# Text for terminals

A terminal obeys control characters and the sequences that start with an escape. Text from
outside is shown so that it cannot give such orders: a log writes the characters by their
number, and messages on the arguments leave the sequences out.
-/

namespace ScanBinder

namespace Terminal

/-- A character that a terminal may obey, written by its number. -/
def disarmChar (c : Char) : String :=
  let n := c.toNat
  if n = 0x07 ∨ n = 0x08 ∨ n = 0x0C ∨ n = 0x1B ∨ n = 0x7F then
    "\\x" ++ hexByte (UInt8.ofNat n)
  else if 0x80 ≤ n ∧ n ≤ 0x9F then "\\u\x7b" ++ hexText n ++ "\x7d"
  else String.singleton c

/-- A text without characters that a terminal may obey. -/
def disarm (s : String) : String :=
  String.join (s.toList.map disarmChar)

/-! ## Colours and sequences -/

/-- A text in yellow, as a terminal shows a part of a message that is wrong. -/
def wrong (s : String) : String :=
  "\x1b[33m" ++ s ++ "\x1b[0m"

/-- A text in green, as a terminal shows a part of a message that is right. -/
def right (s : String) : String :=
  "\x1b[32m" ++ s ++ "\x1b[0m"

/-- Where in a sequence a terminal stands. -/
inductive Place where
  | ground
  | escape
  | intermediate
  | command
  | commandTail
  | title
  | deviceText
  /-- Inside a character of which so many bytes are to come. -/
  | char (left : Nat)
deriving DecidableEq

/-- The place that a byte leads to, if it leads to another. -/
def Place.next? (p : Place) (b : UInt8) : Option Place :=
  if b = 0x1B then some .escape
  else if b = 0x18 || b = 0x1A then some .ground
  else match p with
    | ground =>
      if 0xC2 ≤ b && b ≤ 0xF4 then some (.char (Bytes.followers b + 1)) else none
    | escape =>
      if b < 0x20 || 0x7F ≤ b then none
      else if b < 0x30 then some .intermediate
      else if b = 0x5B then some .command
      else if b = 0x5D then some .title
      else if b = 0x50 || b = 0x58 || b = 0x5E || b = 0x5F then some .deviceText
      else some .ground
    | intermediate => if 0x30 ≤ b && b < 0x7F then some .ground else none
    | command =>
      if 0x40 ≤ b && b < 0x7F then some .ground
      else if 0x20 ≤ b && b < 0x40 then some .commandTail
      else none
    | commandTail => if 0x40 ≤ b && b < 0x7F then some .ground else none
    | title => if b = 0x07 then some .ground else none
    | deviceText => if b = 0x9C then some .ground else none
    | char _ => none

/-- Whether a byte is shown at a place: white space also inside a sequence that carries
controls out, other characters only outside of sequences. -/
def Place.shows (p : Place) (b : UInt8) : Bool :=
  let isSpace := b = 0x09 || b = 0x0A || b = 0x0C || b = 0x0D
  match p with
  | ground => isSpace || (0x20 ≤ b && b < 0x7F) || (0xC2 ≤ b && b ≤ 0xF4)
  | escape => isSpace
  | intermediate => isSpace
  | command => isSpace
  | commandTail => isSpace
  | _ => false

/-- How far a text has been shown. -/
structure Filter where
  place : Place
  /-- Whether the last byte was shown: then the next one counts as outside of sequences. -/
  showing : Bool
  /-- The bytes shown, the last one first. -/
  shown : Bytes

/-- Shows a byte, which is inside of a character or outside of sequences. -/
def Filter.emit (f : Filter) (b : UInt8) : Filter :=
  match f.place with
  | .char (k + 1) => ⟨if k = 0 then .ground else .char k, true, b :: f.shown⟩
  | _ =>
    match Place.ground.next? b with
    | some (.char (k + 1)) => ⟨if k = 0 then .ground else .char k, true, b :: f.shown⟩
    | next =>
      let place := next.getD f.place
      if Place.ground.shows b then ⟨place, true, b :: f.shown⟩
      else ⟨(place.next? b).getD place, false, f.shown⟩

/-- Takes the next byte. -/
def Filter.take (f : Filter) (b : UInt8) : Filter :=
  match f.place, f.showing with
  | .char _, _ => f.emit b
  | _, true => f.emit b
  | place, false =>
    let f := { f with place := (place.next? b).getD place }
    if place.shows b then f.emit b else f

/-- A text without control sequences, as it is written where no terminal reads it. -/
def plain (s : String) : String :=
  Bytes.lossy ((Bytes.ofText s).foldl Filter.take ⟨.ground, false, []⟩).shown.reverse

end Terminal

end ScanBinder
