import ScanBinder.Number.Decimal

/-!
# Page numbers in names

Scanners number their files in parentheses, as in `Scan (12).png`. The sort key of a name
is the number in its first parenthesised group of digits, held to 64 bits, and zero when
there is no such group. The search runs over marks, so that it can be asked of characters
and of bytes alike.
-/

namespace ScanBinder

/-- What a character contributes to the search for a page number. -/
inductive Mark where
  | opening
  | closing
  | digit (value : Nat)
  | other
deriving DecidableEq

namespace Mark

def ofChar (c : Char) : Mark :=
  if c = '(' then opening
  else if c = ')' then closing
  else match digit? c with
    | some d => digit d
    | none => other

def ofByte (b : UInt8) : Mark :=
  if b = 0x28 then opening
  else if b = 0x29 then closing
  else if 0x30 ≤ b ∧ b ≤ 0x39 then digit (b.toNat - 0x30)
  else other

end Mark

/-- The digits at the start, and the marks after them. -/
def digitRun : List Mark → List Nat × List Mark
  | .digit d :: ms => let (ds, rest) := digitRun ms; (d :: ds, rest)
  | ms => ([], ms)

/-- The number of a group whose opening parenthesis has just been passed: at least one
digit and then a closing parenthesis. -/
def groupValue? (ms : List Mark) : Option Nat :=
  match digitRun ms with
  | (d :: ds, .closing :: _) => some (digitsValue (d :: ds))
  | _ => none

/-- The number of the first parenthesised group of digits. -/
def pageNumber? : List Mark → Option Nat
  | [] => none
  | .opening :: ms =>
    match groupValue? ms with
    | some n => some n
    | none => pageNumber? ms
  | _ :: ms => pageNumber? ms

/-- The largest sort key. -/
def maxSortKey : Nat := 18446744073709551615

/-- The sort key of a sequence of marks. -/
def sortKeyOf (ms : List Mark) : Nat :=
  min ((pageNumber? ms).getD 0) maxSortKey

/-- The sort key of a name. -/
def sortKey (name : String) : Nat :=
  sortKeyOf (name.toList.map Mark.ofChar)

end ScanBinder
