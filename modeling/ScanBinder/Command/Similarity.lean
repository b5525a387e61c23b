import ScanBinder.Number.Binary

/-!
# Similar words

The similarity of two words counts the characters that they share at about the same place,
and how many of these are out of order. It lies between zero and one.
-/

namespace ScanBinder

/-- Takes the first character of `b` equal to `c` that is not taken and stands at a place
from `low` up to `high`. Gives the marks with it taken. -/
def takeMatch (c : Char) (low high : Nat) : (place : Nat) → List (Char × Bool) →
    Option (List (Char × Bool))
  | _, [] => none
  | place, (x, taken) :: rest =>
    if high ≤ place then none
    else if low ≤ place && x = c && !taken then some ((x, true) :: rest)
    else (takeMatch c low high (place + 1) rest).map ((x, taken) :: ·)

/-- The characters of `a` from `place` on that find a partner, and the marks on `b`. -/
def matchUp (reach : Nat) : (place : Nat) → (a : List Char) → (b : List (Char × Bool)) →
    List Char × List (Char × Bool)
  | _, [], b => ([], b)
  | place, c :: a, b =>
    match takeMatch c (place - reach) (place + reach + 1) 0 b with
    | some b => let (cs, b) := matchUp reach (place + 1) a b; (c :: cs, b)
    | none => matchUp reach (place + 1) a b

/-- How many places two words differ in. -/
def differences : List Char → List Char → Nat
  | x :: xs, y :: ys => (if x = y then 0 else 1) + differences xs ys
  | _, _ => 0

/-- The similarity of two words. -/
def similarity (a b : List Char) : Double :=
  let n := fun (k : Nat) => Binary.ofInt .double k
  if a.isEmpty && b.isEmpty then n 1
  else if a.isEmpty || b.isEmpty then n 0
  else
    let reach := max a.length b.length / 2 - 1
    let (fromA, marks) := matchUp reach 0 a (b.map fun c => (c, false))
    let fromB := (marks.filter (·.2)).map (·.1)
    let m := fromA.length
    if m = 0 then n 0
    else
      let swaps := differences fromA fromB / 2
      (n m / n a.length + n m / n b.length + n (m - swaps) / n m) / n 3

/-- Words count as similar above this similarity, seven tenths. -/
def similarityLimit : Double :=
  .ofRatio .double false 7 10

/-- The word most similar to `s`, of equally similar ones the last, if any is similar. -/
def mostSimilar? (s : String) (words : List String) : Option String :=
  (words.foldl
    (fun best w =>
      let x := similarity s.toList w.toList
      if !similarityLimit.less x then best
      else match best with
        | some (_, y) => if x.less y then best else some (w, x)
        | none => some (w, x))
    none).map (·.1)

end ScanBinder
