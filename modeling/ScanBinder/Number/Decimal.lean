import ScanBinder.Number.Binary

/-!
# Decimal text of binary numbers

`Binary.text` writes a number with the fewest digits that read back as the same number,
never with an exponent. `Binary.ofText?` reads decimal text, exactly and then rounded once.
-/

namespace ScanBinder

/-- The value of a digit sequence in base ten. -/
def digitsValue (ds : List Nat) : Nat :=
  ds.foldl (fun n d => n * 10 + d) 0

/-- The digit that a character stands for. -/
def digit? (c : Char) : Option Nat :=
  if '0' ≤ c ∧ c ≤ '9' then some (c.toNat - '0'.toNat) else none

/-- The longest run of digits at the start of a text, and the rest. -/
def takeDigits : List Char → List Nat × List Char
  | [] => ([], [])
  | c :: cs =>
    match digit? c with
    | some d => let (ds, rest) := takeDigits cs; (d :: ds, rest)
    | none => ([], c :: cs)

/-- How many decimal digits the number has. -/
def digitCount (n : Nat) : Nat :=
  (Nat.toDigits 10 n).length

/-- A decimal `coefficient * 10 ^ exponent`. -/
structure Decimal where
  coefficient : Nat
  exponent : Int
deriving DecidableEq

namespace Decimal

/-- Numerator and denominator. -/
def ratio (d : Decimal) : Nat × Nat :=
  (d.coefficient * Nat.pow 10 d.exponent.toNat, Nat.pow 10 (-d.exponent).toNat)

/-- Positional notation: no exponent, and no point after a whole number. -/
def text (d : Decimal) : String :=
  let ds := Nat.toDigits 10 d.coefficient
  if 0 ≤ d.exponent then String.ofList (ds ++ List.replicate d.exponent.toNat '0')
  else
    let places := (-d.exponent).toNat
    let padded := List.replicate (places + 1 - ds.length) '0' ++ ds
    let whole := padded.length - places
    String.ofList (padded.take whole ++ '.' :: padded.drop whole)

/-- The same decimal without trailing zeros in the coefficient. -/
def trim : (fuel : Nat) → Decimal → Decimal
  | 0, d => d
  | fuel + 1, d =>
    if d.coefficient ≠ 0 ∧ d.coefficient % 10 = 0 then
      trim fuel ⟨d.coefficient / 10, d.exponent + 1⟩
    else d

end Decimal

/-- The position of the first digit of `num / den`: the least `k` with
`num / den < 10 ^ k`. -/
def decimalExponent (num den : Nat) : Int :=
  if den ≤ num then digitCount (num / den)
  else
    let t := digitCount (den / num)
    if den ≤ num * Nat.pow 10 (t - 1) then 2 - (t : Int) else 1 - (t : Int)

/-- The reals that round to a finite positive number, in quarters of its last place, with
the number itself in the middle. The gap below a power of two is half as wide. -/
structure RoundingInterval where
  low : Nat
  value : Nat
  high : Nat
  /-- Whether the two ends round to the number too. -/
  closed : Bool

namespace Binary

variable {f : BinaryFormat}

def interval (x : Binary f) : RoundingInterval :=
  let m := x.significand
  let below := if m = Nat.pow 2 f.fracBits ∧ x.step ≠ 0 then 1 else 2
  ⟨(4 * m - below) * Nat.pow 2 x.step, 4 * m * Nat.pow 2 x.step, (4 * m + 2) * Nat.pow 2 x.step, m % 2 = 0⟩

/-- Whether `num / den` quarters lies in the interval. -/
def RoundingInterval.contains (i : RoundingInterval) (num den : Nat) : Bool :=
  if i.closed then i.low * den ≤ num && num ≤ i.high * den
  else i.low * den < num && num < i.high * den

/-- The decimal of `count` digits that reads back as `x`, the nearer of the two neighbours
of `x` on that decimal grid, and of two equally near ones the larger. -/
def withDigits? (x : Binary f) (count : Nat) : Option Decimal :=
  let i := x.interval
  let scale := 4 * Nat.pow 2 f.depth
  let exponent := decimalExponent x.units (Nat.pow 2 f.depth) - count
  let up := Nat.pow 10 exponent.toNat
  let down := Nat.pow 10 (-exponent).toNat
  let c := i.value * down / (scale * up)
  let fits := fun c => RoundingInterval.contains i (c * up * scale) down
  let nearer := 2 * i.value * down < (2 * c + 1) * up * scale
  if fits c && (nearer || !fits (c + 1)) then some ⟨c, exponent⟩
  else if fits (c + 1) then some ⟨c + 1, exponent⟩
  else none

/-- The shortest decimal that reads back as the finite positive number `x`. -/
def shortest (x : Binary f) : Decimal :=
  ((List.range 20).findSome? fun n => x.withDigits? (n + 1)).getD ⟨0, 0⟩

/-- The number as text. -/
def text (x : Binary f) : String :=
  if x.isNaN then "NaN"
  else
    let sign := if x.negative then "-" else ""
    if x.isInfinite then sign ++ "inf"
    else if x.isZero then sign ++ "0"
    else sign ++ (x.shortest.trim 20).text

/-- Decimals beyond these powers of ten overflow or vanish in every format in use. -/
def decimalRange : Int := 400

/-- The nearest number to a decimal. -/
def ofDecimal (f : BinaryFormat) (negative : Bool) (d : Decimal) : Binary f :=
  if d.coefficient = 0 then ⟨negative, 0⟩
  else
    let top := d.exponent + digitCount d.coefficient
    if decimalRange < top then ⟨negative, f.infinity⟩
    else if top < -decimalRange then ⟨negative, 0⟩
    else ofRatio f negative d.ratio.1 d.ratio.2

/-- An optional sign: whether it is a minus, and the text after it. -/
def takeSign : List Char → Bool × List Char
  | '-' :: cs => (true, cs)
  | '+' :: cs => (false, cs)
  | cs => (false, cs)

/-- The exponent part `e`, an optional sign and digits; nothing is the exponent zero. -/
def exponent? : List Char → Option Int
  | [] => some 0
  | c :: cs =>
    if c = 'e' ∨ c = 'E' then
      let (negative, cs) := takeSign cs
      match takeDigits cs with
      | ([], _) => none
      | (ds, []) => some (if negative then -(digitsValue ds : Int) else digitsValue ds)
      | _ => none
    else none

/-- Digits with an optional point among them and an optional exponent. -/
def decimal? (cs : List Char) : Option Decimal :=
  let (whole, rest) := takeDigits cs
  let (places, rest) :=
    match rest with
    | '.' :: rest => takeDigits rest
    | _ => ([], rest)
  if whole.isEmpty && places.isEmpty then none
  else
    (exponent? rest).map fun e => ⟨digitsValue (whole ++ places), e - places.length⟩

/-- The number that a decimal text denotes. `inf`, `infinity` and `nan` are read in any
case of letters. -/
def ofText? (f : BinaryFormat) (s : String) : Option (Binary f) :=
  let (negative, cs) := takeSign s.toList
  let word := String.ofList (cs.map Char.toLower)
  if word = "inf" ∨ word = "infinity" then some ⟨negative, f.infinity⟩
  else if word = "nan" then some { notANumber f with negative }
  else (decimal? cs).map (ofDecimal f negative)

end Binary

end ScanBinder
