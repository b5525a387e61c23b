/-!
# Binary floating-point numbers

A format has a number of fraction bits and of exponent bits. A number of the format is a
sign and the remaining bits read as a natural number, its magnitude: below the magnitude of
infinity the number is finite, above it there is no number. Every operation takes the exact
quotient of natural numbers that the operands denote and rounds it once, to the nearest
number of the format and on a tie to the even magnitude.
-/

namespace ScanBinder

/-- The widths of the two fields of a binary format. -/
structure BinaryFormat where
  fracBits : Nat
  expBits : Nat
deriving DecidableEq

namespace BinaryFormat

/-- 32-bit numbers. -/
def single : BinaryFormat := ⟨23, 8⟩

/-- 64-bit numbers. -/
def double : BinaryFormat := ⟨52, 11⟩

/-- The magnitude of infinity: all exponent bits set, no fraction bit. -/
def infinity (f : BinaryFormat) : Nat :=
  (Nat.pow 2 f.expBits - 1) * Nat.pow 2 f.fracBits

/-- Numbers below the smallest normal one are multiples of `2 ^ -f.depth`. -/
def depth (f : BinaryFormat) : Nat :=
  Nat.pow 2 (f.expBits - 1) - 2 + f.fracBits

end BinaryFormat

/-- A number of a binary format. -/
structure Binary (f : BinaryFormat) where
  negative : Bool
  magnitude : Nat
deriving DecidableEq

/-- A 32-bit number. -/
abbrev Single := Binary .single

/-- A 64-bit number. -/
abbrev Double := Binary .double

/-- `num / den` as a multiple of one, to the nearest natural number and on a tie to the even
one. -/
def roundEven (num den : Nat) : Nat :=
  let q := num / den
  let r := num % den
  if 2 * r < den then q
  else if 2 * r = den then q + q % 2
  else q + 1

/-- The largest `k` with `2 ^ k ≤ num / den`, for a positive quotient. -/
def logFloor (num den : Nat) : Int :=
  let k : Int := (Nat.log2 num : Int) - (Nat.log2 den : Int)
  if num * Nat.pow 2 (-k).toNat < den * Nat.pow 2 k.toNat then k - 1 else k

/-- The magnitude nearest to `num / den`. The grid around the quotient has the step
`2 ^ (shift - f.depth)`; a quotient that rounds up to the next power of two carries into the
exponent field by itself. -/
def BinaryFormat.nearest (f : BinaryFormat) (num den : Nat) : Nat :=
  if num = 0 then 0
  else
    let shift := (logFloor num den - (f.fracBits : Int) + (f.depth : Int)).toNat
    min f.infinity (shift * Nat.pow 2 f.fracBits + roundEven (num * Nat.pow 2 f.depth) (den * Nat.pow 2 shift))

namespace Binary

variable {f : BinaryFormat}

/-- The number of the bit pattern `bits`. -/
def ofBits (f : BinaryFormat) (bits : Nat) : Binary f :=
  let width := f.fracBits + f.expBits
  ⟨bits / Nat.pow 2 width % 2 = 1, bits % Nat.pow 2 width⟩

/-- The bit pattern. -/
def toBits (x : Binary f) : Nat :=
  (if x.negative then Nat.pow 2 (f.fracBits + f.expBits) else 0) + x.magnitude

/-- The result of an operation without a number as its answer. -/
def notANumber (f : BinaryFormat) : Binary f :=
  ⟨false, f.infinity + Nat.pow 2 (f.fracBits - 1)⟩

def isNaN (x : Binary f) : Bool :=
  f.infinity < x.magnitude

def isInfinite (x : Binary f) : Bool :=
  x.magnitude = f.infinity

def isFinite (x : Binary f) : Bool :=
  x.magnitude < f.infinity

def isZero (x : Binary f) : Bool :=
  x.magnitude = 0

/-- The nearest number to `num / den` with the given sign. -/
def ofRatio (f : BinaryFormat) (negative : Bool) (num den : Nat) : Binary f :=
  ⟨negative, f.nearest num den⟩

/-- The nearest number to an integer. -/
def ofInt (f : BinaryFormat) (n : Int) : Binary f :=
  ofRatio f (n < 0) n.natAbs 1

/-- The exponent field, with subnormal numbers counted to the lowest normal exponent. -/
def step (x : Binary f) : Nat :=
  x.magnitude / Nat.pow 2 f.fracBits - 1

/-- The significant digits in base two, the hidden one included. -/
def significand (x : Binary f) : Nat :=
  if x.magnitude < Nat.pow 2 f.fracBits then x.magnitude
  else x.magnitude % Nat.pow 2 f.fracBits + Nat.pow 2 f.fracBits

/-- The absolute value of a finite number in units of `2 ^ -f.depth`. -/
def units (x : Binary f) : Nat :=
  x.significand * Nat.pow 2 x.step

/-- The finite number as a signed count of units of `2 ^ -f.depth`. -/
def signedUnits (x : Binary f) : Int :=
  if x.negative then -(x.units : Int) else x.units

def neg (x : Binary f) : Binary f :=
  ⟨!x.negative, x.magnitude⟩

def add (x y : Binary f) : Binary f :=
  if x.isNaN || y.isNaN then notANumber f
  else if x.isInfinite then
    if y.isInfinite && x.negative != y.negative then notANumber f else x
  else if y.isInfinite then y
  else
    let sum := x.signedUnits + y.signedUnits
    if sum = 0 then ⟨x.negative && y.negative, 0⟩
    else ofRatio f (sum < 0) sum.natAbs (Nat.pow 2 f.depth)

def sub (x y : Binary f) : Binary f :=
  x.add y.neg

def mul (x y : Binary f) : Binary f :=
  let negative := x.negative != y.negative
  if x.isNaN || y.isNaN then notANumber f
  else if x.isInfinite || y.isInfinite then
    if x.isZero || y.isZero then notANumber f else ⟨negative, f.infinity⟩
  else ofRatio f negative (x.units * y.units) (Nat.pow 2 (2 * f.depth))

def div (x y : Binary f) : Binary f :=
  let negative := x.negative != y.negative
  if x.isNaN || y.isNaN then notANumber f
  else if x.isInfinite then
    if y.isInfinite then notANumber f else ⟨negative, f.infinity⟩
  else if y.isInfinite then ⟨negative, 0⟩
  else if y.isZero then
    if x.isZero then notANumber f else ⟨negative, f.infinity⟩
  else ofRatio f negative x.units y.units

instance : Neg (Binary f) := ⟨neg⟩
instance : Add (Binary f) := ⟨add⟩
instance : Sub (Binary f) := ⟨sub⟩
instance : Mul (Binary f) := ⟨mul⟩
instance : Div (Binary f) := ⟨div⟩

/-- The nearest number of another format. -/
def convert (x : Binary f) (g : BinaryFormat) : Binary g :=
  if x.isNaN then notANumber g
  else if x.isInfinite then ⟨x.negative, g.infinity⟩
  else ofRatio g x.negative x.units (Nat.pow 2 f.depth)

/-- `x < y`; false when either is not a number. -/
def less (x y : Binary f) : Bool :=
  !x.isNaN && !y.isNaN &&
    (if x.negative then
      if y.negative then y.magnitude < x.magnitude else x.magnitude ≠ 0 || y.magnitude ≠ 0
    else !y.negative && x.magnitude < y.magnitude)

/-- The nearest natural number to a finite number's absolute value, halves going up. -/
def roundHalfUp (x : Binary f) : Nat :=
  (2 * x.units + Nat.pow 2 f.depth) / (2 * Nat.pow 2 f.depth)

end Binary

end ScanBinder
