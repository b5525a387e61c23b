/-!
# The cosine transform of a block

A block of eight by eight samples is a sum of cosine waves. Both directions work on whole
numbers: cosines are multiplied by `2 ^ 13`, and the result is rounded at the end.
-/

namespace ScanBinder.Jpeg

/-- Half the cosine of `n` sixteenths of a half turn, times `2 ^ 13`. -/
def halfCosine (n : Nat) : Int :=
  let table : Array Int := #[4096, 4017, 3784, 3406, 2896, 2276, 1567, 799, 0]
  let n := n % 32
  let n := if n ≤ 16 then n else 32 - n
  if n ≤ 8 then table[n]?.getD 0 else -(table[16 - n]?.getD 0)

/-- The share of wave `u` in sample `x`. -/
def wave (x u : Nat) : Int :=
  if u = 0 then 2896 else halfCosine ((2 * x + 1) * u)

/-- The waves of each sample. -/
def wavesOfSample : List (List Int) :=
  (List.range 8).map fun x => (List.range 8).map fun u => wave x u

/-- The samples of each wave. -/
def samplesOfWave : List (List Int) :=
  (List.range 8).map fun u => (List.range 8).map fun x => wave x u

/-- The sum of products. -/
def dot : Int → List Int → List Int → Int
  | acc, a :: as, b :: bs => dot (acc + a * b) as bs
  | acc, _, _ => acc

/-- Turns rows into columns, eight by eight. -/
def transpose (block : Array Int) : Array Int :=
  Array.ofFn fun i : Fin 64 => block[i.val % 8 * 8 + i.val / 8]?.getD 0

/-- Applies a matrix to each row and turns the result. -/
def pass (matrix : List (List Int)) (block : Array Int) : Array Int :=
  transpose ((List.range 8).flatMap fun y =>
    let row := (block.extract (8 * y) (8 * y + 8)).toList
    matrix.map fun m => dot 0 m row).toArray

/-- Divides by `2 ^ 26` and rounds. -/
def descale (v : Int) : Int :=
  (v + 33554432) / 67108864

/-- The waves in a block of samples. -/
def forward (block : Array Int) : Array Int :=
  (pass samplesOfWave (pass samplesOfWave block)).map descale

/-- The block of samples that waves add up to. -/
def inverse (block : Array Int) : Array Int :=
  (pass wavesOfSample (pass wavesOfSample block)).map descale

end ScanBinder.Jpeg
