import ScanBinder.Text.Letter

/-!
# Well-formed patterns

A pattern describes texts: characters stand for themselves, and others group, repeat or choose
between parts. This module tells whether a text is a pattern. Braces are taken to be missing
from it, since its surroundings use them, so that an opening one begins a count that never
ends. Bounds of words are not allowed.
-/

namespace ScanBinder.Pattern

/-- What one item of a pattern is. -/
inductive Item where
  | character (c : Char)
  | set
  | edge

/-! ## Escapes -/

/-- The value of a hexadecimal digit. -/
def hexDigit? (c : Char) : Option Nat :=
  if '0' ≤ c ∧ c ≤ '9' then some (c.toNat - 48)
  else if 'a' ≤ c ∧ c ≤ 'f' then some (c.toNat - 87)
  else if 'A' ≤ c ∧ c ≤ 'F' then some (c.toNat - 55)
  else none

/-- The number of `count` hexadecimal digits behind the digits of `n`. -/
def hexNumber? : (count n : Nat) → List Char → Option (Nat × List Char)
  | 0, n, cs => some (n, cs)
  | count + 1, n, c :: cs => (hexDigit? c).bind fun d => hexNumber? count (16 * n + d) cs
  | _ + 1, _, [] => none

/-- The character that hexadecimal digits give. -/
def hexItem? (count : Nat) (cs : List Char) : Option (Item × List Char) :=
  (hexNumber? count 0 cs).bind fun (n, cs) =>
    if n.isValidChar then some (.character (Char.ofNat n), cs) else none

/-- The letters of the large classes of characters. -/
def classLetters : List Char :=
  "CLMNPSZclmnpsz".toList

/-- The control characters that have a letter. -/
def controls : List (Char × Char) :=
  [('a', '\x07'), ('f', '\x0C'), ('t', '\t'), ('n', '\n'), ('r', '\r'), ('v', '\x0B')]

/-- The item after a backslash. -/
def escape : List Char → Option (Item × List Char)
  | [] => none
  | c :: cs =>
    if "dswDSW".toList.contains c then some (.set, cs)
    else if c = 'x' then hexItem? 2 cs
    else if c = 'u' then hexItem? 4 cs
    else if c = 'U' then hexItem? 8 cs
    else if c = 'p' || c = 'P' then
      match cs with
      | l :: cs => if classLetters.contains l then some (.set, cs) else none
      | [] => none
    else if c = 'A' || c = 'z' then some (.edge, cs)
    else
      match controls.lookup c with
      | some control => some (.character control, cs)
      | none =>
        if c.toNat < 0x80 && !c.isAlphanum && c ≠ '<' && c ≠ '>' then some (.character c, cs)
        else none

/-! ## Sets -/

/-- The names of sets, which stand between colons. -/
def setNames : List String :=
  ["alnum", "alpha", "ascii", "blank", "cntrl", "digit", "graph", "lower", "print", "punct",
    "space", "upper", "word", "xdigit"]

/-- What is left after the name of a set, whose bracket has been read. -/
def namedSet? : List Char → Option (List Char)
  | ':' :: cs =>
    let cs := if cs.head? = some '^' then cs.tail else cs
    match cs.dropWhile Char.isLower with
    | ':' :: ']' :: rest =>
      if setNames.contains (String.ofList (cs.takeWhile Char.isLower)) then some rest else none
    | _ => none
  | _ => none

/-- What is left after the start of a set, whose bracket has been read. Hyphens there stand for
themselves, and so does a closing bracket that comes first. -/
def setStart (cs : List Char) : List Char :=
  let cs := if cs.head? = some '^' then cs.tail else cs
  match cs with
  | ']' :: rest => rest
  | cs => cs.dropWhile (· = '-')

/-- One item of a set. -/
def setItem : List Char → Option (Item × List Char)
  | [] => none
  | '\\' :: cs =>
    match escape cs with
    | some (.edge, _) => none
    | r => r
  | c :: cs => some (.character c, cs)

/-- What is left after an item, or after a range of characters from a lower to a higher one. -/
def setRange (cs : List Char) : Option (List Char) := do
  let (low, cs) ← setItem cs
  match cs with
  | '-' :: ']' :: _ => return cs
  | '-' :: '-' :: _ => return cs
  | '-' :: cs =>
    match low, ← setItem cs with
    | .character a, (.character b, cs) => if a ≤ b then return cs else none
    | _, _ => none
  | cs => return cs

/-- What is left after the items of a set within `depth` others. -/
def setItems : (fuel depth : Nat) → List Char → Option (List Char)
  | 0, _, _ => none
  | _ + 1, _, [] => none
  | fuel + 1, depth, ']' :: cs =>
    match depth with
    | 0 => some cs
    | depth + 1 => setItems fuel depth cs
  | fuel + 1, depth, '[' :: cs =>
    match namedSet? cs with
    | some cs => setItems fuel depth cs
    | none => setItems fuel (depth + 1) (setStart cs)
  | fuel + 1, depth, '&' :: '&' :: cs => setItems fuel depth cs
  | fuel + 1, depth, '-' :: '-' :: cs => setItems fuel depth cs
  | fuel + 1, depth, '~' :: '~' :: cs => setItems fuel depth cs
  | fuel + 1, depth, cs => (setRange cs).bind (setItems fuel depth)

/-! ## Groups -/

/-- What an opening parenthesis begins: a group, which may have a name, or a change of flags
that is over at once. -/
inductive Opening where
  | group (name : List Char)
  | flags

/-- Whether characters are the name of a group. -/
def isGroupName : List Char → Bool
  | [] => false
  | c :: cs =>
    (c = '_' || (isLetterOrDigit c && !c.isDigit)) &&
      cs.all fun c => c = '_' || c = '.' || c = '[' || c = ']' || isLetterOrDigit c

/-- The name of a group, up to its closing angle bracket. -/
def groupName (cs : List Char) : Option (Opening × List Char) :=
  let name := cs.takeWhile (· ≠ '>')
  match cs.dropWhile (· ≠ '>') with
  | _ :: rest => if isGroupName name then some (.group name, rest) else none
  | [] => none

/-- The flags of a group. Each comes once, and a hyphen once, before another flag. -/
def groupFlags (negated hanging : Bool) (seen : List Char) :
    List Char → Option (Opening × List Char)
  | [] => none
  | c :: cs =>
    if c = ':' then if hanging then none else some (.group [], cs)
    else if c = ')' then if hanging || seen.isEmpty then none else some (.flags, cs)
    else if c = '-' then if negated then none else groupFlags true true seen cs
    else if "imsUuxR".toList.contains c && !seen.contains c then
      groupFlags negated false (c :: seen) cs
    else none

/-- What an opening parenthesis begins. -/
def opening : List Char → Option (Opening × List Char)
  | '?' :: 'P' :: '<' :: cs => groupName cs
  | '?' :: '<' :: cs => groupName cs
  | '?' :: cs => groupFlags false false [] cs
  | cs => some (.group [], cs)

/-! ## Whole patterns -/

/-- Whether characters go on well within `depth` groups. `names` holds the names of groups so
far, and `repeatable` says whether there is something before them to repeat. -/
def isSound : (fuel depth : Nat) → (names : List (List Char)) → (repeatable : Bool) →
    List Char → Bool
  | 0, _, _, _, _ => false
  | _ + 1, depth, _, _, [] => depth = 0
  | fuel + 1, depth, names, repeatable, c :: cs =>
    if c = '\\' then
      match escape cs with
      | some (_, cs) => isSound fuel depth names true cs
      | none => false
    else if c = '[' then
      match setItems (cs.length + 1) 0 (setStart cs) with
      | some cs => isSound fuel depth names true cs
      | none => false
    else if c = '(' then
      match opening cs with
      | some (.flags, cs) => isSound fuel depth names false cs
      | some (.group [], cs) => isSound fuel (depth + 1) names false cs
      | some (.group name, cs) =>
        !names.contains name && isSound fuel (depth + 1) (name :: names) false cs
      | none => false
    else if c = ')' then 0 < depth && isSound fuel (depth - 1) names true cs
    else if c = '|' then isSound fuel depth names false cs
    else if c = '*' || c = '+' || c = '?' then repeatable && isSound fuel depth names true cs
    else if c = '\x7b' then false
    else isSound fuel depth names true cs

/-- Whether a text is a pattern. -/
def isWellFormed (s : String) : Bool :=
  isSound (s.length + 1) 0 [] false s.toList

end ScanBinder.Pattern
