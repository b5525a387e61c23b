import ScanBinder.Command.Similarity
import ScanBinder.Config
import ScanBinder.Text.Terminal
import ScanBinder.Text.Utf8

/-!
# Arguments of the command

Arguments are byte strings and are taken from left to right. Paths may be any bytes; all other
values have to be text. An option is known by a long name and some also by
a letter; letters may be joined, and a value may be joined to its option. The value of an
option, or the folder, is held back until the next argument that is not a value begins: only
then it is judged.
-/

namespace ScanBinder

/-- The options in the order of the help text. -/
inductive Opt where
  | output
  | resolution
  | jpegQuality
  | skipUnreadable
  | title
  | author
  | openAfter
  | verbose
  | quiet
  | help
  | version
deriving DecidableEq

namespace Opt

def all : List Opt :=
  [output, resolution, jpegQuality, skipUnreadable, title, author, openAfter, verbose, quiet, help,
    version]

def long : Opt → String
  | output => "output"
  | resolution => "resolution"
  | jpegQuality => "jpeg-quality"
  | skipUnreadable => "skip-unreadable"
  | title => "title"
  | author => "author"
  | openAfter => "open"
  | verbose => "verbose"
  | quiet => "quiet"
  | help => "help"
  | version => "version"

def short? : Opt → Option Char
  | output => some 'o'
  | verbose => some 'v'
  | quiet => some 'q'
  | help => some 'h'
  | version => some 'V'
  | _ => none

/-- What the value of an option is called, if it takes one. -/
def valueName? : Opt → Option String
  | output => some "OUTPUT"
  | resolution => some "RESOLUTION"
  | jpegQuality => some "JPEG_QUALITY"
  | title => some "TITLE"
  | author => some "AUTHOR"
  | _ => none

def ofLong? (s : String) : Option Opt :=
  all.find? (·.long = s)

def ofShort? (c : Char) : Option Opt :=
  all.find? (·.short? = some c)

/-- An option as it is shown in messages. -/
def shown (o : Opt) : String :=
  match o.valueName? with
  | some v => "--" ++ o.long ++ " <" ++ v ++ ">"
  | none => "--" ++ o.long

end Opt

/-- What an argument sets: an option or the folder. -/
inductive Arg where
  | folder
  | opt (o : Opt)
deriving DecidableEq

/-- An argument as it is shown in messages. -/
def Arg.shown : Arg → String
  | folder => "[INPUT_DIR]"
  | opt o => o.shown

/-- Why a value does not suit its option. -/
inductive ValueFault where
  | emptyNumber
  | badNumber
  | emptyInteger
  | badDigit
  | tooLarge
  | tooSmall
  | outOfRange (n : Int)
deriving DecidableEq

def ValueFault.text : ValueFault → String
  | emptyNumber => "cannot parse float from empty string"
  | badNumber => "invalid float literal"
  | emptyInteger => "cannot parse integer from empty string"
  | badDigit => "invalid digit found in string"
  | tooLarge => "number too large to fit in target type"
  | tooSmall => "number too small to fit in target type"
  | outOfRange n => toString n ++ " is not in 1..=100"

/-- Advice on an argument that is not known. -/
inductive Tip where
  | none
  | passAsValue
  | similar (o : Opt)
deriving DecidableEq

/-- What is wrong with the arguments. `used` lists the arguments given so far, for the usage
line. -/
inductive ArgFault where
  | valueMissing (a : Arg)
  | badValue (a : Arg) (value : String) (f : ValueFault)
  | repeated (a : Arg)
  | conflict (first second : Opt) (used : List Arg)
  | unknown (text : String) (tip : Tip) (used : List Arg)
  | needlessValue (value : String) (o : Opt) (before : List Arg)
  | notText
deriving DecidableEq

namespace ArgFault

/-- What is wrong, with colours. -/
def message : ArgFault → String
  | valueMissing a => "a value is required for '" ++ a.shown ++ "' but none was supplied"
  | badValue a v f => "invalid value '" ++ Terminal.wrong v ++ "' for '" ++ a.shown ++ "': " ++ f.text
  | repeated a => "the argument '" ++ a.shown ++ "' cannot be used multiple times"
  | conflict a b _ => "the argument '" ++ a.shown ++ "' cannot be used with '" ++ b.shown ++ "'"
  | unknown s _ _ => "unexpected argument '" ++ Terminal.wrong s ++ "' found"
  | needlessValue v o _ =>
    "unexpected value '" ++ Terminal.wrong v ++ "' for '" ++ o.shown ++
      "' found; no more were expected"
  | notText => "invalid UTF-8 was detected in one or more arguments"

/-- The usage line for the arguments given: options first, then the folder. -/
def usageOf (used : List Arg) : String :=
  if used.isEmpty then "images-to-pdf [OPTIONS] [INPUT_DIR]"
  else
    "images-to-pdf" ++
      String.join (used.map fun
        | .opt o => " " ++ o.shown
        | .folder => "") ++
      (if used.contains .folder then " <INPUT_DIR>" else " [INPUT_DIR]")

/-- The arguments of a run as a group: one of them stands for all. -/
def groupText : String :=
  "<INPUT_DIR|" ++ "|".intercalate
    ((Opt.all.filter fun o => o ≠ .help ∧ o ≠ .version).map Opt.shown) ++ ">"

/-- The usage line for an option that takes no value but was given one. Arguments given
before it are shown as a group. -/
def usageOfFlag (o : Opt) (before : List Arg) : String :=
  if before.isEmpty then usageOf [.opt o]
  else
    "images-to-pdf" ++ (if o = .help ∨ o = .version then " " ++ o.shown else "") ++ " " ++ groupText

/-- The usage line, if it is shown. -/
def usage? : ArgFault → Option String
  | valueMissing _ => none
  | badValue _ _ _ => none
  | repeated _ => some (usageOf [])
  | conflict _ _ used => some (usageOf used)
  | unknown _ _ used => some (usageOf used)
  | needlessValue _ o before => some (usageOfFlag o before)
  | notText => some (usageOf [])

def tip? : ArgFault → Option String
  | unknown s .passAsValue _ => 
    some ("to pass '" ++ Terminal.wrong s ++ "' as a value, use '" ++ Terminal.right ("-- " ++ s) ++ "'")
  | unknown _ (.similar o) _ => some ("a similar argument exists: '--" ++ o.long ++ "'")
  | _ => none

/-- The whole message, with colours. -/
def text (f : ArgFault) : String :=
  "error: " ++ f.message ++ "\n\n" ++
    (match f.tip? with
      | some t => "  tip: " ++ t ++ "\n\n"
      | none => "") ++
    (match f.usage? with
      | some u => "Usage: " ++ u ++ "\n\n"
      | none => "") ++
    "For more information, try '--help'.\n"

end ArgFault

/-- What the arguments ask for. -/
structure Invocation where
  inputDir : Path
  output : Option Path
  resolution : Single
  jpegQuality : Option UInt8
  skipUnreadable : Bool
  title : Option String
  author : Option String
  openAfter : Bool
  verbose : Bool
  quiet : Bool
deriving DecidableEq

/-- What is asked for without any argument. -/
def Invocation.default : Invocation :=
  ⟨Path.here, none, defaultResolution, none, false, none, none, false, false, false⟩

/-- Why the arguments do not lead to a run. -/
inductive Stop where
  | fault (f : ArgFault)
  | help
  | version
deriving DecidableEq

/-! ## Values -/

/-- A number as a resolution. -/
def readNumber (s : String) : Except ValueFault Single :=
  if s.isEmpty then .error .emptyNumber
  else match Binary.ofText? .single s with
    | some x => .ok x
    | none => .error .badNumber

/-- An integer of 64 bits. -/
def readInteger (s : String) : Except ValueFault Int :=
  let (negative, cs) := Binary.takeSign s.toList
  if s.isEmpty then .error .emptyInteger
  else match takeDigits cs with
    | ([], _) => .error .badDigit
    | (ds, []) =>
      let n : Int := if negative then -(digitsValue ds : Int) else digitsValue ds
      if n < -9223372036854775808 then .error .tooSmall
      else if 9223372036854775808 ≤ n then .error .tooLarge
      else .ok n
    | _ => .error .badDigit

/-- A quality of JPEG pages. -/
def readQuality (s : String) : Except ValueFault UInt8 := do
  let n ← readInteger s
  if 1 ≤ n ∧ n ≤ 100 then return UInt8.ofNat n.toNat else throw (.outOfRange n)

/-- A path, which must not be empty. -/
def readPath (a : Arg) (bs : Bytes) : Except ArgFault Path :=
  if bs.isEmpty then .error (.valueMissing a) else .ok bs

/-- A value that has to be text. -/
def readText (bs : Bytes) : Except ArgFault String :=
  match Bytes.toText? bs with
  | some s => .ok s
  | none => .error .notText

/-- Sets what an argument with a value sets. -/
def Invocation.setValue (i : Invocation) (a : Arg) (bs : Bytes) : Except ArgFault Invocation :=
  match a with
  | .folder => (readPath a bs).map fun p => { i with inputDir := p }
  | .opt .output => (readPath a bs).map fun p => { i with output := some p }
  | .opt .resolution => do
    let s ← readText bs
    ((readNumber s).mapError (.badValue a s)).map fun x => { i with resolution := x }
  | .opt .jpegQuality => do
    let s ← readText bs
    ((readQuality s).mapError (.badValue a s)).map fun q => { i with jpegQuality := some q }
  | .opt .title => (readText bs).map fun s => { i with title := some s }
  | .opt .author => (readText bs).map fun s => { i with author := some s }
  | .opt _ => .ok i

/-- Sets what an option without a value sets. -/
def Invocation.setFlag (i : Invocation) : Opt → Invocation
  | .skipUnreadable => { i with skipUnreadable := true }
  | .openAfter => { i with openAfter := true }
  | .verbose => { i with verbose := true }
  | .quiet => { i with quiet := true }
  | _ => i

/-! ## Taking arguments -/

def dash : UInt8 := 0x2D

def equalsSign : UInt8 := 0x3D

/-- How far the arguments have been taken. -/
structure Progress where
  invocation : Invocation
  /-- The arguments judged so far, in order. -/
  used : List Arg
  /-- The argument held back, and its value once there is one. -/
  pending : Option (Arg × Option Bytes)
  /-- Whether the folder has been given. -/
  hasFolder : Bool
  /-- Whether options are over. -/
  onlyValues : Bool

def Progress.start : Progress :=
  ⟨.default, [], none, false, false⟩

/-- Judges an argument and its value. Also gives the arguments that count as used, which
matter for the usage line even when the value does not suit. -/
def Progress.judge (p : Progress) (a : Arg) (value : Option Bytes) :
    Progress × Except ArgFault Unit :=
  match value with
  | none => (p, .error (.valueMissing a))
  | some bs =>
    if p.used.contains a then ({ p with used := p.used.filter (· ≠ a) }, .error (.repeated a))
    else
      let p := { p with used := p.used ++ [a] }
      match p.invocation.setValue a bs with
      | .ok i => ({ p with invocation := i }, .ok ())
      | .error f => (p, .error f)

/-- Judges the argument held back. -/
def Progress.settle (p : Progress) : Progress × Except ArgFault Unit :=
  match p.pending with
  | none => (p, .ok ())
  | some (a, value) => { p with pending := none }.judge a value

/-- Judges the argument held back, and stops if it is at fault. -/
def Progress.settled (p : Progress) : Except Stop Progress :=
  match p.settle with
  | (p, .ok _) => .ok p
  | (_, .error f) => .error (.fault f)

/-- Takes an option without a value. -/
def Progress.flag (p : Progress) (o : Opt) : Except Stop Progress := do
  let p ← p.settled
  match o with
  | .help => throw .help
  | .version => throw .version
  | _ =>
    if p.used.contains (.opt o) then throw (.fault (.repeated (.opt o)))
    return { p with invocation := p.invocation.setFlag o, used := p.used ++ [.opt o] }

/-- Takes an option with the value joined to it. -/
def Progress.joined (p : Progress) (o : Opt) (value : Bytes) : Except Stop Progress := do
  let p ← p.settled
  match p.judge (.opt o) (some value) with
  | (p, .ok _) => return p
  | (_, .error f) => throw (.fault f)

/-- Takes an option that waits for its value. -/
def Progress.waiting (p : Progress) (o : Opt) : Except Stop Progress := do
  let p ← p.settled
  return { p with pending := some (.opt o, none) }

/-- A long name that is not known. -/
def Progress.unknownLong (p : Progress) (name : String) : Stop :=
  let used := p.settle.1.used
  match (mostSimilar? name (Opt.all.map Opt.long)).bind Opt.ofLong? with
  | some o =>
    let used := if used.contains (.opt o) then used else used ++ [.opt o]
    .fault (.unknown ("--" ++ name) (.similar o) used)
  | none => .fault (.unknown ("--" ++ name) .passAsValue used)

/-- Takes an argument that starts with two dashes: its name, and its value if one is joined
to it. No option has a name that is not text. -/
def Progress.long (p : Progress) (name : Bytes) (value : Option Bytes) : Except Stop Progress :=
  match Opt.ofLong? (Bytes.lossy name) with
  | none => .error (p.unknownLong (Bytes.lossy name))
  | some o =>
    match o.valueName?, value with
    | some _, some v => p.joined o v
    | some _, none => p.waiting o
    | none, some v =>
      .error (.fault (.needlessValue (Bytes.lossy v) o p.used))
    | none, none => p.flag o

/-- What stands for a letter that is not known: the character that the bytes start with, or all
of them if they do not start with one. -/
def unknownLetter (bs : Bytes) : String :=
  match bs with
  | [] => ""
  | b :: rest =>
    let more := Bytes.tail b rest
    if b < 0x80 || (Bytes.followers b ≠ 0 && more.length = Bytes.followers b) then
      String.ofList [Bytes.charOf b more]
    else Bytes.lossy bs

/-- Takes joined letters. What follows the letter of an option with a value is its value. -/
def Progress.letters (p : Progress) : Bytes → Except Stop Progress
  | [] => .ok p
  | b :: bs =>
    match if b < 0x80 then Opt.ofShort? (Char.ofNat b.toNat) else none with
    | none => .error (.fault (.unknown ("-" ++ unknownLetter (b :: bs)) .passAsValue []))
    | some o =>
      match o.valueName?, bs with
      | none, _ =>
        match p.flag o with
        | .ok p => p.letters bs
        | .error e => .error e
      | some _, [] => p.waiting o
      | some _, c :: value => p.joined o (if c = equalsSign then value else c :: value)

/-- Takes the folder, of which there is only one. -/
def Progress.folder (p : Progress) (bs : Bytes) : Except Stop Progress :=
  if p.hasFolder then
    let tip := if !p.onlyValues && bs.head? = some dash && bs ≠ [dash] then Tip.passAsValue else .none
    .error (.fault (.unknown (Bytes.lossy bs) tip []))
  else do
    let p ← p.settled
    return { p with pending := some (.folder, some bs), hasFolder := true }

/-- Takes a value: of the option that waits for one, or else the folder. -/
def Progress.plain (p : Progress) (bs : Bytes) : Except Stop Progress :=
  match p.pending with
  | some (.opt o, none) =>
    if p.onlyValues then p.folder bs else .ok { p with pending := some (.opt o, some bs) }
  | _ => p.folder bs

/-- Cuts a name at its first equals sign. -/
def splitValue (bs : Bytes) : Bytes × Option Bytes :=
  match bs.dropWhile (· ≠ equalsSign) with
  | [] => (bs, none)
  | _ :: value => (bs.takeWhile (· ≠ equalsSign), some value)

/-- Takes one argument. -/
def Progress.take (p : Progress) (bs : Bytes) : Except Stop Progress :=
  if p.onlyValues then p.plain bs
  else if bs = [dash, dash] then .ok { p with onlyValues := true }
  else
    match bs with
    | 0x2D :: 0x2D :: rest =>
      let (name, value) := splitValue rest
      p.long name value
    | 0x2D :: b :: rest => p.letters (b :: rest)
    | _ => p.plain bs

/-- Verbose and quiet exclude each other. The one that was given first is named first. -/
def checkConflict (p : Progress) : Except Stop Invocation :=
  match p.used.filter fun a => a = .opt .verbose ∨ a = .opt .quiet with
  | .opt a :: .opt b :: _ =>
    .error (.fault (.conflict a b (p.used.filter (· ≠ .opt b))))
  | _ => .ok p.invocation

/-- What the arguments ask for. -/
def Invocation.ofArguments (args : List Bytes) : Except Stop Invocation := do
  let p ← args.foldlM Progress.take Progress.start
  let p ← p.settled
  checkConflict p

/-- The configuration of a run. -/
def Invocation.config (i : Invocation) : Config :=
  { inputDir := i.inputDir
    outputFile := i.output.getD (defaultOutput i.inputDir)
    resolution := i.resolution
    encoding := match i.jpegQuality with
      | some q => .jpeg q
      | none => .flate
    onError := if i.skipUnreadable then .skip else .abort
    title := i.title
    author := i.author }

end ScanBinder
