import ScanBinder.Combine
import ScanBinder.Text.Blank
import ScanBinder.Text.Pattern
import ScanBinder.Text.Terminal

/-!
# Log

What happens during a run is reported as events. Each has a level and comes from a part of
the program, its target. A filter chooses the events that are written: a rule sets a level
for the targets that start with a name, and the longest name that fits decides.
-/

namespace ScanBinder

inductive Level where
  | error
  | warn
  | info
  | debug
  | trace
deriving DecidableEq

namespace Level

/-- More detail has a higher rank. -/
def rank : Level → Nat
  | error => 1
  | warn => 2
  | info => 3
  | debug => 4
  | trace => 5

/-- The name of a level in five characters. -/
def label : Level → String
  | error => "ERROR"
  | warn => " WARN"
  | info => " INFO"
  | debug => "DEBUG"
  | trace => "TRACE"

end Level

inductive Event where
  | ignoredFolder (path : Path)
  | found (count : Nat) (dir : Path)
  | decoded (path : Path) (width height : Nat) (layout : Layout)
  | alphaDropped (path : Path)
  | skipping (name reason : String)
  | page (index width height : Nat)
  | wrote (count : Nat) (output : Path)

namespace Event

def level : Event → Level
  | skipping _ _ => .warn
  | wrote _ _ => .info
  | _ => .debug

def target : Event → String
  | ignoredFolder _ => "images_to_pdf::scan"
  | found _ _ => "images_to_pdf::scan"
  | decoded _ _ _ _ => "images_to_pdf::normalize"
  | alphaDropped _ => "images_to_pdf::normalize"
  | skipping _ _ => "images_to_pdf::convert"
  | page _ _ _ => "images_to_pdf::pdf::encode"
  | wrote _ _ => "images_to_pdf::pdf::encode"

def text : Event → String
  | ignoredFolder p => "Ignoring directory " ++ Path.display p
  | found n dir => "Found " ++ toString n ++ " images in " ++ Path.display dir
  | decoded p w h layout =>
    "Decoded " ++ Path.display p ++ " (" ++ toString w ++ "x" ++ toString h ++ ", " ++ layout.name ++
      ")"
  | alphaDropped p => Path.display p ++ " is palette based, dropping alpha"
  | skipping name reason => "Skipping " ++ name ++ ": " ++ reason
  | page i w h =>
    "Page " ++ toString (i + 1) ++ ": " ++ toString w ++ "x" ++ toString h ++ " px as object (" ++
      toString (Pdf.pageNumber i) ++ ", 0)"
  | wrote n output => "Wrote " ++ toString n ++ " pages to " ++ Path.display output

/-- A line of the log, behind a time stamp. -/
def line (stamp : String) (e : Event) : String :=
  stamp ++ " " ++ e.level.label ++ " " ++ e.target ++ ": " ++ Terminal.disarm e.text ++ "\n"

end Event

/-! ## What is reported -/

/-- The events of scanning a folder. -/
def Listing.events (l : Listing) (dir : Path) : List Event :=
  l.ignored.map .ignoredFolder ++ [.found l.entries.length dir]

/-- The events of an image that was loaded. -/
def Loaded.events (l : Loaded) (path : Path) : List Event :=
  .decoded path l.picture.width l.picture.height l.picture.layout ::
    if l.paletteBased then [.alphaDropped path] else []

/-- The events of a list of tries. A failure is reported if the entry is left out, and ends
the report if it ends the batch. -/
def attemptEvents (policy : ErrorPolicy) : List Attempt → List Event
  | [] => []
  | ⟨e, .ok loaded⟩ :: more => loaded.events e.path ++ attemptEvents policy more
  | ⟨e, .error f⟩ :: more =>
    match policy with
    | .abort => []
    | .skip => .skipping e.name (Batch.failureOf e f).text :: attemptEvents policy more

/-- Whether a page can be made of an image. -/
def isBindable (encoding : PageEncoding) (image : Raster (Rgb UInt8)) : Bool :=
  match encoding with
  | .flate => true
  | .jpeg _ => Jpeg.isEncodable image

/-- The events of making pages, up to the first image of which none can be made. -/
def pageEvents (encoding : PageEncoding) (images : List (Raster (Rgb UInt8))) : List Event :=
  (images.takeWhile (isBindable encoding)).zipIdx.map fun (image, i) =>
    .page i image.width image.height

/-- The events of writing the document of a list of tries, which ended in `result`. -/
def writeEvents (c : Config) (attempts : List Attempt)
    (result : Except Failure Outcome) : List Event :=
  let pages := match Batch.settle c.onError attempts with
    | .ok b => pageEvents c.encoding b.images
    | .error _ => []
  let wrote := match result with
    | .ok (.created output entries _) => [Event.wrote entries.length output]
    | _ => []
  attemptEvents c.onError attempts ++ pages ++ wrote

/-! ## Filters -/

/-- A rule sets the highest rank of events from targets that start with a name. It may be
limited to events that carry a field, or to spans, which this program does not open. -/
structure LogRule where
  target : String
  rank : Nat
  field : Option String
  spansOnly : Bool
deriving DecidableEq

namespace LogRule

/-- A rule for all targets. -/
def ofRank (n : Nat) : LogRule :=
  ⟨"", n, none, false⟩

/-- The rank that lets everything through. -/
def fullRank : Nat := 5

/-- The rank that a number or a word stands for. -/
def rankOf? (s : String) : Option Nat :=
  let digits := match s.toList with
    | '+' :: cs => cs
    | cs => cs
  match takeDigits digits with
  | (d :: ds, []) =>
    let n := digitsValue (d :: ds)
    if n ≤ fullRank then some n else none
  | _ =>
    [("off", 0), ("error", 1), ("warn", 2), ("info", 3), ("debug", 4), ("trace", 5)].lookup
      (String.ofList (s.toList.map Char.toLower))

/-- Where the reading of a rule stands. A place carries the position at which its piece
starts. -/
inductive Place where
  | start
  | word (start : Nat)
  | span (start : Nat)
  | field (start : Nat)
  | afterField
  | afterSpan
  | level (start : Nat)

/-- Characters that a rule may start with, apart from a bracket. -/
def opensWord (c : Char) : Bool :=
  c = '_' || c = ':' || c = '-' || isLetterOrDigit c

/-- Whether a field can be compared with a value: a number or a pattern. -/
def isFieldValue (s : String) : Bool :=
  (Binary.ofText? .double s).isSome || Pattern.isWellFormed s

/-- A field with a value tells spans apart, a field alone events. -/
def withField (r : LogRule) (piece : String) : Option LogRule :=
  match piece.splitOn "=" with
  | _ :: v :: _ => if isFieldValue v then some { r with spansOnly := true } else none
  | _ => if piece.isEmpty then none else some { r with field := some piece }

/-- The piece of a rule between two positions, unless they divide a character. -/
def cut (whole : Bytes) (start stop : Nat) : Option String :=
  Bytes.toText? ((whole.take stop).drop start)

/-- Reads the character at a position. Pieces are cut from the whole text of the rule. -/
def step (whole : Bytes) (r : LogRule) (i : Nat) (c : Char) (place : Place) :
    Option (LogRule × Place) :=
  match place with
  | .start =>
    if c = '[' then some (r, .span (i + 1))
    else if opensWord c then some (r, .word i)
    else none
  | .word start =>
    if c = '=' then
      (cut whole start i).map fun target => ({ r with target }, .level (i + 1))
    else if c = '[' then
      (cut whole start i).map fun target => ({ r with target }, .span (i + 1))
    else some (r, .word start)
  | .span start =>
    if c = ']' then some ({ r with spansOnly := true }, .afterSpan)
    else if c = '\x7b' then
      (cut whole start i).map fun name => ({ r with spansOnly := !name.isEmpty }, .field (i + 1))
    else some (r, .span start)
  | .field start =>
    if c = '\x7d' then
      ((cut whole start i).bind r.withField).map fun r => (r, .afterField)
    else some (r, .field start)
  | .afterField => if c = ']' then some (r, .afterSpan) else none
  | .afterSpan => if c = '=' then some (r, .level (i + 1)) else none
  | .level start => some (r, .level start)

/-- Reads characters from a position on. Positions count bytes. -/
def steps (whole : Bytes) : LogRule → Place → Nat → List Char → Option (LogRule × Place)
  | r, place, _, [] => some (r, place)
  | r, place, i, c :: cs =>
    match step whole r i c place with
    | some (r, place) => steps whole r place (i + c.utf8Size) cs
    | none => none

/-- What is left when the characters are over: a level or a target that has not been cut. -/
def finish (whole : Bytes) (r : LogRule) (place : Place) : Option LogRule :=
  match place with
  | .word start =>
    (cut whole start whole.length).map fun piece =>
      match rankOf? piece with
      | some n => { r with rank := n }
      | none => { r with target := piece }
  | .level start =>
    (cut whole start whole.length).bind fun piece =>
      if piece.isEmpty then some r else (rankOf? piece).map fun n => { r with rank := n }
  | .afterSpan => some r
  | _ => none

/-- A rule: a level for all targets, a target with a level, or a target by itself, which
lets everything through. Blanks around it are not read, but count as part of its text, so
that a word behind a blank is no level. -/
def parse? (s : String) : Option LogRule :=
  let whole := Bytes.ofText s
  let read := ((s.toList.dropWhile isBlank).reverse.dropWhile isBlank).reverse
  match steps whole (ofRank fullRank) .start 0 read with
  | some (r, place) => finish whole r place
  | none => none

/-- Whether a rule fits events of a target. They carry one field, their message. -/
def fits (r : LogRule) (target : String) : Bool :=
  !r.spansOnly && r.target.toList.isPrefixOf target.toList &&
    (r.field = none || r.field = some "message")

/-- Of rules that fit, the one with the longer name decides, then the one with a field. -/
def weight (r : LogRule) : Nat :=
  2 * r.target.length + if r.field.isSome then 1 else 0

end LogRule

/-- The rules of a log; an event that no rule fits is left out. -/
abbrev LogFilter := List LogRule

/-- Rules with commas between them. Without any, only errors are written. -/
def LogFilter.parse? (s : String) : Option LogFilter :=
  match (s.splitOn ",").filter (!·.isEmpty) with
  | [] => some [.ofRank 1]
  | words => words.mapM LogRule.parse?

/-- The rule that decides for a target, of equals the last. -/
def LogFilter.ruleFor? (f : LogFilter) (target : String) : Option LogRule :=
  (f.filter (·.fits target)).foldl
    (fun best r => match best with
      | some b => if b.weight ≤ r.weight then some r else some b
      | none => some r)
    none

def LogFilter.passes (f : LogFilter) (e : Event) : Bool :=
  match f.ruleFor? e.target with
  | some r => e.level.rank ≤ r.rank
  | none => false

/-- The lines of the events that pass a filter. -/
def LogFilter.render (f : LogFilter) (stamp : String) (events : List Event) : String :=
  String.join ((events.filter f.passes).map (Event.line stamp))

end ScanBinder
