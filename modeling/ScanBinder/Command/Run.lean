import ScanBinder.Command.Arguments
import ScanBinder.Command.Help
import ScanBinder.Command.Log

/-!
# Running the command

The command lists the images it finds, writes the document, and reads the number of its
pages back from the file. A failure is written to the error output behind the step in which
it happened.
-/

namespace ScanBinder

/-- What a run has printed, and its exit code. -/
structure Report where
  code : Nat
  out : String
  err : String
deriving DecidableEq

/-- What the command depends on besides its arguments and the file tree. -/
structure Surroundings where
  /-- The log filter that the user asked for, as text. -/
  filter : Option String
  /-- Whether there is a program that opens documents. -/
  hasViewer : Bool
  /-- How the streams of a document are compressed. -/
  packer : Packer
  /-- The time that a document carries. -/
  now : Moment
  /-- What stands in front of a line of the log. -/
  stamp : String

/-- The line for a failure, behind the step in which it happened. -/
def failureLine (step : List String) (causes : List String) : String :=
  "Error: " ++ ": ".intercalate (step ++ causes) ++ "\n"

/-- The images found, numbered from one. -/
def foundText (entries : List ScanEntry) : String :=
  "Found " ++ toString entries.length ++ " images:\n" ++
    String.join (entries.zipIdx.map fun (e, i) =>
      "  " ++ toString (i + 1) ++ ". " ++ e.name ++ "\n")

def noImagesText : String := "No image files found in the folder.\n"

/-- The images left out and the document made. -/
def createdText (output : Path) (count : Nat) (skipped : List Skipped) : String :=
  String.join (skipped.map fun s => "Skipped " ++ s.entry.name ++ ": " ++ s.reason ++ "\n") ++
    "\nSuccessfully created: " ++ Path.display output ++ "\n" ++
    "PDF contains " ++ toString count ++ " pages\n"

/-- What a run did: the tree after it, what it printed, what it reported, and the line for
its failure if it failed. -/
structure Trace where
  tree : FileTree
  out : String
  events : List Event
  failure : Option String

namespace FileTree

/-- Reads back the document that was written, and opens it if that is asked for. -/
def finishRun (t : FileTree) (i : Invocation) (s : Surroundings) (found : String)
    (events : List Event) : Outcome → Trace
  | .noImages => ⟨t, found, events, none⟩
  | .created output _ skipped =>
    match t.countPages output with
    | .error f =>
      ⟨t, found, events, some (failureLine ["Failed to read back " ++ Path.display output] f.chain)⟩
    | .ok n =>
      let out := found ++ createdText output n skipped
      if i.openAfter && !s.hasViewer then
        ⟨t, out, events, some (failureLine [] [PathError.notFound.text])⟩
      else ⟨t, out, events, none⟩

/-- Runs what the arguments ask for. -/
def runInvocation (t : FileTree) (s : Surroundings) (i : Invocation) : Trace :=
  let c := i.config
  match c.fault? with
  | some f => ⟨t, "", [], some (failureLine [] (Failure.invalidConfig f).chain)⟩
  | none =>
    match t.scanFolder c.inputDir with
    | .error f =>
      ⟨t, "", [], some (failureLine ["Failed to scan " ++ Path.display c.inputDir] f.chain)⟩
    | .ok listing =>
      let scanned := listing.events c.inputDir
      if listing.entries.isEmpty then ⟨t, noImagesText, scanned, none⟩
      else
        let found := foundText listing.entries
        let attempts := t.attempts listing.entries
        let (result, t) := t.writeAttempts s.packer c s.now attempts
        let events := scanned ++ writeEvents c attempts result
        match result with
        | .error f =>
          ⟨t, found, events,
            some (failureLine ["Failed to create " ++ Path.display c.outputFile] f.chain)⟩
        | .ok outcome => t.finishRun i s found events outcome

end FileTree

/-- The log filter of a run: what the user asked for, or else what the arguments imply. -/
def filterFor (s : Surroundings) (i : Invocation) : LogFilter :=
  match s.filter.bind LogFilter.parse? with
  | some f => f
  | none => [.ofRank (if i.verbose then 4 else if i.quiet then 1 else 2)]

/-- Runs what the arguments ask for, and reports it. -/
def FileTree.perform (t : FileTree) (s : Surroundings) (i : Invocation) : Report × FileTree :=
  let trace := t.runInvocation s i
  let log := (filterFor s i).render s.stamp trace.events
  match trace.failure with
  | some line => (⟨1, trace.out, log ++ line⟩, trace.tree)
  | none => (⟨0, trace.out, log⟩, trace.tree)

/-- Runs the command with the given arguments. -/
def runCommand (t : FileTree) (s : Surroundings) (args : List Bytes) : Report × FileTree :=
  match Invocation.ofArguments args with
  | .error (.fault f) => (⟨2, "", Terminal.plain f.text⟩, t)
  | .error .help => (⟨0, helpText, ""⟩, t)
  | .error .version => (⟨0, versionText, ""⟩, t)
  | .ok i => t.perform s i

end ScanBinder
