import ScanBinder.Command.Run
import ScanBinder.Files.Arrange

/-!
# The command

A run sees the part of the file system that its arguments name: the input folder with what
is in it, and the place of the output. The run itself is a function of that tree; the output
is then written if the run has changed it.
-/

namespace ScanBinder.Main

/-- The tree of the folders down to an absolute path, from which relative paths start. -/
def treeAt (dir : String) : FileTree :=
  let t := FileTree.addFolder ⟨[], []⟩ (Bytes.ofText dir)
  { t with current := (Path.pieces (Bytes.ofText dir)).filter Path.isNaming }

/-- A name that no entry has, as the target of links that lead nowhere. -/
def nowhere : Path :=
  [0]

/-- Adds an entry of a folder. What cannot be read is added as a link that leads nowhere: it is
listed, and fails where it is used. -/
def addEntry (t : FileTree) (p : String) : IO FileTree := do
  let place := (← IO.currentDir) / p
  if ← place.isDir then return t.addFolder (Bytes.ofText p)
  try return t.addFile (Bytes.ofText p) (← IO.FS.readBinFile place).toList
  catch _ => return t.addLink (Bytes.ofText p) nowhere

/-- Adds what stands at a path, if there is anything. -/
def addPlace (t : FileTree) (p : String) : IO FileTree := do
  if ← ((← IO.currentDir) / p).pathExists then addEntry t p else return t

/-- Adds a folder with what is in it. -/
def addContent (t : FileTree) (p : String) : IO FileTree := do
  let place := (← IO.currentDir) / p
  let mut t ← addPlace t p
  if ← place.isDir then
    for e in ← place.readDir do
      t ← addEntry t (Bytes.lossy (Path.join (Bytes.ofText p) (Bytes.ofText e.fileName)))
  return t

/-- The part of the file system that a run can see. -/
def treeFor (c : Config) : IO FileTree := do
  let input := Bytes.lossy c.inputDir
  let output := Bytes.lossy c.outputFile
  let t := treeAt (toString (← IO.currentDir))
  let t ← if input.isEmpty then pure t else addContent t input
  let folder := (Path.pieces c.outputFile).dropLast
  let t ← match folder with
    | [] => pure t
    | ps => addPlace t ("/".intercalate (ps.map Bytes.lossy) ++ "/")
  if output.isEmpty then return t else addPlace t output

/-- Writes the file at a path if the second tree has another content there. -/
def writeChange (old new : FileTree) (p : Path) : IO Unit :=
  match new.read p with
  | .ok content =>
    if (old.read p).toOption = some content then pure ()
    else IO.FS.writeBinFile (Bytes.lossy p) ⟨content.toArray⟩
  | .error _ => pure ()

/-- The time and the millionths of a second, read off a new file. -/
def clock : IO (Moment × Nat) := do
  let (_, path) ← IO.FS.createTempFile
  let m ← path.metadata
  IO.FS.removeFile path
  return (Moment.ofSeconds m.modified.sec.toNat, m.modified.nsec.toNat / 1000)

/-- The program that opens documents. -/
def viewer : String := "xdg-open"

/-- Whether there is a viewer in one of the folders where programs are looked for. -/
def findsViewer : IO Bool := do
  let folders := ((← IO.getEnv "PATH").getD "").splitOn ":"
  let here ← IO.currentDir
  for folder in folders do
    if ← (here / folder / viewer).pathExists then return true
  return false

end ScanBinder.Main

open ScanBinder ScanBinder.Main in
/-- Runs the command on the files that it names. The viewer is looked for but not started: what
the command prints and returns does not depend on what it shows. -/
def main (args : List String) : IO UInt32 := do
  let args := args.map Bytes.ofText
  let config? := (Invocation.ofArguments args).toOption.map Invocation.config
  let old ← match config? with
    | some c => treeFor c
    | none => pure (treeAt "/")
  let (now, micros) ← clock
  let filter ← IO.getEnv "RUST_LOG"
  let (report, new) :=
    runCommand old ⟨filter, ← findsViewer, .fixed, now, now.logText micros⟩ args
  match config? with
  | some c => writeChange old new c.outputFile
  | none => pure ()
  IO.print report.out
  IO.eprint report.err
  return UInt32.ofNat report.code
