import ScanBinder.Path

/-!
# File trees

A file tree maps locations to folders, files and symbolic links. A location is the list of
names from the root down, free of links; a path is resolved to a location by walking its
components and following the links on the way. Nothing here depends on the world outside:
reading, writing and listing are functions of the tree.
-/

namespace ScanBinder

/-- The names from the root of the tree down to a place in it. -/
abbrev Location := List Name

/-- What stands at a location. -/
inductive Entry where
  | folder
  | file (content : Bytes)
  | link (target : Path)
deriving DecidableEq

/-- Why a path could not be used. -/
inductive PathError where
  | notFound
  | notDirectory
  | isDirectory
  | tooManyLinks
  | nameTooLong
  | nulInPath
deriving DecidableEq

/-- The operating system's wording. -/
def PathError.text : PathError → String
  | notFound => "No such file or directory (os error 2)"
  | notDirectory => "Not a directory (os error 20)"
  | isDirectory => "Is a directory (os error 21)"
  | tooManyLinks => "Too many levels of symbolic links (os error 40)"
  | nameTooLong => "File name too long (os error 36)"
  | nulInPath => "file name contained an unexpected NUL byte"

/-- Entries by location, and the location that relative paths start from. The root is a
folder without an entry of its own. -/
structure FileTree where
  entries : List (Location × Entry)
  current : Location
deriving DecidableEq

/-- Where a walk ended: at an entry, or at a free name in an existing folder. -/
inductive Place where
  | taken (loc : Location) (entry : Entry)
  | free (loc : Location)
deriving DecidableEq

namespace FileTree

def get? (t : FileTree) (loc : Location) : Option Entry :=
  if loc = [] then some .folder else t.entries.lookup loc

/-- The number of links that one walk may follow. -/
def linkLimit : Nat := 40

/-- The longest name of a component. -/
def nameLimit : Nat := 255

/-- The longest path. -/
def pathLimit : Nat := 4095

/-- Walks `pieces` from the folder at `loc`, following at most `links` links. A piece that
is empty or a dot stays where it is, which is a folder. -/
def walk (t : FileTree) (links : Nat) (loc : Location) (pieces : List Name) :
    Except PathError Place :=
  match pieces with
  | [] => .ok (.taken loc .folder)
  | n :: rest =>
    if n = [] ∨ n = Path.here then walk t links loc rest
    else if n = Path.above then walk t links loc.dropLast rest
    else if nameLimit < n.length then .error .nameTooLong
    else
      let next := loc ++ [n]
      match t.get? next with
      | none => if rest = [] then .ok (.free next) else .error .notFound
      | some .folder => walk t links next rest
      | some (.file content) =>
        if rest = [] then .ok (.taken next (.file content)) else .error .notDirectory
      | some (.link target) =>
        match links with
        | 0 => .error .tooManyLinks
        | links + 1 =>
          walk t links (if Path.isAbsolute target then [] else loc) (Path.pieces target ++ rest)
termination_by (links, pieces.length)

/-- Where a path leads. -/
def find (t : FileTree) (p : Path) : Except PathError Place :=
  if p = [] then .error .notFound
  else if p.contains 0 then .error .nulInPath
  else if pathLimit < p.length then .error .nameTooLong
  else t.walk linkLimit (if Path.isAbsolute p then [] else t.current) (Path.pieces p)

/-- What a path leads to. -/
def lookup (t : FileTree) (p : Path) : Except PathError Entry :=
  match t.find p with
  | .ok (.taken _ e) => .ok e
  | .ok (.free _) => .error .notFound
  | .error e => .error e

def exists? (t : FileTree) (p : Path) : Bool :=
  (t.lookup p).isOk

/-- Whether a path leads to a folder. -/
def isFolder (t : FileTree) (p : Path) : Bool :=
  match t.lookup p with
  | .ok .folder => true
  | _ => false

/-- The content of the file that a path leads to. -/
def read (t : FileTree) (p : Path) : Except PathError Bytes :=
  match t.lookup p with
  | .ok (.file content) => .ok content
  | .ok _ => .error .isDirectory
  | .error e => .error e

/-- The tree with `e` at `loc`, in the place of what stood there or else at the end. -/
def set (t : FileTree) (loc : Location) (e : Entry) : FileTree :=
  if t.entries.any (·.1 = loc) then
    { t with entries := t.entries.map fun x => if x.1 = loc then (loc, e) else x }
  else { t with entries := t.entries ++ [(loc, e)] }

/-- Walks `pieces` as `walk` does, but to a name that a file can be written under. A slash behind
the last name, in the path or in the target of a link at its end, asks for a folder; the name is
then not even looked up. -/
def walkToWrite (t : FileTree) (links : Nat) (loc : Location) (pieces : List Name) :
    Except PathError Location :=
  match pieces with
  | [] => .error .isDirectory
  | n :: rest =>
    if n = [] ∨ n = Path.here then walkToWrite t links loc rest
    else if n = Path.above then walkToWrite t links loc.dropLast rest
    else if rest ≠ [] ∧ rest.all (· = []) then .error .isDirectory
    else if nameLimit < n.length then .error .nameTooLong
    else
      let next := loc ++ [n]
      match t.get? next with
      | none => if rest = [] then .ok next else .error .notFound
      | some .folder => walkToWrite t links next rest
      | some (.file _) => if rest = [] then .ok next else .error .notDirectory
      | some (.link target) =>
        match links with
        | 0 => .error .tooManyLinks
        | links + 1 =>
          walkToWrite t links (if Path.isAbsolute target then [] else loc)
            (Path.pieces target ++ rest)
termination_by (links, pieces.length)

/-- The location that writing to a path would change. -/
def writeLocation (t : FileTree) (p : Path) : Except PathError Location :=
  if p = [] then .error .notFound
  else if p.contains 0 then .error .nulInPath
  else if pathLimit < p.length then .error .nameTooLong
  else t.walkToWrite linkLimit (if Path.isAbsolute p then [] else t.current) (Path.pieces p)

/-- Writes a whole file, new or in the place of an old one. -/
def write (t : FileTree) (p : Path) (content : Bytes) : Except PathError FileTree :=
  (t.writeLocation p).map fun loc => t.set loc (.file content)

/-- The names in a folder, in the order of the tree. -/
def names (t : FileTree) (loc : Location) : List Name :=
  t.entries.filterMap fun (l, _) => if l.dropLast = loc then l.getLast? else none

/-- The names in the folder that a path leads to. -/
def list (t : FileTree) (p : Path) : Except PathError (List Name) :=
  match t.find p with
  | .ok (.taken loc .folder) => .ok (t.names loc)
  | .ok (.taken _ _) => .error .notDirectory
  | .ok (.free _) => .error .notFound
  | .error e => .error e

end FileTree

end ScanBinder
