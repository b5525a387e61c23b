import ScanBinder.Files.Tree

/-!
# Arranging a file tree

Making folders, links and files with the folders above them, removing what stands at a
path, and listing everything below a folder.
-/

namespace ScanBinder.FileTree

/-- An empty tree in which relative paths start at the folder `work`. -/
def emptyAt (work : Name) : FileTree :=
  ⟨[([work], .folder)], [work]⟩

/-- Makes the folders that a list of pieces names, one below the other. -/
def makeFolders (t : FileTree) (base : Path) : List Name → FileTree
  | [] => t
  | n :: rest =>
    let here := if base = [] then n else Path.join base n
    let t :=
      match t.find here with
      | .ok (.free loc) => t.set loc .folder
      | _ => t
    makeFolders t (if n = [] then Path.join base [Path.slash] else here) rest

/-- The path of the folder that a path stands in. -/
def parentPieces (p : Path) : List Name :=
  (Path.pieces p).dropLast

/-- Makes a folder and all folders above it. -/
def addFolder (t : FileTree) (p : Path) : FileTree :=
  t.makeFolders [] (Path.pieces p)

/-- Writes a file and makes the folders above it. -/
def addFile (t : FileTree) (p : Path) (content : Bytes) : FileTree :=
  let t := t.makeFolders [] (parentPieces p)
  match t.write p content with
  | .ok t => t
  | .error _ => t

/-- Makes a symbolic link and the folders above it, if its name is free. -/
def addLink (t : FileTree) (p target : Path) : FileTree :=
  let t := t.makeFolders [] (parentPieces p)
  match t.find p with
  | .ok (.free loc) => t.set loc (.link target)
  | _ => t

/-- The location of the entry that a path names, a link at its end not followed. -/
def placeOf? (t : FileTree) (p : Path) : Option Location :=
  match (Path.pieces p).reverse.dropWhile (! Path.isNaming ·) with
  | [] => none
  | n :: above =>
    let base := above.reverse
    let start := if Path.isAbsolute p then [] else t.current
    match t.walk linkLimit start base with
    | .ok (.taken loc .folder) => if (t.get? (loc ++ [n])).isSome then some (loc ++ [n]) else none
    | _ => none

/-- Removes what stands at a path, a folder with everything below it. -/
def remove? (t : FileTree) (p : Path) : Option FileTree :=
  (t.placeOf? p).map fun loc =>
    { t with entries := t.entries.filter fun (l, _) => !(loc.isPrefixOf l) }

/-- The order of names by their bytes. -/
def nameLe : Name → Name → Bool
  | [], _ => true
  | _ :: _, [] => false
  | a :: as, b :: bs => if a = b then nameLe as bs else a < b

/-- Everything below a folder, depth first and each folder by name. A folder is listed
with a slash at its end, before its content; a link is listed as itself. -/
def listing (t : FileTree) : (depth : Nat) → (above : Path) → Location → List Path
  | 0, _, _ => []
  | depth + 1, above, loc =>
    ((t.names loc).mergeSort nameLe).flatMap fun n =>
      match t.get? (loc ++ [n]) with
      | some .folder =>
        (above ++ n ++ [Path.slash]) :: listing t depth (above ++ n ++ [Path.slash]) (loc ++ [n])
      | _ => [above ++ n]

/-- Everything below the folder that relative paths start from. -/
def listAll (t : FileTree) : List Path :=
  t.listing (t.entries.length + 1) [] t.current

end ScanBinder.FileTree
