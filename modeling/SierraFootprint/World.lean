import SierraFootprint.Artifact.Basic
import SierraFootprint.Files.Tree

/-!
# What a measurement can see

The files, the working directory that paths start from, the home directory of the user, and the
search path for programs. A change of the files names its entry by a path, and makes the directories
on the way that do not exist yet.
-/
namespace SierraFootprint

namespace Files

/-- Where a path leads when names without an entry are taken as they are. `follow` is as in
`walkWith`. -/
def settleWith (follow : Location → List Name → Location) (tree : Tree) :
    Location → List Name → Location
  | place, [] => place
  | place, name :: rest =>
    if name = [] ∨ name = selfName then settleWith follow tree place rest
    else if name = parentName then settleWith follow tree place.dropLast rest
    else
      match tree.get? (place ++ [name]) with
      | some (.link target) => follow (origin place target) (names target ++ rest)
      | _ => settleWith follow tree (place ++ [name]) rest

/-- `settleWith` with a number of links left to follow. -/
def settle (tree : Tree) : Nat → Location → List Name → Location
  | 0 => settleWith (fun place _ => place) tree
  | links + 1 => settleWith (settle tree links) tree

namespace Tree

/-- The location of the file that a path names or would name. -/
def target (tree : Tree) (start : Location) (path : Bytes) : Location :=
  settle tree linkLimit (origin start path) (names path)

/-- The location of the entry itself that a path names, which may be a link. -/
def slot (tree : Tree) (start : Location) (path : Bytes) : Location :=
  let all := (names path).filter (· ≠ [])
  settle tree linkLimit (origin start path) all.dropLast ++ all.getLast?.toList

/-- Makes the missing directories among `place` and those above it, from `above` downwards. -/
def makeDirectories (tree : Tree) (above : Location) : List Name → Tree
  | [] => tree
  | name :: rest =>
    let place := above ++ [name]
    match tree.get? place with
    | none => makeDirectories (tree.put place .directory) place rest
    | some _ => makeDirectories tree place rest

/-- Puts an entry and makes the directories above it. -/
def plant (tree : Tree) (place : Location) (entry : Entry) : Tree :=
  (tree.makeDirectories [] place.dropLast).put place entry

/-- A file with some content, which replaces the one that is there, also through links. -/
def write (tree : Tree) (start : Location) (path content : Bytes) : Tree :=
  tree.plant (tree.target start path) (.file ⟨content, .notExecutable⟩)

def makeDirectory (tree : Tree) (start : Location) (path : Bytes) : Tree :=
  tree.makeDirectories [] (tree.target start path)

/-- A link, which replaces the entry that is there. -/
def link (tree : Tree) (start : Location) (path target : Bytes) : Tree :=
  tree.plant (tree.slot start path) (.link target)

/-- A file that can or cannot be started, which replaces the entry that is there. -/
def install (tree : Tree) (start : Location) (path : Bytes) (file : File) : Tree :=
  tree.plant (tree.slot start path) (.file file)

/-- Removes a file, a link or a directory with all it holds. -/
def remove (tree : Tree) (start : Location) (path : Bytes) : Tree :=
  tree.erase (tree.slot start path)

end Tree

end Files

structure World where
  tree : Files.Tree
  /-- The directory that paths start from, unless they start at the root. -/
  workingDirectory : Files.Location
  /-- The path of the home directory of the user, if it is known. -/
  userHome : Option Bytes
  /-- The directories searched for a program, separated by colons, if any are set. -/
  searchPath : Option Bytes
  deriving DecidableEq, Repr

namespace World

/-- A working directory with nothing in it, directly below the root, and no known user. -/
def emptyDirectory (name : Files.Name) (searchPath : Option Bytes) : World :=
  ⟨Files.Tree.empty.put [name] .directory, [name], none, searchPath⟩

/-- The world after a change of its files, which depends on the working directory. -/
def edit (w : World) (change : Files.Tree → Files.Location → Files.Tree) : World :=
  { w with tree := change w.tree w.workingDirectory }

/-- A path that starts at the root and names what a path names. -/
def absolute (w : World) (path : Bytes) : Bytes :=
  if path.head? = some Files.slash then path
  else w.workingDirectory.flatMap (Files.slash :: ·) ++ Files.slash :: path

/-- What a path names. -/
def find (w : World) (path : Bytes) : Except OsError Files.Found :=
  w.tree.find w.workingDirectory path

/-- The bytes of the file that a path names. -/
def read (w : World) (path : Bytes) : Except SystemError Bytes :=
  w.tree.read w.workingDirectory path

/-- The artifact in the file that a path names. -/
def artifact (w : World) (path : Bytes) : Except ArtifactError Artifact :=
  Artifact.located path (Artifact.ofRead (w.read path))

end World

end SierraFootprint
