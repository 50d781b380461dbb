import SierraFootprint.SystemError
import SierraFootprint.Text.Utf8
import SierraFootprint.Tool.Ending

/-!
# Trees of files

A tree gives the entries below a root directory by their locations. A location without an entry does
not exist, and nothing is reached through it. A path is walked name by name from a directory. Links
are followed wherever they stand, up to a fixed number of them, and the walk stops with an error at
the first name that leads nowhere.
-/
namespace SierraFootprint.Files

/-- The name of an entry within its directory. -/
abbrev Name := Bytes

/-- The names on the way down from the root. -/
abbrev Location := List Name

/-- What a program leaves behind when it has run. -/
structure Output where
  stdout : Bytes
  stderr : Bytes
  ending : Ending
  deriving DecidableEq, Repr

/-- What comes of starting a file as a program. -/
inductive Launch
  /-- The permission to execute it is missing. -/
  | notExecutable
  /-- It is executable but in no known format. -/
  | unknownFormat
  /-- It names an interpreter that does not exist. -/
  | noInterpreter
  | program (output : Output)
  deriving DecidableEq, Repr

structure File where
  content : Bytes
  launch : Launch
  deriving DecidableEq, Repr

/-- Whether the permission to execute the file is there. -/
def File.isExecutable (f : File) : Bool :=
  f.launch != .notExecutable

inductive Entry
  | directory
  | file (f : File)
  /-- A symbolic link to a path, relative to the directory of the link unless it starts at the
  root. -/
  | link (target : Bytes)
  deriving DecidableEq, Repr

/-- Entries by location. The root is a directory without being listed. -/
structure Tree where
  entries : List (Location × Entry)
  deriving DecidableEq, Repr

namespace Tree

def empty : Tree := ⟨[]⟩

def get? (tree : Tree) (place : Location) : Option Entry :=
  if place = [] then some .directory else tree.entries.lookup place

/-- Puts an entry in place of the one that may be there. -/
def put (tree : Tree) (place : Location) (entry : Entry) : Tree :=
  ⟨(place, entry) :: tree.entries.filter (fun e => e.1 != place)⟩

/-- Takes away an entry and all that lies below it. -/
def erase (tree : Tree) (place : Location) : Tree :=
  ⟨tree.entries.filter (fun e => !place.isPrefixOf e.1)⟩

end Tree

/-! ### Finding what a path names -/

/-- The byte between the names of a path. -/
def slash : UInt8 := 0x2F

/-- The name of a directory itself. -/
def selfName : Name := [0x2E]

/-- The name of the directory above. -/
def parentName : Name := [0x2E, 0x2E]

/-- The names in a path. An empty one stands for the directory it is looked up in, as `.` does. -/
def names (path : Bytes) : List Name :=
  path.splitOn slash

/-- The directory a path starts from: the root if it begins with a slash. -/
def origin (start : Location) (path : Bytes) : Location :=
  if path.head? = some slash then [] else start

/-- The longest name of an entry, in bytes. -/
def nameLimit : Nat := 255

/-- The first length of a path, in bytes, that is too long. -/
def pathBound : Nat := 4096

/-- How many links are followed on one path. -/
def linkLimit : Nat := 40

/-- What a path names. -/
inductive Found
  | directory (place : Location)
  | file (place : Location) (f : File)
  deriving DecidableEq, Repr

/-- Walks from a directory. `follow` says what becomes of a link's target and the names after it. -/
def walkWith (follow : Location → List Name → Except OsError Found) (tree : Tree) :
    Location → List Name → Except OsError Found
  | place, [] => .ok (.directory place)
  | place, name :: rest =>
    if name = [] ∨ name = selfName then walkWith follow tree place rest
    else if name = parentName then walkWith follow tree place.dropLast rest
    else if nameLimit < name.length then .error .nameTooLong
    else
      match tree.get? (place ++ [name]) with
      | none => .error .noSuchFile
      | some .directory => walkWith follow tree (place ++ [name]) rest
      | some (.file f) =>
        if rest = [] then .ok (.file (place ++ [name]) f) else .error .notDirectory
      | some (.link target) => follow (origin place target) (names target ++ rest)

/-- Walks from a directory with a number of links left to follow. -/
def walk (tree : Tree) : Nat → Location → List Name → Except OsError Found
  | 0 => walkWith (fun _ _ => .error .tooManyLinks) tree
  | links + 1 => walkWith (walk tree links) tree

@[simp] theorem walk_nil (tree : Tree) (links : Nat) (place : Location) :
    walk tree links place [] = .ok (.directory place) := by
  cases links <;> rfl

/-- A walk that follows no link goes on from the entry of the first name. -/
theorem walk_directory (tree : Tree) (links : Nat) (place : Location) {name : Name}
    (rest : List Name) (hn : name ≠ []) (hs : name ≠ selfName) (hp : name ≠ parentName)
    (hl : name.length ≤ nameLimit) (hd : tree.get? (place ++ [name]) = some .directory) :
    walk tree links place (name :: rest) = walk tree links (place ++ [name]) rest := by
  have hl : ¬ nameLimit < name.length := by omega
  cases links <;> simp [walk, walkWith, hn, hs, hp, hl, hd]

/-- A link is replaced by the names of its target, as long as a link may still be followed. -/
theorem walk_link (tree : Tree) (links : Nat) (place : Location) {name : Name}
    (rest : List Name) {target : Bytes} (hn : name ≠ []) (hs : name ≠ selfName)
    (hp : name ≠ parentName) (hl : name.length ≤ nameLimit)
    (ht : tree.get? (place ++ [name]) = some (.link target)) :
    walk tree (links + 1) place (name :: rest) =
      walk tree links (origin place target) (names target ++ rest) := by
  have hl : ¬ nameLimit < name.length := by omega
  simp [walk, walkWith, hn, hs, hp, hl, ht]

/-- What a path without a byte zero names, seen from a directory. -/
def Tree.find (tree : Tree) (start : Location) (path : Bytes) : Except OsError Found :=
  if path = [] then .error .noSuchFile
  else if pathBound ≤ path.length then .error .nameTooLong
  else walk tree linkLimit (origin start path) (names path)

/-- The bytes of the file that a path names. -/
def Tree.read (tree : Tree) (start : Location) (path : Bytes) : Except SystemError Bytes :=
  if path.contains 0 then .error .nulInPath
  else
    match tree.find start path with
    | .ok (.file _ f) => .ok f.content
    | .ok (.directory _) => .error (.os .isDirectory)
    | .error e => .error (.os e)

end SierraFootprint.Files
