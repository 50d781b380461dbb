import SierraFootprint.World

/-!
# Finding an executable by name

A name of several parts is looked up from the working directory, by its absolute path. Any other
name is looked up in the directories of the search path, in order, and the first executable file is
taken. A directory that is given by a tilde, or from a tilde downwards, is looked for in the home
directory of the user.
-/
namespace SierraFootprint.Tool

/-- Why no executable was found. -/
inductive LookupError
  | notFound
  | noSearchPath
  | notCanonical
  deriving DecidableEq, Repr

def LookupError.message : LookupError → String
  | notFound => "cannot find binary path"
  | noSearchPath => "no path to search and provided name is not an absolute path"
  | notCanonical => "cannot canonicalize path"

/-- The byte between the directories of the search path. -/
def colon : UInt8 := 0x3A

/-- The directories of the search path. An empty one is the working directory. -/
def directories (searchPath : Bytes) : List Bytes :=
  searchPath.splitOn colon

/-- The search path of some directories. -/
def searchPathOf (directories : List Bytes) : Bytes :=
  [colon].intercalate directories

/-- The name that stands for the home directory of the user. -/
def tilde : Files.Name := [0x7E]

/-- Whether a directory of the search path is given from the home directory of the user. -/
def isPersonal (directory : Bytes) : Bool :=
  (Files.names directory).head? == some tilde

/-- A name seen from a directory. -/
def join (directory name : Bytes) : Bytes :=
  if directory = [] ∨ name.head? = some Files.slash then name
  else if directory.getLast? = some Files.slash then directory ++ name
  else directory ++ Files.slash :: name

/-- A directory of the search path with the home directory of the user in place of the tilde in
front. What follows the tilde loses its empty names and every `.`, and is seen from the working
directory where no home is known. -/
def expand (w : World) (directory : Bytes) : Bytes :=
  if isPersonal directory then
    let below := (Files.names directory).tail.filter (fun n => n ≠ [] ∧ n ≠ Files.selfName)
    below.foldl join (w.userHome.getD [])
  else directory

theorem expand_of_not_isPersonal (w : World) {directory : Bytes}
    (h : isPersonal directory = false) : expand w directory = directory := by
  simp [expand, h]

/-- Whether a path has more than one part. Repeated slashes, a slash at the end, and a `.` anywhere
but in front are no parts; a slash in front is one. -/
def hasSeveralParts (path : Bytes) : Bool :=
  let all := Files.names path
  let inner := all.filter (fun n => n ≠ [] ∧ n ≠ Files.selfName)
  let front := path.head? = some Files.slash ∨ all.head? = some Files.selfName
  1 < inner.length + (if front then 1 else 0)

/-- The location of the executable file that a path names. -/
def executable? (w : World) (path : Bytes) : Option Files.Location :=
  if path.contains 0 then none
  else
    match w.find path with
    | .ok (.file place f) => if f.isExecutable then some place else none
    | _ => none

/-- Whether a path is still short enough when it starts at the root. -/
def fitsAbsolute (w : World) (path : Bytes) : Bool :=
  (w.absolute path).length < Files.pathBound

/-- The paths at which an executable may be. -/
def candidates (w : World) (name : Bytes) : Except LookupError (List Bytes) :=
  if hasSeveralParts name then .ok ([name].filter (fitsAbsolute w))
  else
    match w.searchPath with
    | none => .error .noSearchPath
    | some searchPath =>
      .ok ((directories searchPath).map fun directory => join (expand w directory) name)

/-- The location of the executable with a name. -/
def lookup (w : World) (name : Bytes) : Except LookupError Files.Location :=
  match candidates w name with
  | .error e => .error e
  | .ok paths =>
    match paths.findSome? (executable? w) with
    | some place => .ok place
    | none => .error .notFound

end SierraFootprint.Tool
