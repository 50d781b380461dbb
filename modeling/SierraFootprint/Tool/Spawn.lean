import SierraFootprint.Tool.Lookup

/-!
# Starting a program by name

A name with a slash is started as it stands. Any other name is tried in the directories of the
search path: where there is nothing to start the search goes on, and a file that is in no known
format ends it. What a program is given is limited in size.
-/
namespace SierraFootprint.Tool

/-- A program that was started, where it lies, and what it leaves behind. -/
structure Started where
  place : Files.Location
  output : Files.Output
  deriving DecidableEq, Repr

/-- The longest string that a program can be given, in bytes. -/
def stringLimit : Nat := 131071

/-- The most bytes that all strings given to a program may take. -/
def totalLimit : Nat := 2097152

/-- Whether a program can be given some strings. Each takes a reference of eight bytes and a byte at
its end besides its own. -/
def areGivable (strings : List Bytes) : Bool :=
  strings.all (·.length ≤ stringLimit) &&
    strings.foldl (fun total s => total + s.length + 9) 0 ≤ totalLimit

/-- The search path as it is given to a program. -/
def setting (w : World) : List Bytes :=
  w.searchPath.toList.map (Bytes.ofString "PATH=" ++ ·)

/-- Starts the file that a path names with some strings. -/
def execute (w : World) (strings : List Bytes) (path : Bytes) : Except OsError Started :=
  match w.find path with
  | .error e => .error e
  | .ok (.directory _) => .error .permissionDenied
  | .ok (.file place f) =>
    if f.isExecutable && !areGivable strings then .error .argumentsTooLong
    else
      match f.launch with
      | .notExecutable => .error .permissionDenied
      | .unknownFormat => .error .execFormat
      | .noInterpreter => .error .noSuchFile
      | .program output => .ok ⟨place, output⟩

/-- Whether the search goes on after an error. -/
def isSkipped : OsError → Bool
  | .noSuchFile | .notDirectory | .permissionDenied => true
  | _ => false

/-- The error after another directory was skipped: a missing permission outlasts the others, of
which the last one counts. -/
def skippedError (sofar latest : OsError) : OsError :=
  if sofar = .permissionDenied then sofar else latest

/-- Starts the first of some paths that can be started. `sofar` is the error if there is none. -/
def executeFirst (w : World) (strings : List Bytes) (sofar : OsError) :
    List Bytes → Except OsError Started
  | [] => .error sofar
  | path :: rest =>
    match execute w strings path with
    | .ok started => .ok started
    | .error e =>
      if isSkipped e then executeFirst w strings (skippedError sofar e) rest else .error e

/-- The longest directory of the search path in which a program is tried, in bytes. -/
def directoryLimit : Nat := 4095

/-- The path at which a program is tried in a directory. The working directory takes the place of
one that is too long. -/
def attempt (name directory : Bytes) : Bytes :=
  if directory = [] ∨ directoryLimit < directory.length then name
  else directory ++ Files.slash :: name

/-- The directories in which a program is tried. The search ends before a last one that is too
long. -/
def tried (directories : List Bytes) : List Bytes :=
  if directories.getLast?.any (directoryLimit < ·.length) then directories.dropLast
  else directories

/-- The paths at which a program is tried. -/
def attempts (w : World) (name : Bytes) : List Bytes :=
  if name.contains Files.slash then [name]
  else
    match w.searchPath with
    | none => []
    | some searchPath => (tried (directories searchPath)).map (attempt name)

/-- Starts a program with some arguments. -/
def spawn (w : World) (name : Bytes) (arguments : List Bytes) : Except SystemError Started :=
  if name.contains 0 ∨ arguments.any (·.contains 0) then .error .nulInArgument
  else
    match executeFirst w (name :: arguments ++ setting w) .noSuchFile (attempts w name) with
    | .ok started => .ok started
    | .error e => .error (.os e)

end SierraFootprint.Tool
