import SierraFootprint.Program.Basic
import SierraFootprint.Query.Basic

/-!
# The arguments of the command

The command takes a path and two options with a value, in any order. Arguments are handled from the
left, and the first that cannot be accepted decides what is reported. A path, or the value of an
option in an argument of its own, is only looked at when the next part of the command begins; an
argument that has no place in the command is reported before that.
-/
namespace SierraFootprint.CommandLine

/-- The options that take a value. -/
inductive Setting
  | jq
  | stripMode
  deriving DecidableEq, Repr

/-- The parts of a command. -/
inductive Part
  | path
  | setting (o : Setting)
  | help
  deriving DecidableEq, Repr

/-- Why the arguments are not accepted. -/
inductive UsageError
  | invalidMode (value : String) (e : StripMode.Unknown)
  | missingValue (o : Setting)
  | emptyPath
  | repeated (o : Setting)
  | extraPath (path : Bytes)
  /-- An argument with two dashes and an unknown name, after some parts of a command. -/
  | unknownLong (name : Bytes) (used : List Part)
  /-- An argument with one dash and an unknown first letter. -/
  | unknownShort (shown : String)
  /-- The flag for help with a value, after some parts of a command. -/
  | helpValue (value : Bytes) (used : List Part)
  | notUtf8
  deriving DecidableEq, Repr

/-- What the arguments choose. -/
structure Choices where
  path : Option Bytes
  jq : Option Bytes
  mode : Option StripMode
  deriving DecidableEq, Repr

/-- What the arguments ask for. -/
inductive Request
  | help
  | report (choices : Choices)
  deriving DecidableEq, Repr

namespace Choices

def none : Choices := ⟨.none, .none, .none⟩

def has (c : Choices) : Setting → Bool
  | .jq => c.jq.isSome
  | .stripMode => c.mode.isSome

/-- The mode that an argument names. -/
def readMode (value : Bytes) : Except UsageError StripMode :=
  match Utf8.decode? value with
  | .none => .error .notUtf8
  | some text =>
    match StripMode.ofName (String.ofList text) with
    | .ok mode => .ok mode
    | .error e => .error (.invalidMode (String.ofList text) e)

/-- Gives an option its value. It can be given only once. -/
def set (c : Choices) (o : Setting) (value : Bytes) : Except UsageError Choices :=
  if c.has o then .error (.repeated o)
  else
    match o with
    | .jq =>
      if value = [] then .error (.missingValue .jq) else .ok { c with jq := some value }
    | .stripMode =>
      match readMode value with
      | .ok mode => .ok { c with mode := some mode }
      | .error e => .error e

/-- Takes an argument as the path. -/
def setPath (c : Choices) (value : Bytes) : Except UsageError Choices :=
  if value = [] then .error .emptyPath else .ok { c with path := some value }

end Choices

/-- The byte that options start with. -/
def dash : UInt8 := 0x2D

/-- The byte between the name and the value of an option in one argument. -/
def equals : UInt8 := 0x3D

/-- The name of an option, without its dashes. -/
def Setting.name : Setting → String
  | jq => "jq"
  | stripMode => "strip-mode"

/-- The name of the flag that asks for help. -/
def helpName : String := "help"

/-- The part before the first `=`, and the part after it if there is one. -/
def splitValue (body : Bytes) : Bytes × Option Bytes :=
  match body.dropWhile (· ≠ equals) with
  | [] => (body, .none)
  | _ :: value => (body.takeWhile (· ≠ equals), some value)

/-- An argument by its form. -/
inductive Argument
  /-- Two dashes alone: all that follows are paths. -/
  | onlyPaths
  | setting (o : Setting) (value : Option Bytes)
  | help
  | helpWith (value : Bytes)
  | unknownLong (name : Bytes)
  | unknownShort (shown : String)
  /-- A value or a path. -/
  | plain
  deriving DecidableEq, Repr

/-- An argument after two dashes. -/
def Argument.ofLong (body : Bytes) : Argument :=
  let (name, value) := splitValue body
  if name = Bytes.ofString Setting.jq.name then setting .jq value
  else if name = Bytes.ofString Setting.stripMode.name then setting .stripMode value
  else if name = Bytes.ofString helpName then
    match value with
    | .none => help
    | some value => helpWith value
  else unknownLong name

/-- An argument after one dash. Only its first letter counts, unless it is no character at all. -/
def Argument.ofShort (body : Bytes) : Argument :=
  match (Utf8.scan body).head? with
  | some (some c) => if c = 'h' then help else unknownShort (String.ofList ['-', c])
  | _ => unknownShort ("-" ++ body.display)

def Argument.ofBytes : Bytes → Argument
  | [] => plain
  | first :: rest =>
    if first ≠ dash then plain
    else
      match rest with
      | [] => plain
      | second :: body =>
        if second ≠ dash then ofShort rest
        else if body = [] then onlyPaths
        else ofLong body

/-- A part of the command whose value has not been looked at. -/
inductive Pending
  | path (value : Bytes)
  | setting (o : Setting) (value : Option Bytes)
  deriving DecidableEq, Repr

/-- How far the arguments have been read. -/
structure Progress where
  choices : Choices
  /-- The parts in use, in the order in which they came. -/
  used : List Part
  pending : Option Pending
  deriving DecidableEq, Repr

namespace Progress

def start : Progress := ⟨.none, [], none⟩

/-- The choices with the value of a part. -/
def accept (choices : Choices) : Pending → Except UsageError Choices
  | .path value => choices.setPath value
  | .setting o none => .error (.missingValue o)
  | .setting o (some value) => choices.set o value

/-- The parts in use with one more, whether or not its value can be accepted. An option that is
given again counts as not given at all, and one without a value does not count. -/
def usedWith (used : List Part) : Pending → List Part
  | .path _ => used ++ [.path]
  | .setting _ none => used
  | .setting o (some _) =>
    if .setting o ∈ used then used.erase (.setting o) else used ++ [.setting o]

/-- Looks at the value of a part. -/
def take (p : Progress) (part : Pending) : Except UsageError Progress :=
  match accept p.choices part with
  | .ok choices => .ok ⟨choices, usedWith p.used part, none⟩
  | .error e => .error e

/-- Looks at the value that has not been looked at, if there is one. -/
def settle (p : Progress) : Except UsageError Progress :=
  match p.pending with
  | none => .ok p
  | some part => p.take part

/-- The parts in use with the one that has not been looked at. -/
def allUsed (p : Progress) : List Part :=
  match p.pending with
  | none => p.used
  | some part => usedWith p.used part

/-- The progress with a part to be looked at later. -/
def hold (p : Progress) (part : Pending) : Progress :=
  { p with pending := some part }

/-- Whether there is a path. -/
def hasPath (p : Progress) : Bool :=
  match p.pending with
  | some (.path _) => true
  | _ => p.choices.path.isSome

/-- Takes an argument as the path. There can be only one. -/
def addPath (p : Progress) (value : Bytes) : Except UsageError Progress :=
  if p.hasPath then .error (.extraPath value) else p.settle.map (hold · (.path value))

/-- Takes an argument that starts an option. A value in the same argument is looked at at once. -/
def addSetting (p : Progress) (o : Setting) (value : Option Bytes) :
    Except UsageError Progress :=
  match value with
  | none => p.settle.map (hold · (.setting o none))
  | some _ => p.settle.bind (take · (.setting o value))

/-- Takes an argument that is the value of the option before it, if there is one without a value,
and a path otherwise. -/
def addPlain (p : Progress) (value : Bytes) : Except UsageError Progress :=
  match p.pending with
  | some (.setting o none) => .ok (p.hold (.setting o (some value)))
  | _ => p.addPath value

/-- What the arguments ask for when no more follow. -/
def finish (p : Progress) : Except UsageError Request :=
  p.settle.map fun p => .report p.choices

/-- Handles paths only. -/
def readPaths (p : Progress) : List Bytes → Except UsageError Request
  | [] => p.finish
  | a :: rest => do readPaths (← p.addPath a) rest

/-- Handles the arguments that follow. -/
def read (p : Progress) : List Bytes → Except UsageError Request
  | [] => p.finish
  | a :: rest =>
    match Argument.ofBytes a with
    | .onlyPaths => p.readPaths rest
    | .help => p.settle.map fun _ => .help
    | .helpWith value => .error (.helpValue value p.used)
    | .unknownLong name => .error (.unknownLong name p.allUsed)
    | .unknownShort shown => .error (.unknownShort shown)
    | .setting o value => do read (← p.addSetting o value) rest
    | .plain => do read (← p.addPlain a) rest

end Progress

/-- What the arguments of the command ask for. -/
def read (arguments : List Bytes) : Except UsageError Request :=
  Progress.start.read arguments

end SierraFootprint.CommandLine
