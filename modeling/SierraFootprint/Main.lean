import SierraFootprint.CommandLine.Run

/-!
# The command

The size of an artifact is measured on the files of this computer. No other program is started from
here, so the count is reported as one whose executable was not found.
-/
namespace SierraFootprint

/-- The number of an error of the operating system, which may come with either sign. -/
def errorNumber (code : UInt32) : Nat :=
  if code.toNat < Nat.pow 2 31 then code.toNat else Nat.pow 2 32 - code.toNat

/-- The number that an error comes with. -/
def errorCode? : IO.Error → Option UInt32
  | .noFileOrDirectory _ code _ => some code
  | .permissionDenied _ code _ => some code
  | .inappropriateType _ code _ => some code
  | .invalidArgument _ code _ => some code
  | .resourceExhausted _ code _ => some code
  | .otherError code _ => some code
  | _ => none

/-- An error of reading a file. -/
def SystemError.ofError (e : IO.Error) : SystemError :=
  match (errorCode? e).bind fun code => OsError.ofNumber? (errorNumber code) with
  | some known => .os known
  | none => .other (toString e)

/-- The bytes of a file. -/
def readFile (path : Bytes) : IO (Except SystemError Bytes) := do
  if path.contains 0 then return .error .nulInPath
  try
    let content ← IO.FS.readBinFile path.display
    return .ok content.toList
  catch e => return .error (SystemError.ofError e)

/-- The answer to a query for which nothing can be started. -/
def unanswered (jq : Jq) : Answer :=
  ⟨.error ⟨jq.executable, .executableNotFound .notFound⟩, [], ⟨.empty, [], none, none⟩⟩

/-- Makes the report that some choices ask for. -/
def printReport (colours : Bool) (choices : CommandLine.Choices) : IO Unit := do
  let report := choices.report
  let artifact := Artifact.located report.path (Artifact.ofRead (← readFile report.path))
  IO.print (Report.compose colours report.mode artifact (unanswered choices.tool)).printed

end SierraFootprint

open SierraFootprint in
def main (arguments : List String) : IO UInt32 := do
  let forced := (← IO.getEnv "CLICOLOR_FORCE").map Bytes.ofString
  match CommandLine.read (arguments.map Bytes.ofString) with
  | .error e =>
    (← IO.getStderr).putStr e.message
    return 2
  | .ok .help =>
    IO.print CommandLine.helpText
    return 0
  | .ok (.report choices) =>
    printReport (CommandLine.wantsColours forced) choices
    return 0
