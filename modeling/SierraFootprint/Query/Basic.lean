import SierraFootprint.Text.Quoted
import SierraFootprint.Tool.Spawn

/-!
# Asking for a felt count

A query counts the felts of an artifact without decoding it here. The usual one runs `jq` with a
filter and reads the number it prints, and an error says how far that went.
-/
namespace SierraFootprint

/-! ### Errors -/

/-- What went wrong with a query. -/
inductive QueryProblem
  | executableNotFound (e : Tool.LookupError)
  | spawning (e : SystemError)
  /-- The program ran and did not succeed. -/
  | failure (ending : Ending) (stderr : List Char)
  /-- The program succeeded and did not print a count. -/
  | outputParsing (output : List Char) (e : Decimal.CountError)
  deriving DecidableEq, Repr

/-- A problem with a query that was to be answered by an executable. -/
structure QueryError where
  executable : Bytes
  problem : QueryProblem
  deriving DecidableEq, Repr

namespace QueryError

def message (e : QueryError) : String :=
  let executable := "`" ++ e.executable.display ++ "`"
  match e.problem with
  | .executableNotFound e =>
    "The " ++ executable ++ " executable not found in $\x7bPATH\x7d: " ++ e.message
  | .spawning e => executable ++ " subprocess error: " ++ e.message
  | .failure ending stderr =>
    "Running " ++ executable ++ " failed (" ++ ending.text ++ "): " ++
      String.ofList (Text.trim stderr)
  | .outputParsing output e =>
    "Unable to parse " ++ executable ++ " output " ++ String.ofList (Text.quote output) ++
      " as an integer: " ++ e.message

/-- An error is unexpected when the executable never ran. -/
def isUnexpected (e : QueryError) : Bool :=
  match e.problem with
  | .executableNotFound _ | .spawning _ => true
  | .failure _ _ | .outputParsing _ _ => false

end QueryError

/-! ### Queries -/

/-- What comes of a query: the count or an error, the arguments of each program that was run, and
the world as the query leaves it. -/
structure Answer where
  count : Except QueryError Nat
  calls : List (List Bytes)
  world : World

/-- A way to count the felts of the artifact at a path. -/
structure Query where
  ask : World → Bytes → Answer

/-- A query that always answers the same, and notes the path it was asked about. -/
def Query.fixed (count : Except QueryError Nat) : Query :=
  ⟨fun w path => ⟨count, [[path]], w⟩⟩

/-- An executable that processes JSON, and the arguments it gets before all others. -/
structure Jq where
  executable : Bytes
  arguments : List Bytes
  deriving DecidableEq, Repr

namespace Jq

/-- The executable used where none is asked for. -/
def defaultExecutable : String := "jq"

/-- The filter that yields the number of felts. -/
def filter : String := ".sierra_program | length"

/-- An executable without arguments of its own. -/
def ofExecutable (executable : Bytes) : Jq := ⟨executable, []⟩

def default : Jq := ofExecutable (Bytes.ofString defaultExecutable)

instance : Inhabited Jq := ⟨default⟩

/-- The arguments for counting the felts of the artifact at a path. -/
def callArguments (jq : Jq) (path : Bytes) : List Bytes :=
  jq.arguments ++ [Bytes.ofString filter, path]

/-- Reads the count from what the executable printed. Blanks around it do not matter. -/
def readOutput (jq : Jq) (stdout : List Char) : Except QueryError Nat :=
  let output := Text.trim stdout
  match Decimal.readCount output with
  | .ok n => .ok n
  | .error e => .error ⟨jq.executable, .outputParsing output e⟩

/-- The result of a run that left an output behind. -/
def result (jq : Jq) (output : Files.Output) : Except QueryError Nat :=
  if output.ending.isSuccess then jq.readOutput (Utf8.lossy output.stdout)
  else .error ⟨jq.executable, .failure output.ending (Utf8.lossy output.stderr)⟩

/-- Finds the executable, starts it, and reads what it printed. -/
def ask (jq : Jq) (w : World) (path : Bytes) : Answer :=
  match Tool.lookup w jq.executable with
  | .error e => ⟨.error ⟨jq.executable, .executableNotFound e⟩, [], w⟩
  | .ok _ =>
    match Tool.spawn w jq.executable (jq.callArguments path) with
    | .error e => ⟨.error ⟨jq.executable, .spawning e⟩, [], w⟩
    | .ok started => ⟨jq.result started.output, [jq.callArguments path], w⟩

/-- The query that an executable answers. -/
def query (jq : Jq) : Query := ⟨jq.ask⟩

end Jq

end SierraFootprint
