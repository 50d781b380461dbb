import SierraFootprint.Json.Reader
import SierraFootprint.Program.Basic
import SierraFootprint.SystemError
import SierraFootprint.Text.Quoted
import SierraFootprint.Text.Utf8

/-!
# Contract class artifacts

An artifact is a JSON object whose last member `sierra_program` is a list of strings, the felts of
the program. The other members are not looked at, but the whole text has to be JSON.
-/
namespace SierraFootprint

/-! ### Errors -/

/-- A JSON value of another kind than is wanted. -/
structure TypeMismatch where
  found : Json
  expected : String

namespace TypeMismatch

def numberText : Number → String
  | .whole n => "integer `" ++ Decimal.numeral n ++ "`"
  | .negative n => "integer `-" ++ Decimal.numeral n ++ "`"
  | .float x => "floating point `" ++ Decimal.floatText x ++ "`"

/-- The kind of a value, and the value itself where it is short. -/
def foundText : Json → String
  | .null => "null"
  | .bool b => "boolean `" ++ (if b then "true" else "false") ++ "`"
  | .number n => numberText n
  | .string s => "string " ++ Text.quoted s
  | .array _ => "sequence"
  | .object _ => "map"

def message (e : TypeMismatch) : String :=
  "invalid type: " ++ foundText e.found ++ ", expected " ++ e.expected

end TypeMismatch

/-- Why a JSON text or value does not decode. -/
inductive DecodingError
  | malformed (fault : Json.Fault)
  | mismatch (e : TypeMismatch)

def DecodingError.message : DecodingError → String
  | malformed fault => fault.message
  | mismatch e => e.message

/-- The member of an artifact that holds the program. -/
def programKey : String := "sierra_program"

/-- What is wrong with an artifact. -/
inductive ArtifactProblem
  | notFound
  | reading (e : SystemError)
  | notJson (e : DecodingError)
  | noProgram
  | invalidProgram (e : DecodingError)

/-- A problem with the artifact at a path. -/
structure ArtifactError where
  path : Bytes
  problem : ArtifactProblem

namespace ArtifactError

def message (e : ArtifactError) : String :=
  let path := "'" ++ e.path.display ++ "'"
  match e.problem with
  | .notFound => "File " ++ path ++ " not found"
  | .reading e => "Reading file " ++ path ++ ": " ++ e.message
  | .notJson e => "File " ++ path ++ " is not valid JSON: " ++ e.message
  | .noProgram => "No '" ++ programKey ++ "' found in JSON file " ++ path
  | .invalidProgram e =>
    "Invalid '" ++ programKey ++ "' in JSON file " ++ path ++ ": " ++ e.message

/-- A missing file, text that is not JSON and a missing program are what a user may well run into;
anything else is unexpected. -/
def isUnexpected (e : ArtifactError) : Bool :=
  match e.problem with
  | .reading _ | .invalidProgram _ => true
  | .notFound | .notJson _ | .noProgram => false

end ArtifactError

/-! ### Reading -/

/-- A contract class, of which only the program is kept. -/
structure Artifact where
  program : Program
  deriving DecidableEq, Repr

/-- The program that a list of strings stands for, or the first value that does not fit. -/
def Program.ofJson : Json → Except TypeMismatch Program
  | .array elements =>
    match elements.find? (fun v => v.text?.isNone) with
    | some v => .error ⟨v, "a string"⟩
    | none => .ok ⟨elements.filterMap Json.text?⟩
  | v => .error ⟨v, "a sequence"⟩

namespace Artifact

/-- The artifact a document describes. -/
def ofJson (document : Json) : Except ArtifactProblem Artifact :=
  match document.member? programKey with
  | none => .error .noProgram
  | some v =>
    match Program.ofJson v with
    | .ok program => .ok ⟨program⟩
    | .error e => .error (.invalidProgram (.mismatch e))

/-- The artifact a text describes. -/
def ofText (text : List Char) : Except ArtifactProblem Artifact :=
  match Json.ofText text with
  | .ok document => ofJson document
  | .error fault => .error (.notJson (.malformed fault))

/-- The artifact in the bytes of a file. -/
def ofBytes (content : Bytes) : Except ArtifactProblem Artifact :=
  match Utf8.decode? content with
  | some text => ofText text
  | none => .error (.reading .notUtf8)

/-- The artifact that was found where a file was to be read. Only a missing file has a problem of
its own. -/
def ofRead : Except SystemError Bytes → Except ArtifactProblem Artifact
  | .ok content => ofBytes content
  | .error (.os .noSuchFile) => .error .notFound
  | .error e => .error (.reading e)

/-- A result for the artifact at a path. -/
def located (path : Bytes) : Except ArtifactProblem Artifact → Except ArtifactError Artifact
  | .ok artifact => .ok artifact
  | .error problem => .error ⟨path, problem⟩

end Artifact

end SierraFootprint
