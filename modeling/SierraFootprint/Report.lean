import SierraFootprint.Decimal.Numeral
import SierraFootprint.Query.Basic

/-!
# The report on an artifact

A report gives the size of a program and the count that a query answers. Both measurements are
always made; one that fails is reported with its error and does not affect the other.
-/
namespace SierraFootprint

/-- A bright colour for the labels of a report. -/
inductive Colour
  | green
  | red
  deriving DecidableEq, Repr

namespace Colour

/-- The escape sequence that turns the colour on, in bold. -/
def begins : Colour → String
  | green => "\x1b[1;92m"
  | red => "\x1b[1;91m"

/-- The escape sequence that ends it. -/
def ends : String := "\x1b[0m"

/-- A label, in colour if colours are wanted. -/
def paint (colour : Colour) (wanted : Bool) (label : String) : String :=
  if wanted then colour.begins ++ label ++ ends else label

end Colour

namespace Report

def programLengthLine (n : Nat) : String :=
  "Sierra program length: " ++ Decimal.numeral n ++ "\n"

/-- A number of bytes, in groups of three digits. -/
def sizeText (n : Nat) : String :=
  Decimal.grouped n ++ " bytes"

def sizeLine (colours : Bool) (n : Nat) : String :=
  Colour.green.paint colours "Sierra program bytecode size:" ++ " " ++ sizeText n ++ "\n"

def countLine (colours : Bool) (n : Nat) : String :=
  Colour.green.paint colours "Bytecode length:" ++ " " ++ Decimal.numeral n ++ "\n"

def errorLabel (isUnexpected : Bool) : String :=
  if isUnexpected then "Unexpected error" else "Error"

def errorLine (colours isUnexpected : Bool) (message : String) : String :=
  Colour.red.paint colours (errorLabel isUnexpected) ++ ": " ++ message ++ "\n"

/-- A measurement that may have failed, and what was printed in making it. -/
structure Measured where
  value : Option Nat
  printed : String
  deriving DecidableEq, Repr

/-- The size of the program of an artifact. -/
def measureSize (colours : Bool) (mode : StripMode) :
    Except ArtifactError Artifact → Measured
  | .ok artifact =>
    ⟨some (artifact.program.byteSize mode), programLengthLine artifact.program.length⟩
  | .error e => ⟨none, errorLine colours e.isUnexpected e.message⟩

/-- The count that a query answered. -/
def measureCount (colours : Bool) : Except QueryError Nat → Measured
  | .ok n => ⟨some n, ""⟩
  | .error e => ⟨none, errorLine colours e.isUnexpected e.message⟩

/-- What a measurement prints, with a line for the value if there is one. -/
def Measured.withLine (m : Measured) (line : Nat → String) : String :=
  m.printed ++ (m.value.map line).getD ""

/-- The measurements that succeeded. -/
structure Summary where
  size : Option Nat
  count : Option Nat
  deriving DecidableEq, Repr

/-- Everything that comes of a report. -/
structure Outcome where
  summary : Summary
  printed : String
  calls : List (List Bytes)
  world : World

/-- The report on what was read and what was answered. -/
def compose (colours : Bool) (mode : StripMode) (artifact : Except ArtifactError Artifact)
    (answer : Answer) : Outcome :=
  let size := measureSize colours mode artifact
  let count := measureCount colours answer.count
  { summary := ⟨size.value, count.value⟩
    printed := size.withLine (sizeLine colours) ++ count.withLine (countLine colours)
    calls := answer.calls
    world := answer.world }

end Report

/-- What is to be reported: the artifact at a path, stripped in a mode, with a query for the
count. -/
structure Report where
  path : Bytes
  mode : StripMode
  query : Query

/-- Makes both measurements, the size first. -/
def Report.run (report : Report) (colours : Bool) (w : World) : Report.Outcome :=
  compose colours report.mode (w.artifact report.path) (report.query.ask w report.path)

end SierraFootprint
