import SierraFootprint.CommandLine.Usage
import SierraFootprint.Report
import SierraFootprint.Text.Escapes

/-!
# Running the command

The command makes a report, prints its help, or complains about its arguments. A complaint gives the
reason, sometimes a tip, and what a command may look like. Arguments are quoted in it as they are, so
what could act upon a terminal is taken out of the whole.
-/
namespace SierraFootprint.CommandLine

/-! ### Complaints about arguments -/

/-- Some parts with one more, unless it is one of them. -/
def withPart (parts : List Part) (part : Part) : List Part :=
  if part ∈ parts then parts else parts ++ [part]

/-- A text that a terminal shows with emphasis. -/
def emphasised (text : String) : String :=
  "\x1b[1m" ++ text ++ Colour.ends

/-- A message in its parts. -/
structure Complaint where
  reason : String
  tip : Option String
  usage : Option Usage
  deriving DecidableEq, Repr

/-- The message for a terminal. -/
def Complaint.styled (c : Complaint) : String :=
  emphasised "error:" ++ " " ++ c.reason ++ "\n\n" ++
    (c.tip.map fun tip => "  " ++ emphasised "tip:" ++ " " ++ tip ++ "\n\n").getD "" ++
    (c.usage.map fun usage => emphasised "Usage:" ++ " " ++ usage.text ++ "\n\n").getD "" ++
    "For more information, try '" ++ emphasised "--help" ++ "'.\n"

/-- The message without emphasis, and without what else would act upon a terminal. -/
def Complaint.text (c : Complaint) : String :=
  String.ofList (Text.plain c.styled.toList)

/-- A text between quotation marks. -/
def inQuotes (text : String) : String :=
  "'" ++ emphasised text ++ "'"

/-- An argument that is not expected. -/
def unexpectedReason (shown : String) : String :=
  "unexpected argument " ++ inQuotes shown ++ " found"

/-- How to pass an argument that looks like an option. -/
def escapeTip (shown : String) : String :=
  "to pass " ++ inQuotes shown ++ " as a value, use " ++ inQuotes ("-- " ++ shown)

def valueNeeded (shown : String) : String :=
  "a value is required for " ++ inQuotes shown ++ " but none was supplied"

/-- What is said about an unknown long name. If it is like a known one, that one is taken to be a
part of the command. -/
def unknownLongComplaint (name : Bytes) (used : List Part) : Complaint :=
  let shown := "--" ++ name.display
  match mostSimilar? (Utf8.lossy name) with
  | some k =>
    { reason := unexpectedReason shown
      tip := some ("a similar argument exists: " ++ inQuotes ("--" ++ k.name))
      usage := some (.including (withPart used k.part)) }
  | none =>
    { reason := unexpectedReason shown
      tip := some (escapeTip shown)
      usage := some (.including used) }

namespace UsageError

def complaint : UsageError → Complaint
  | invalidMode value e =>
    { reason := "invalid value " ++ inQuotes value ++ " for " ++
        inQuotes Setting.stripMode.shown ++ ": " ++ e.message
      tip := none
      usage := none }
  | missingValue o => { reason := valueNeeded o.shown, tip := none, usage := none }
  | emptyPath => { reason := valueNeeded "[PATH]", tip := none, usage := none }
  | repeated o =>
    { reason := "the argument " ++ inQuotes o.shown ++ " cannot be used multiple times"
      tip := none
      usage := some .general }
  | extraPath path =>
    { reason := unexpectedReason path.display, tip := none, usage := some .general }
  | unknownLong name used => unknownLongComplaint name used
  | unknownShort shown =>
    { reason := unexpectedReason shown, tip := some (escapeTip shown), usage := some .general }
  | helpValue value used =>
    { reason := "unexpected value " ++ inQuotes value.display ++ " for " ++
        inQuotes ("--" ++ helpName) ++ " found; no more were expected"
      tip := none
      usage := some (if used = [] then .including [.help] else .helpInstead) }
  | notUtf8 =>
    { reason := "invalid UTF-8 was detected in one or more arguments"
      tip := none
      usage := some .general }

def message (e : UsageError) : String :=
  e.complaint.text

end UsageError

/-! ### Answers -/

/-- What a run of the command leaves behind. -/
structure Run where
  code : Nat
  stdout : String
  stderr : String
  calls : List (List Bytes)
  world : World

/-- Colours are printed only where the setting for it is a text other than `0`. -/
def wantsColours : Option Bytes → Bool
  | some value => (Utf8.decode? value).isSome && value != Bytes.ofString "0"
  | none => false

/-- The executable that is to count the felts. -/
def Choices.tool (c : Choices) : Jq :=
  (c.jq.map Jq.ofExecutable).getD .default

/-- The report that some choices ask for. -/
def Choices.report (c : Choices) : Report :=
  { path := c.path.getD (Bytes.ofString defaultPath)
    mode := c.mode.getD .default
    query := c.tool.query }

/-- Answers the arguments of the command. A report that was made is a success whatever could be
measured. -/
def run (forceColours : Option Bytes) (arguments : List Bytes) (w : World) : Run :=
  match read arguments with
  | .error e => ⟨2, "", e.message, [], w⟩
  | .ok .help => ⟨0, helpText, "", [], w⟩
  | .ok (.report choices) =>
    let outcome := choices.report.run (wantsColours forceColours) w
    ⟨0, outcome.printed, "", outcome.calls, outcome.world⟩

end SierraFootprint.CommandLine
