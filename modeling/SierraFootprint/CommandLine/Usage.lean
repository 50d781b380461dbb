import SierraFootprint.CommandLine.Arguments

/-!
# How to use the command

The help, the line that shows what a command may look like, and the option that an unknown name was
meant for. Two words are the more alike the more characters they share: characters agree when they
are equal and not too far apart, and agreeing characters that come in another order count less.
-/
namespace SierraFootprint.CommandLine

/-- The path used where none is given. -/
def defaultPath : String := "target/dev/contract.contract_class.json"

/-- An option with the name of its value. -/
def Setting.shown : Setting → String
  | jq => "--jq <JQ>"
  | stripMode => "--strip-mode <STRIP_MODE>"

/-- The name of the command. -/
def commandName : String := "sierra-size"

/-- What a command may look like. -/
inductive Usage
  /-- Any command. -/
  | general
  /-- Commands with some parts. -/
  | including (parts : List Part)
  /-- A request for help in place of anything else. -/
  | helpInstead
  deriving DecidableEq, Repr

/-- A part other than the path, as it is shown in a command. -/
def Part.option? : Part → Option String
  | path => none
  | setting o => some o.shown
  | help => some ("--" ++ helpName)

/-- The options come in their order, the path comes last. -/
def Usage.text : Usage → String
  | including (part :: parts) =>
    let path := if Part.path ∈ part :: parts then "<PATH>" else "[PATH]"
    " ".intercalate (commandName :: (part :: parts).filterMap Part.option? ++ [path])
  | general | including [] => commandName ++ " [OPTIONS] [PATH]"
  | helpInstead =>
    commandName ++ " --" ++ helpName ++ " <PATH|" ++ Setting.jq.shown ++ "|" ++
      Setting.stripMode.shown ++ ">"

def helpText : String :=
  "Sierra program bytecode size reporter for Starknet contract classes\n\n" ++
  "Usage: " ++ Usage.general.text ++ "\n\n" ++
  "Arguments:\n" ++
  "  [PATH]  The contract class JSON file emitted by the Cairo compiler [default: " ++
    defaultPath ++ "]\n\n" ++
  "Options:\n" ++
  "      --jq <JQ>                  " ++
    "Path to the `jq` executable used to cross-check the felt count. Is set to `jq` by default\n" ++
  "      --strip-mode <STRIP_MODE>  " ++
    "The felt hex prefix stripping mode: `global` (default) or `prefix` [default: global]\n" ++
  "  -h, --help                     Print help\n"

/-! ### How alike two words are -/

/-- Characters of one word that agree with characters of another. -/
structure Agreement where
  /-- The agreeing characters of the first word, latest first. -/
  found : List Char
  /-- Their places in the second word. -/
  places : List Nat

/-- The first place of the second word that agrees with a character at a place of the first one and
is still free. -/
def agreeingPlace? (b : List Char) (reach : Nat) (taken : List Nat) (place : Nat) (c : Char) :
    Option Nat :=
  (List.range b.length).find? fun j =>
    place ≤ j + reach && j ≤ place + reach && b[j]? == some c && !taken.contains j

/-- Pairs the characters of the first word, from the left. -/
def agreement (a b : List Char) (reach : Nat) : Agreement :=
  a.zipIdx.foldl (fun sofar (c, place) =>
    match agreeingPlace? b reach sofar.places place c with
    | some j => ⟨c :: sofar.found, j :: sofar.places⟩
    | none => sofar) ⟨[], []⟩

/-- The pairs that are out of order, two of which make one transposition. -/
def outOfOrder (b : List Char) (x : Agreement) : Nat :=
  let inSecond := (b.zipIdx.filter fun (_, j) => x.places.contains j).map Prod.fst
  (x.found.reverse.zip inSecond).countP fun (c, d) => c != d

/-- One for equal words, zero for words without a common character. -/
def similarity (a b : List Char) : Float :=
  if a.isEmpty && b.isEmpty then 1
  else
    let x := agreement a b (max a.length b.length / 2 - 1)
    let agreeing := x.found.length
    if agreeing = 0 then 0
    else
      let inOrder := agreeing - outOfOrder b x / 2
      (agreeing.toFloat / a.length.toFloat + agreeing.toFloat / b.length.toFloat
        + inOrder.toFloat / agreeing.toFloat) / 3

/-- A long name, with the part of a command it begins. -/
structure Known where
  name : String
  part : Part
  deriving DecidableEq, Repr

/-- The long names there are, in the order in which equally good ones are passed over. -/
def known : List Known :=
  [⟨Setting.jq.name, .setting .jq⟩, ⟨Setting.stripMode.name, .setting .stripMode⟩,
   ⟨helpName, .help⟩]

/-- Names are alike when their similarity is above this. -/
def similarityBound : Float := 0.7

/-- The known name that is most like a text, if one is alike at all. -/
def mostSimilar? (text : List Char) : Option Known :=
  let best := known.foldl (fun (best : Option (Known × Float)) k =>
    let s := similarity text k.name.toList
    if similarityBound < s && (best.all fun b => b.2 ≤ s) then some (k, s) else best) none
  best.map Prod.fst

end SierraFootprint.CommandLine
