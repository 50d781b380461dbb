import SierraFootprint.Text.Utf8

/-!
# Text without escape sequences

A terminal acts upon control characters and escape sequences and does not show them. Where a text
goes elsewhere they are taken out, the sequences as a whole. Tabs and line ends stay.
-/
namespace SierraFootprint.Text

/-- The character that opens an escape sequence. -/
def escape : Char := '\x1b'

/-- Ends whatever sequence is open. -/
def isCancel (c : Char) : Bool :=
  c = '\x18' || c = '\x1a'

/-- The control characters that lay out a text. -/
def isLayout (c : Char) : Bool :=
  c = '\t' || c = '\n' || c = '\x0c' || c = '\r'

/-- Whether a character shows outside of sequences. -/
def isShown (c : Char) : Bool :=
  isLayout c || (0x20 ≤ c.toNat && c.toNat != 0x7F)

/-- A punctuation mark that may stand before the last character of a sequence. -/
def isIntermediate (c : Char) : Bool :=
  0x20 ≤ c.toNat && c.toNat ≤ 0x2F

/-- A character that may end a sequence. -/
def isFinal (c : Char) : Bool :=
  0x30 ≤ c.toNat && c.toNat ≤ 0x7E

/-- A character that ends a list of parameters, which digits and `:` to `?` belong to. -/
def isCommand (c : Char) : Bool :=
  0x40 ≤ c.toNat && c.toNat ≤ 0x7E

/-- The byte that ends a string for the terminal, wherever it occurs in a character. -/
def stringEnd : UInt8 := 0x9C

/-- How far an escape sequence has been read. -/
inductive Sequence
  /-- No sequence is open. -/
  | closed
  | opened
  /-- An intermediate came directly after the escape character. -/
  | designating
  /-- A control sequence, which starts with `[`. -/
  | control
  /-- A command for the operating system, which starts with `]` and may end with a bell. -/
  | system
  /-- A device control string, which starts with `P`. -/
  | device
  /-- The same with parameters. -/
  | deviceParameters
  /-- The same with an intermediate. -/
  | deviceIntermediate
  /-- A string for the terminal. -/
  | string
  deriving DecidableEq, Repr

namespace Sequence

/-- The sequence that a character after the escape character stands for. -/
def ofOpened (c : Char) : Sequence :=
  if c = '[' then control
  else if c = ']' then system
  else if c = 'P' then device
  else if c = 'X' || c = '^' || c = '_' then string
  else if isIntermediate c then designating
  else if isFinal c then closed
  else opened

/-- The sequence after one more character. -/
def next (s : Sequence) (c : Char) : Sequence :=
  if c = escape then opened
  else if isCancel c then closed
  else
    match s with
    | closed => closed
    | opened => ofOpened c
    | designating => if isFinal c then closed else designating
    | control => if isCommand c then closed else control
    | system => if c = '\x07' then closed else system
    | device =>
      if isIntermediate c then deviceIntermediate
      else if isCommand c then string
      else if isFinal c then deviceParameters
      else device
    | deviceParameters =>
      if isIntermediate c then deviceIntermediate
      else if '<' ≤ c && isFinal c then string
      else deviceParameters
    | deviceIntermediate => if isFinal c then string else deviceIntermediate
    | string => if (String.utf8EncodeChar c).contains stringEnd then closed else string

/-- Whether a character of an open sequence shows all the same. -/
def lets (s : Sequence) (c : Char) : Bool :=
  match s with
  | closed => isShown c
  | opened | designating | control => isLayout c
  | _ => false

end Sequence

/-- What has been read of a text. -/
structure Plain where
  sequence : Sequence
  /-- A layout character came within the sequence. What follows shows up to the next control
  character, with which the sequence goes on. -/
  interrupted : Bool
  /-- The characters that show, latest first. -/
  shown : List Char
  deriving DecidableEq, Repr

namespace Plain

/-- Nothing has been read. -/
def start : Plain := ⟨.closed, false, []⟩

/-- What one more character does. -/
def add (p : Plain) (c : Char) : Plain :=
  if p.interrupted && isShown c then
    if c.toNat < 0x80 then { p with shown := c :: p.shown } else ⟨.closed, false, c :: p.shown⟩
  else if p.sequence.lets c then
    ⟨p.sequence, p.sequence != .closed, c :: p.shown⟩
  else ⟨p.sequence.next c, false, p.shown⟩

end Plain

/-- The characters of a text that show, without control characters and escape sequences. -/
def plain (text : List Char) : List Char :=
  (text.foldl Plain.add .start).shown.reverse

end SierraFootprint.Text
