import SierraFootprint.Decimal.FloatText

/-!
# JSON values and faults of a text

A document is a tree of values. Members of an object are kept as they were written, in order and
with repeated keys. A text that is no document has a fault at some place.
-/
namespace SierraFootprint

/-! ### Values -/

/-- A number as the reader keeps it: whole numbers exactly where 64 bits hold them, all others as
doubles. -/
inductive Number
  | whole (n : Nat)
  /-- The number `-n`. -/
  | negative (n : Nat)
  | float (x : Float)

inductive Json
  | null
  | bool (b : Bool)
  | number (n : Number)
  | string (s : String)
  | array (elements : List Json)
  | object (members : List (String × Json))

namespace Json

instance : Inhabited Json := ⟨null⟩

/-- The text of a string value. -/
def text? : Json → Option String
  | string s => some s
  | _ => none

/-- The value of the last member with a key. -/
def lastMember? (key : String) (members : List (String × Json)) : Option Json :=
  members.foldl (fun found member => if member.1 = key then some member.2 else found) none

/-- The value of the last member with a key, if the value is an object that has one. -/
def member? (key : String) : Json → Option Json
  | object members => lastMember? key members
  | _ => none

end Json

/-! ### Faults and their places -/

/-- A place in a text: the line, counted from one, and the bytes of that line before the place. -/
structure Position where
  line : Nat
  column : Nat
  deriving DecidableEq, Repr

namespace Position

/-- The start of a text. -/
def start : Position := ⟨1, 0⟩

/-- The place after a character. -/
def after (p : Position) (c : Char) : Position :=
  if c = '\n' then ⟨p.line + 1, 0⟩ else ⟨p.line, p.column + c.utf8Size⟩

/-- The place after some of the bytes of a character. -/
def into (p : Position) (c : Char) : Nat → Position
  | 0 => p
  | bytes + 1 => if c = '\n' then ⟨p.line + 1, 0⟩ else ⟨p.line, p.column + (bytes + 1)⟩

/-- The place after a text. -/
def afterText (p : Position) (text : List Char) : Position :=
  text.foldl after p

end Position

namespace Json

/-- What is wrong with a text that is not JSON. -/
inductive Cause
  | endInValue
  | endInList
  | endInObject
  | endInString
  | expectedWord
  | expectedValue
  | expectedListEnd
  | expectedObjectEnd
  | expectedColon
  | keyNotString
  | trailingComma
  | trailingCharacters
  | tooDeep
  | controlCharacter
  | invalidEscape
  | loneSurrogate
  | unpairedSurrogate
  | invalidNumber
  | numberOutOfRange
  deriving DecidableEq, Repr

def Cause.message : Cause → String
  | endInValue => "EOF while parsing a value"
  | endInList => "EOF while parsing a list"
  | endInObject => "EOF while parsing an object"
  | endInString => "EOF while parsing a string"
  | expectedWord => "expected ident"
  | expectedValue => "expected value"
  | expectedListEnd => "expected `,` or `]`"
  | expectedObjectEnd => "expected `,` or `\x7d`"
  | expectedColon => "expected `:`"
  | keyNotString => "key must be a string"
  | trailingComma => "trailing comma"
  | trailingCharacters => "trailing characters"
  | tooDeep => "recursion limit exceeded"
  | controlCharacter => "control character (\\u0000-\\u001F) found while parsing a string"
  | invalidEscape => "invalid escape"
  | loneSurrogate => "lone leading surrogate in hex escape"
  | unpairedSurrogate => "unexpected end of hex escape"
  | invalidNumber => "invalid number"
  | numberOutOfRange => "number out of range"

/-- A fault and the place up to which the text had been looked at. -/
structure Fault where
  cause : Cause
  position : Position
  deriving DecidableEq, Repr

def Fault.message (fault : Fault) : String :=
  fault.cause.message ++ " at line " ++ Decimal.numeral fault.position.line ++
    " column " ++ Decimal.numeral fault.position.column

end Json

end SierraFootprint
