import SierraFootprint.Json.Numeral

/-!
# Reading JSON text

The reader takes the text one character at a time. Its state is what it is in the middle of, and the
lists and objects around that. A text is read completely or refused with the first fault in it.
-/
namespace SierraFootprint.Json

/-- White space between tokens. -/
def isBlank (c : Char) : Bool :=
  c == ' ' || c == '\n' || c == '\t' || c == '\r'

/-- A list or object in which a value is being read. What precedes the value comes latest first. -/
inductive Frame
  | element (before : List Json)
  | member (before : List (String × Json)) (key : String)

/-- What becomes of a string when its closing quote is reached. -/
inductive Role
  | value
  | key (before : List (String × Json))

/-- What the reader is in the middle of. Elements, members and characters already read come latest
first. -/
inductive Mode
  /-- A value must come. -/
  | value
  /-- After an opening bracket. -/
  | firstElement
  /-- After a comma in a list. -/
  | nextElement (before : List Json)
  /-- After an element. -/
  | afterElement (before : List Json)
  /-- After an opening brace. -/
  | firstKey
  /-- After a comma in an object. -/
  | nextKey (before : List (String × Json))
  /-- After a key. -/
  | afterKey (before : List (String × Json)) (key : String)
  /-- After the value of a member. -/
  | afterMember (before : List (String × Json))
  /-- Inside a word that stands for a value, with the letters still to come. -/
  | word (rest : List Char) (v : Json)
  | numeral (n : Numeral)
  /-- Inside a string. -/
  | string (role : Role) (before : List Char)
  /-- After a backslash. -/
  | escape (role : Role) (before : List Char)
  /-- Inside the four bytes of a code unit: the first unit of a surrogate pair if this is the second
  one, the value so far unless a byte was no digit, and the bytes still to come. -/
  | unit (role : Role) (before : List Char) (high : Option Nat) (value : Option Nat) (bytes : Nat)
  /-- After the first unit of a surrogate pair: a backslash must come. -/
  | pairEscape (role : Role) (before : List Char) (high : Nat)
  /-- After that backslash: a `u` must come. -/
  | pairUnit (role : Role) (before : List Char) (high : Nat)
  /-- After the whole value. -/
  | done (v : Json)

structure State where
  mode : Mode
  outer : List Frame

/-- A character that the reader refuses, and how many of its bytes have been looked at. -/
structure Refusal where
  cause : Cause
  bytes : Nat

/-- Refuses at the first byte of a character. -/
def refuse (cause : Cause) : Except Refusal State :=
  .error ⟨cause, 1⟩

/-- Lists and objects may stand inside each other this many times. -/
def depthLimit : Nat := 127

/-- The state after a complete value. -/
def complete (outer : List Frame) (v : Json) : State :=
  match outer with
  | [] => ⟨.done v, []⟩
  | .element before :: outer => ⟨.afterElement (v :: before), outer⟩
  | .member before key :: outer => ⟨.afterMember ((key, v) :: before), outer⟩

/-- The state after the closing quote of a string. -/
def completeString (outer : List Frame) (role : Role) (before : List Char) : State :=
  let text := String.ofList before.reverse
  match role with
  | .value => complete outer (.string text)
  | .key members => ⟨.afterKey members text, outer⟩

/-- The first character of a value that is not blank. -/
def beginValue (outer : List Frame) (c : Char) : Except Refusal State :=
  if c = 'n' then .ok ⟨.word ['u', 'l', 'l'] .null, outer⟩
  else if c = 't' then .ok ⟨.word ['r', 'u', 'e'] (.bool true), outer⟩
  else if c = 'f' then .ok ⟨.word ['a', 'l', 's', 'e'] (.bool false), outer⟩
  else if c = '"' then .ok ⟨.string .value [], outer⟩
  else if c = '[' then
    if outer.length < depthLimit then .ok ⟨.firstElement, outer⟩ else refuse .tooDeep
  else if c = '\x7b' then
    if outer.length < depthLimit then .ok ⟨.firstKey, outer⟩ else refuse .tooDeep
  else if c = '-' then .ok ⟨.numeral .minus, outer⟩
  else
    match Decimal.digitValue? c with
    | some d => .ok ⟨.numeral (Numeral.ofDigit false d), outer⟩
    | none => refuse .expectedValue

/-- A character after a complete element, member or document. -/
def stepAfter (s : State) (c : Char) : Except Refusal State :=
  if isBlank c then .ok s
  else
    match s.mode with
    | .afterElement before =>
      if c = ',' then .ok ⟨.nextElement before, s.outer⟩
      else if c = ']' then .ok (complete s.outer (.array before.reverse))
      else refuse .expectedListEnd
    | .afterMember before =>
      if c = ',' then .ok ⟨.nextKey before, s.outer⟩
      else if c = '\x7d' then .ok (complete s.outer (.object before.reverse))
      else refuse .expectedObjectEnd
    | _ => refuse .trailingCharacters

/-- The character that a letter stands for after a backslash. -/
def shortEscape? (c : Char) : Option Char :=
  if c = '"' ∨ c = '\\' ∨ c = '/' then some c
  else if c = 'b' then some '\x08'
  else if c = 'f' then some '\x0c'
  else if c = 'n' then some '\n'
  else if c = 'r' then some '\r'
  else if c = 't' then some '\t'
  else none

/-- The value of a hexadecimal digit. -/
def hexDigit? (c : Char) : Option Nat :=
  if c.isDigit then some (c.toNat - 48)
  else if 'a' ≤ c ∧ c ≤ 'f' then some (c.toNat - 87)
  else if 'A' ≤ c ∧ c ≤ 'F' then some (c.toNat - 55)
  else none

/-- The character of a surrogate pair. -/
def pairChar (high low : Nat) : Char :=
  Char.ofNat (0x10000 + (high - 0xD800) * 0x400 + (low - 0xDC00))

/-- The state after a code unit. -/
def completeUnit (outer : List Frame) (role : Role) (before : List Char) (high : Option Nat)
    (unit : Nat) : Except Refusal State :=
  let isLow := 0xDC00 ≤ unit ∧ unit ≤ 0xDFFF
  match high with
  | some high =>
    if isLow then .ok ⟨.string role (pairChar high unit :: before), outer⟩
    else refuse .loneSurrogate
  | none =>
    if isLow then refuse .loneSurrogate
    else if 0xD800 ≤ unit ∧ unit ≤ 0xDBFF then .ok ⟨.pairEscape role before unit, outer⟩
    else .ok ⟨.string role (Char.ofNat unit :: before), outer⟩

/-- A character inside a code unit. A longer one takes the place of several digits and may even go
beyond the four bytes. -/
def stepUnit (outer : List Frame) (role : Role) (before : List Char) (high value : Option Nat)
    (bytes : Nat) (c : Char) : Except Refusal State :=
  let value := value.bind fun v => (hexDigit? c).map (v * 16 + ·)
  if c.utf8Size < bytes then .ok ⟨.unit role before high value (bytes - c.utf8Size), outer⟩
  else
    match value with
    | some unit => completeUnit outer role before high unit
    | none => .error ⟨.invalidEscape, bytes⟩

/-- Reads one character. -/
def step (s : State) (c : Char) : Except Refusal State :=
  match s.mode with
  | .value => if isBlank c then .ok s else beginValue s.outer c
  | .firstElement =>
    if isBlank c then .ok s
    else if c = ']' then .ok (complete s.outer (.array []))
    else beginValue (.element [] :: s.outer) c
  | .nextElement before =>
    if isBlank c then .ok s
    else if c = ']' then refuse .trailingComma
    else beginValue (.element before :: s.outer) c
  | .firstKey =>
    if isBlank c then .ok s
    else if c = '\x7d' then .ok (complete s.outer (.object []))
    else if c = '"' then .ok ⟨.string (.key []) [], s.outer⟩
    else refuse .keyNotString
  | .nextKey before =>
    if isBlank c then .ok s
    else if c = '\x7d' then refuse .trailingComma
    else if c = '"' then .ok ⟨.string (.key before) [], s.outer⟩
    else refuse .keyNotString
  | .afterKey before key =>
    if isBlank c then .ok s
    else if c = ':' then .ok ⟨.value, .member before key :: s.outer⟩
    else refuse .expectedColon
  | .afterElement _ | .afterMember _ | .done _ => stepAfter s c
  | .word rest v =>
    match rest with
    | [] => stepAfter (complete s.outer v) c
    | [last] => if c = last then .ok (complete s.outer v) else refuse .expectedWord
    | next :: rest => if c = next then .ok ⟨.word rest v, s.outer⟩ else refuse .expectedWord
  | .numeral n =>
    match n.step c with
    | .more n => .ok ⟨.numeral n, s.outer⟩
    | .fault cause => refuse cause
    | .ended =>
      match n.value with
      | .ok x => stepAfter (complete s.outer (.number x)) c
      | .error cause => .error ⟨cause, 0⟩
  | .string role before =>
    if c = '"' then .ok (completeString s.outer role before)
    else if c = '\\' then .ok ⟨.escape role before, s.outer⟩
    else if c.toNat < 0x20 then refuse .controlCharacter
    else .ok ⟨.string role (c :: before), s.outer⟩
  | .escape role before =>
    if c = 'u' then .ok ⟨.unit role before none (some 0) 4, s.outer⟩
    else
      match shortEscape? c with
      | some d => .ok ⟨.string role (d :: before), s.outer⟩
      | none => refuse .invalidEscape
  | .unit role before high value bytes => stepUnit s.outer role before high value bytes c
  | .pairEscape role before high =>
    if c = '\\' then .ok ⟨.pairUnit role before high, s.outer⟩ else refuse .unpairedSurrogate
  | .pairUnit role before high =>
    if c = 'u' then .ok ⟨.unit role before (some high) (some 0) 4, s.outer⟩
    else refuse .unpairedSurrogate

/-- The value of a text that ends in a list or object is missing its end. -/
def finishIn (s : State) : Except Cause Json :=
  match s.mode with
  | .done v => .ok v
  | .afterElement _ => .error .endInList
  | .afterMember _ => .error .endInObject
  | _ => .error .endInValue

/-- The value of a text that ends here. -/
def finish (s : State) : Except Cause Json :=
  match s.mode with
  | .value | .nextElement _ | .nextKey _ | .word _ _ => .error .endInValue
  | .firstElement | .afterElement _ => .error .endInList
  | .firstKey | .afterKey _ _ | .afterMember _ => .error .endInObject
  | .numeral n =>
    match n.value with
    | .ok x => finishIn (complete s.outer (.number x))
    | .error cause => .error cause
  | .string _ _ | .escape _ _ | .unit _ _ _ _ _ | .pairEscape _ _ _ | .pairUnit _ _ _ =>
    .error .endInString
  | .done v => .ok v

/-- Reads a stretch of text from a place and a state. -/
def run (p : Position) (s : State) : List Char → Except Fault (Position × State)
  | [] => .ok (p, s)
  | c :: rest =>
    match step s c with
    | .ok s => run (p.after c) s rest
    | .error refusal => .error ⟨refusal.cause, p.into c refusal.bytes⟩

/-- The state before the text. -/
def initial : State := ⟨.value, []⟩

/-- Reads a whole text as one value. -/
def ofText (text : List Char) : Except Fault Json :=
  match run .start initial text with
  | .error fault => .error fault
  | .ok (p, s) =>
    match finish s with
    | .ok v => .ok v
    | .error cause => .error ⟨cause, p⟩

end SierraFootprint.Json
