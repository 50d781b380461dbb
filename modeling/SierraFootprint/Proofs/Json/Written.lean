import SierraFootprint.Json.Value
import SierraFootprint.Proofs.Json.Literal

/-!
# Written JSON

The grammar of JSON texts as a relation between values and their texts. One value has many texts:
white space, the spelling of each character of a string, and the text of a number are free.
-/
namespace SierraFootprint.Json

/-- How deep lists and objects stand inside each other. -/
def depth : Json → Nat
  | array vs => depthAll vs + 1
  | object ms => depthMembers ms + 1
  | _ => 0
where
  depthAll : List Json → Nat
    | [] => 0
    | v :: vs => max (depth v) (depthAll vs)
  depthMembers : List (String × Json) → Nat
    | [] => 0
    | (_, v) :: ms => max (depth v) (depthMembers ms)

/-- The characters between tokens. -/
def blanks : List Char :=
  [' ', '\t', '\n', '\r']

/-- White space of any length. -/
def Blank (text : List Char) : Prop :=
  ∀ c ∈ text, c ∈ blanks

/-- A hexadecimal digit, in either case. -/
def HexDigit (c : Char) (v : Nat) : Prop :=
  v < 16 ∧ (c = Nat.digitChar v ∨ c = (Nat.digitChar v).toUpper)

/-- The four digits of a code unit. -/
inductive UnitText : Nat → List Char → Prop
  | digits {a b c d : Char} {i j k l : Nat} : HexDigit a i → HexDigit b j → HexDigit c k →
      HexDigit d l → UnitText (((i * 16 + j) * 16 + k) * 16 + l) [a, b, c, d]

/-- The letters that stand after a backslash, and what they mean. -/
def shortEscapes : List (Char × Char) :=
  [('"', '"'), ('\\', '\\'), ('/', '/'), ('b', '\x08'), ('f', '\x0c'), ('n', '\n'), ('r', '\r'),
   ('t', '\t')]

/-- The first unit of the surrogate pair of a character. -/
def highSurrogate (c : Char) : Nat :=
  0xD800 + (c.toNat - 0x10000) / 0x400

/-- The second unit of the surrogate pair of a character. -/
def lowSurrogate (c : Char) : Nat :=
  0xDC00 + (c.toNat - 0x10000) % 0x400

/-- The spellings of a character inside a string. -/
inductive Spelled : Char → List Char → Prop
  | raw {c : Char} : 0x20 ≤ c.toNat → c ≠ '"' → c ≠ '\\' → Spelled c [c]
  | short {letter c : Char} : (letter, c) ∈ shortEscapes → Spelled c ['\\', letter]
  | unit {c : Char} {t : List Char} : UnitText c.toNat t → Spelled c ('\\' :: 'u' :: t)
  | pair {c : Char} {t t' : List Char} : 0x10000 ≤ c.toNat → UnitText (highSurrogate c) t →
      UnitText (lowSurrogate c) t' → Spelled c ('\\' :: 'u' :: (t ++ '\\' :: 'u' :: t'))

/-- The texts of a string between its quotes. -/
inductive Inside : List Char → List Char → Prop
  | nil : Inside [] []
  | cons {c : Char} {s t rest : List Char} : Spelled c t → Inside s rest →
      Inside (c :: s) (t ++ rest)

/-- A string in its quotes. -/
def Quotes (s : String) (text : List Char) : Prop :=
  ∃ t, Inside s.toList t ∧ text = '"' :: (t ++ ['"'])

/-- What the grammar has texts for. -/
inductive Phrase
  | value (v : Json)
  /-- A value with white space around it. -/
  | padded (v : Json)
  /-- The elements of a list, of which there is at least one. -/
  | elements (vs : List Json)
  /-- The members of an object, of which there is at least one. -/
  | members (ms : List (String × Json))

/-- The texts of a phrase. -/
inductive Written : Phrase → List Char → Prop
  | null : Written (.value .null) ['n', 'u', 'l', 'l']
  | isTrue : Written (.value (.bool true)) ['t', 'r', 'u', 'e']
  | isFalse : Written (.value (.bool false)) ['f', 'a', 'l', 's', 'e']
  | number {l : Literal} {x : Number} : l.value = .ok x → Written (.value (.number x)) l.text
  | string {s : String} {t : List Char} : Quotes s t → Written (.value (.string s)) t
  | emptyArray {b : List Char} : Blank b → Written (.value (.array [])) ('[' :: (b ++ [']']))
  | array {vs : List Json} {t : List Char} : Written (.elements vs) t →
      Written (.value (.array vs)) ('[' :: (t ++ [']']))
  | emptyObject {b : List Char} : Blank b →
      Written (.value (.object [])) ('\x7b' :: (b ++ ['\x7d']))
  | object {ms : List (String × Json)} {t : List Char} : Written (.members ms) t →
      Written (.value (.object ms)) ('\x7b' :: (t ++ ['\x7d']))
  | padded {v : Json} {a t b : List Char} : Blank a → Written (.value v) t → Blank b →
      Written (.padded v) (a ++ (t ++ b))
  | lastElement {v : Json} {t : List Char} : Written (.padded v) t → Written (.elements [v]) t
  | element {v : Json} {vs : List Json} {t rest : List Char} : Written (.padded v) t →
      Written (.elements vs) rest → Written (.elements (v :: vs)) (t ++ ',' :: rest)
  | lastMember {key : String} {v : Json} {a k b t : List Char} : Blank a → Quotes key k → Blank b →
      Written (.padded v) t → Written (.members [(key, v)]) (a ++ (k ++ (b ++ ':' :: t)))
  | member {key : String} {v : Json} {ms : List (String × Json)} {a k b t rest : List Char} :
      Blank a → Quotes key k → Blank b → Written (.padded v) t → Written (.members ms) rest →
      Written (.members ((key, v) :: ms)) (a ++ (k ++ (b ++ ':' :: (t ++ ',' :: rest))))

/-- A text is a way of writing a document: the value with white space around it. -/
def IsText (v : Json) (text : List Char) : Prop :=
  Written (.padded v) text

end SierraFootprint.Json
