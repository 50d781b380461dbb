import SierraFootprint.Json.Numeral
import SierraFootprint.Proofs.Decimal.CountText
import Mathlib.Tactic.Common
import Mathlib.Tactic.FinCases

/-!
# Number literals

A literal is the parts that the grammar of JSON numbers asks for. Its text and its value are given
part by part.
-/
namespace SierraFootprint.Json

/-- A decimal digit. -/
abbrev Digit := Fin 10

def digitChar (d : Digit) : Char :=
  Nat.digitChar d

def digitsText (ds : List Digit) : List Char :=
  ds.map digitChar

@[simp] theorem digitsText_nil : digitsText [] = [] := rfl

@[simp] theorem digitsText_cons (d : Digit) (ds : List Digit) :
    digitsText (d :: ds) = digitChar d :: digitsText ds := rfl

/-- The number that digits make up when they follow those of a number. -/
def digitsValue (n : Nat) (ds : List Digit) : Nat :=
  ds.foldl (fun n d => n * 10 + d.val) n

/-- How the sign of an exponent is written. -/
inductive ExponentSign
  | absent
  | plus
  | minus

def ExponentSign.text : ExponentSign → List Char
  | absent => []
  | plus => ['+']
  | minus => ['-']

def ExponentSign.isDown : ExponentSign → Bool
  | minus => true
  | _ => false

/-- An exponent: its letter, its sign, and one digit or more. -/
structure Exponent where
  isCapital : Bool
  sign : ExponentSign
  first : Digit
  more : List Digit

namespace Exponent

def letter (e : Exponent) : Char :=
  if e.isCapital then 'E' else 'e'

def digits (e : Exponent) : List Digit :=
  e.first :: e.more

/-- The text after the letter. -/
def tailText (e : Exponent) : List Char :=
  e.sign.text ++ digitsText e.digits

def value (e : Exponent) : Nat :=
  digitsValue 0 e.digits

end Exponent

def exponentText : Option Exponent → List Char
  | none => []
  | some e => e.letter :: e.tailText

/-- The text of the digits behind the point, of which there are none where there is no point. -/
def fractionText : List Digit → List Char
  | [] => []
  | d :: ds => '.' :: digitsText (d :: ds)

/-- A number as JSON writes it: digits without a useless zero in front, digits behind the point if
there is one, and an exponent if there is one. -/
structure Literal where
  isNegative : Bool
  first : Digit
  more : List Digit
  fraction : List Digit
  exponent : Option Exponent
  more_eq_nil : first = 0 → more = []

namespace Magnitude

/-- Digits of the whole part. Those from the first one that does not fit on are counted only. -/
def pushWhole (m : Magnitude) : List Digit → Magnitude
  | [] => m
  | d :: ds =>
    match m.push? d with
    | some m => pushWhole m ds
    | none => { m with exponent := m.exponent + (ds.length + 1) }

/-- Digits behind the point. Those from the first one that does not fit on are dropped. -/
def pushFraction (m : Magnitude) : List Digit → Magnitude
  | [] => m
  | d :: ds =>
    match m.push? d with
    | some m => pushFraction { m with exponent := m.exponent - 1 } ds
    | none => m

/-- The value with an exponent. One that is too large makes the number zero or too large. -/
def raised (m : Magnitude) (isDown : Bool) (e : Nat) : Except Cause Number :=
  if e < Numeral.exponentBound then
    { m with exponent := if isDown then m.exponent - e else m.exponent + e }.toFloat
  else if m.significand ≠ 0 ∧ !isDown then .error .numberOutOfRange
  else .ok (.float (signed m.isNegative 0))

/-- The value with or without an exponent. -/
def ending (m : Magnitude) (isWhole : Bool) : Option Exponent → Except Cause Number
  | none => if isWhole then .ok m.toWhole else m.toFloat
  | some e => m.raised e.sign.isDown e.value

/-- The value with the digits behind the point and an exponent. A number that has neither is whole
if none of its digits was dropped. -/
def closed (m : Magnitude) (fraction : List Digit) (exponent : Option Exponent) :
    Except Cause Number :=
  (m.pushFraction fraction).ending (fraction.isEmpty && m.exponent == 0) exponent

end Magnitude

namespace Literal

/-- The text after the minus sign that there may be. -/
def unsignedText (l : Literal) : List Char :=
  digitsText (l.first :: l.more) ++ (fractionText l.fraction ++ exponentText l.exponent)

def text (l : Literal) : List Char :=
  if l.isNegative then '-' :: l.unsignedText else l.unsignedText

/-- The digits of the whole part, read from the left. -/
def whole (l : Literal) : Magnitude :=
  Magnitude.pushWhole ⟨l.isNegative, l.first, 0⟩ l.more

/-- The value, or the fault that it is out of range. -/
def value (l : Literal) : Except Cause Number :=
  l.whole.closed l.fraction l.exponent

end Literal

/-! ### Digits as characters -/

@[simp] theorem digitValue?_digitChar (d : Digit) :
    Decimal.digitValue? (digitChar d) = some d.val := by
  decide +revert

theorem exists_digit {c : Char} {v : Nat} (h : Decimal.digitValue? c = some v) :
    ∃ d : Digit, c = digitChar d ∧ v = d := by
  unfold Decimal.digitValue? at h
  simp only [Option.ite_none_right_eq_some, Option.some.injEq] at h
  obtain ⟨hd, rfl⟩ := h
  exact ⟨⟨c.toNat - 48, Decimal.value_lt_of_isDigit hd⟩, (Decimal.digitChar_of_isDigit hd).symm, rfl⟩

theorem digitValue?_eq_none {c : Char} (h : c ∈ ['.', 'e', 'E', '+', '-']) :
    Decimal.digitValue? c = none := by
  fin_cases h <;> rfl

end SierraFootprint.Json
