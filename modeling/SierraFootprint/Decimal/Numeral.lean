/-!
# Decimal numerals

A number is written in plain digits or in groups of three, counted from the last digit. A count is
read back from the left: it is a numeral of a number below 2^64 with an optional plus sign, and the
first character that spoils it decides what is reported.
-/
namespace SierraFootprint.Decimal

/-- The decimal digits of a number, without leading zeros. -/
def digits (n : Nat) : List Char :=
  Nat.toDigits 10 n

/-- A number in plain digits. -/
def numeral (n : Nat) : String :=
  String.ofList (digits n)

@[simp] theorem toList_numeral (n : Nat) : (numeral n).toList = digits n := by
  simp [numeral]

/-- A number in plain digits, with a minus sign if it is negative. -/
def signedNumeral (n : Int) : String :=
  (if n < 0 then "-" else "") ++ numeral n.natAbs

/-- The value of a decimal digit. -/
def digitValue? (c : Char) : Option Nat :=
  if c.isDigit then some (c.toNat - 48) else none

/-! ### Groups of three digits -/

/-- Puts a comma after every third digit that another one follows. The digits come last first. -/
def groupFromLast : List Char → List Char
  | a :: b :: c :: d :: rest => a :: b :: c :: ',' :: groupFromLast (d :: rest)
  | few => few

/-- The digits of a number in groups. -/
def groupedText (n : Nat) : List Char :=
  (groupFromLast (digits n).reverse).reverse

/-- The numeral of a number in groups. -/
def grouped (n : Nat) : String :=
  String.ofList (groupedText n)

/-! ### Reading a count -/

/-- Why a text is not a count. -/
inductive CountError
  | empty
  | invalidDigit
  | tooLarge
  deriving DecidableEq, Repr

def CountError.message : CountError → String
  | .empty => "cannot parse integer from empty string"
  | .invalidDigit => "invalid digit found in string"
  | .tooLarge => "number too large to fit in target type"

/-- The first number that is too large. -/
def countBound : Nat := Nat.pow 2 64

/-- Reads digits after those that made up the value `n`. -/
def readDigits (n : Nat) : List Char → Except CountError Nat
  | [] => .ok n
  | c :: rest =>
    match digitValue? c with
    | none => .error .invalidDigit
    | some d => if n * 10 + d < countBound then readDigits (n * 10 + d) rest else .error .tooLarge

/-- Reads a whole text as a count. -/
def readCount : List Char → Except CountError Nat
  | [] => .error .empty
  | ['+'] => .error .invalidDigit
  | '+' :: rest => readDigits 0 rest
  | text => readDigits 0 text

end SierraFootprint.Decimal
