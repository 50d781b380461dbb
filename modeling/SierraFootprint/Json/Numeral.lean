import SierraFootprint.Json.Value

/-!
# JSON numerals

A numeral is read character by character. Its digits make up a significand of at most 64 bits; the
first digit that does not fit is dropped and so are the later ones of the same kind, which leaves a
power of ten to scale by. Scaling is done in double arithmetic.
-/
namespace SierraFootprint.Json

/-- The number `significand * 10 ^ exponent` with a sign. -/
structure Magnitude where
  isNegative : Bool
  significand : Nat
  exponent : Int
  deriving DecidableEq, Repr

namespace Magnitude

/-- The first significand that is too large. -/
def significandBound : Nat := Nat.pow 2 64

/-- One more digit at the end of the significand, if it fits. -/
def push? (m : Magnitude) (digit : Nat) : Option Magnitude :=
  let significand := m.significand * 10 + digit
  if significand < significandBound then some { m with significand } else none

/-- The significand with its sign, as a double. -/
def signed (isNegative : Bool) (x : Float) : Float :=
  if isNegative then -x else x

/-- Multiplies a double by a power of ten, by way of the powers up to `10 ^ 308`. There is no result
when it would be infinite. -/
def scale (x : Float) (exponent : Int) : Option Float :=
  if exponent.natAbs ≤ 308 then
    let power := Float.ofScientific 1 false exponent.natAbs
    if 0 ≤ exponent then
      let y := x * power
      if y.isInf then none else some y
    else some (x / power)
  else if x == 0 then some x
  else if 0 ≤ exponent then none
  else scale (x / 1e308) (exponent + 308)
termination_by exponent.natAbs
decreasing_by omega

/-- The double nearest to a significand. -/
def significandFloat (m : Magnitude) : Float :=
  m.significand.toUInt64.toFloat

/-- The value as a double. -/
def toFloat (m : Magnitude) : Except Cause Number :=
  match scale m.significandFloat m.exponent with
  | some x => .ok (.float (signed m.isNegative x))
  | none => .error .numberOutOfRange

/-- The value of a numeral of digits only. A negative zero and whole numbers below `-2 ^ 63` become
doubles. -/
def toWhole (m : Magnitude) : Number :=
  if !m.isNegative then .whole m.significand
  else if 0 < m.significand ∧ m.significand ≤ Nat.pow 2 63 then .negative m.significand
  else .float (-m.significandFloat)

end Magnitude

/-- How far a numeral has been read. -/
inductive Numeral
  /-- After the minus sign: a digit must come. -/
  | minus
  /-- After a zero in front, which no digit may follow. -/
  | zero (isNegative : Bool)
  /-- After digits that all fit. -/
  | whole (m : Magnitude)
  /-- After digits of which some did not fit. -/
  | long (m : Magnitude)
  /-- After the point: a digit must come. -/
  | point (m : Magnitude)
  /-- After digits behind the point that all fit. -/
  | fraction (m : Magnitude)
  /-- After digits behind the point of which some did not fit. -/
  | longFraction (m : Magnitude)
  /-- After the `e`: a sign or a digit must come. -/
  | mark (m : Magnitude)
  /-- After the sign of the exponent: a digit must come. -/
  | sign (m : Magnitude) (isDown : Bool)
  /-- After digits of the exponent. -/
  | exponent (m : Magnitude) (isDown : Bool) (e : Nat)
  /-- After an exponent so large that the value is zero, whatever digits follow. -/
  | vanished (isNegative : Bool)
  deriving DecidableEq, Repr

namespace Numeral

/-- What the next character does to a numeral. -/
inductive Next
  | more (n : Numeral)
  | fault (cause : Cause)
  /-- The character is not part of the numeral. -/
  | ended

/-- The numeral that a first digit opens. -/
def ofDigit (isNegative : Bool) (digit : Nat) : Numeral :=
  if digit = 0 then zero isNegative else whole ⟨isNegative, digit, 0⟩

/-- A point or an exponent may follow the digits of the whole part. -/
def afterWhole (m : Magnitude) (c : Char) : Next :=
  if c = '.' then .more (point m)
  else if c = 'e' ∨ c = 'E' then .more (mark m)
  else .ended

/-- Only an exponent may follow the digits of the fraction. -/
def afterFraction (m : Magnitude) (c : Char) : Next :=
  if c = 'e' ∨ c = 'E' then .more (mark m) else .ended

/-- A digit behind the point counts as a tenth of the one before. -/
def pushFraction (m : Magnitude) (digit : Nat) : Numeral :=
  match m.push? digit with
  | some m => fraction { m with exponent := m.exponent - 1 }
  | none => longFraction m

/-- The first exponent that is too large. -/
def exponentBound : Nat := Nat.pow 2 31

/-- A digit of the exponent that goes too far makes the number zero or too large. -/
def pushExponent (m : Magnitude) (isDown : Bool) (e digit : Nat) : Next :=
  if e * 10 + digit < exponentBound then .more (exponent m isDown (e * 10 + digit))
  else if m.significand ≠ 0 ∧ !isDown then .fault .numberOutOfRange
  else .more (vanished m.isNegative)

/-- Reads one character. -/
def step : Numeral → Char → Next
  | minus, c =>
    match Decimal.digitValue? c with
    | some d => .more (ofDigit true d)
    | none => .fault .invalidNumber
  | zero isNegative, c =>
    match Decimal.digitValue? c with
    | some _ => .fault .invalidNumber
    | none => afterWhole ⟨isNegative, 0, 0⟩ c
  | whole m, c =>
    match Decimal.digitValue? c with
    | some d =>
      match m.push? d with
      | some m => .more (whole m)
      | none => .more (long { m with exponent := m.exponent + 1 })
    | none => afterWhole m c
  | long m, c =>
    match Decimal.digitValue? c with
    | some _ => .more (long { m with exponent := m.exponent + 1 })
    | none => afterWhole m c
  | point m, c =>
    match Decimal.digitValue? c with
    | some d => .more (pushFraction m d)
    | none => .fault .invalidNumber
  | fraction m, c =>
    match Decimal.digitValue? c with
    | some d => .more (pushFraction m d)
    | none => afterFraction m c
  | longFraction m, c =>
    match Decimal.digitValue? c with
    | some _ => .more (longFraction m)
    | none => afterFraction m c
  | mark m, c =>
    match Decimal.digitValue? c with
    | some d => .more (exponent m false d)
    | none =>
      if c = '+' then .more (sign m false)
      else if c = '-' then .more (sign m true)
      else .fault .invalidNumber
  | sign m isDown, c =>
    match Decimal.digitValue? c with
    | some d => .more (exponent m isDown d)
    | none => .fault .invalidNumber
  | exponent m isDown e, c =>
    match Decimal.digitValue? c with
    | some d => pushExponent m isDown e d
    | none => .ended
  | vanished isNegative, c =>
    match Decimal.digitValue? c with
    | some _ => .more (vanished isNegative)
    | none => .ended

/-- The value of a numeral that ends here. -/
def value : Numeral → Except Cause Number
  | minus | point _ | mark _ | sign _ _ => .error .endInValue
  | zero isNegative => .ok (Magnitude.toWhole ⟨isNegative, 0, 0⟩)
  | whole m => .ok m.toWhole
  | long m | fraction m | longFraction m => m.toFloat
  | exponent m isDown e =>
    { m with exponent := if isDown then m.exponent - e else m.exponent + e }.toFloat
  | vanished isNegative => .ok (.float (Magnitude.signed isNegative 0))

end Numeral
end SierraFootprint.Json
