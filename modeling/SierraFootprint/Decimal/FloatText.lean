import SierraFootprint.Decimal.Numeral

/-!
# Doubles as text

A finite double is written with the fewest digits that read back as it. A binary fraction of 53 bits
stands for all reals that round to it, and the shortest decimal among them is searched on finer and
finer decimal grids, in exact arithmetic. Ordinary magnitudes are written by position and always
show a fraction; very small and very large ones have an exponent.
-/
namespace SierraFootprint.Decimal

/-! ### The shortest decimal -/

/-- The number `mantissa * 2 ^ exponent`. -/
structure Binary where
  mantissa : Nat
  exponent : Int
  /-- The next number below is only half as far away as the next number above. -/
  crowdedBelow : Bool

/-- The magnitude of a finite double from its bits. -/
def Binary.ofBits (bits : UInt64) : Binary :=
  let field : Nat := (bits.toNat / Nat.pow 2 52) % Nat.pow 2 11
  let fraction : Nat := bits.toNat % Nat.pow 2 52
  if field = 0 then ⟨fraction, -1074, false⟩
  else ⟨Nat.pow 2 52 + fraction, (field : Int) - 1075, fraction == 0 && field != 1⟩

/-- The number `digits * 10 ^ exponent`. -/
structure Scaled where
  digits : Nat
  exponent : Int
  deriving DecidableEq, Repr

/-- A positive binary fraction on the grid of the multiples of `10 ^ grid`: everything is multiplied
by a common factor, so that `value`, the ends of the interval that rounds to it, and the `unit` of
the grid are whole numbers. -/
structure OnGrid where
  value : Nat
  low : Nat
  high : Nat
  unit : Nat
  /-- The ends round to the value too. -/
  closed : Bool

/-- The ends lie halfway to the neighbours, a quarter of the last place being the smallest distance
that is needed. -/
def Binary.onGrid (x : Binary) (grid : Int) : OnGrid :=
  let places := x.exponent - 2
  let factor := Nat.pow 2 places.toNat * Nat.pow 10 (-grid).toNat
  let below := if x.crowdedBelow then 1 else 2
  { value := 4 * x.mantissa * factor
    low := (4 * x.mantissa - below) * factor
    high := (4 * x.mantissa + 2) * factor
    unit := Nat.pow 10 grid.toNat * Nat.pow 2 (-places).toNat
    closed := x.mantissa % 2 == 0 }

/-- Whether a multiple of the grid's unit rounds to the value. -/
def OnGrid.covers (x : OnGrid) (digits : Nat) : Bool :=
  let n := digits * x.unit
  if x.closed then x.low ≤ n && n ≤ x.high else x.low < n && n < x.high

/-- The multiple that rounds to the value and is nearest to it. Of two that are equally near the
even one is taken. -/
def OnGrid.nearest? (x : OnGrid) : Option Nat :=
  let below := x.value / x.unit
  let above := below + 1
  match x.covers below, x.covers above with
  | false, false => none
  | true, false => some below
  | false, true => some above
  | true, true =>
    let twice := 2 * (x.value % x.unit)
    if twice < x.unit then some below
    else if x.unit < twice then some above
    else if below % 2 = 0 then some below
    else some above

/-- The first hit on the grids from `grid` downwards. The last grid tried gives the multiple below
the value when nothing was hit. -/
def Binary.search (x : Binary) (grid : Int) : Nat → Scaled
  | 0 => ⟨(x.onGrid grid).value / (x.onGrid grid).unit, grid⟩
  | more + 1 =>
    match (x.onGrid grid).nearest? with
    | some digits => ⟨digits, grid⟩
    | none => x.search (grid - 1) more

/-- The exponent of the power of ten at or below a positive binary fraction. The numbers of digits
of its numerator and denominator give it up to one. -/
def Binary.magnitude (x : Binary) : Int :=
  let numerator := x.mantissa * Nat.pow 2 x.exponent.toNat
  let denominator := Nat.pow 2 (-x.exponent).toNat
  let guess : Int := (Nat.toDigits 10 numerator).length - (Nat.toDigits 10 denominator).length
  if denominator * Nat.pow 10 guess.toNat ≤ numerator * Nat.pow 10 (-guess).toNat then guess
  else guess - 1

/-- A decimal with the fewest digits that rounds to a positive binary fraction. Seventeen digits
always suffice. -/
def Binary.shortest (x : Binary) : Scaled :=
  x.search x.magnitude 17

/-! ### How it is written -/

/-- The magnitudes that are written by position: from `10 ^ least` to below `10 ^ bound`. -/
structure Positional where
  least : Int
  bound : Int

/-- From a hundred-thousandth to below ten quadrillion. -/
def Positional.standard : Positional := ⟨-5, 16⟩

/-- Digits by position, the first one having the place `10 ^ exponent`. -/
def positionalText (digits : List Char) (exponent : Int) : List Char :=
  if exponent < 0 then
    ['0', '.'] ++ List.replicate (-exponent - 1).toNat '0' ++ digits
  else
    let places := exponent.toNat + 1
    let whole := digits.take places ++ List.replicate (places - digits.length) '0'
    match digits.drop places with
    | [] => whole ++ ['.', '0']
    | fraction => whole ++ '.' :: fraction

/-- Digits with a point after the first one, and an exponent that always has a sign. -/
def exponentText (digits : List Char) (exponent : Int) : List Char :=
  let mantissa := match digits with
    | [] => []
    | [d] => [d]
    | d :: rest => d :: '.' :: rest
  let sign := if exponent < 0 then '-' else '+'
  mantissa ++ ['e', sign] ++ Decimal.digits exponent.natAbs

/-- A decimal without the zeros at its end. -/
def scaledText (style : Positional) (x : Scaled) : List Char :=
  let written := Decimal.digits x.digits
  let exponent := x.exponent + written.length - 1
  let significant := (written.reverse.dropWhile (· == '0')).reverse
  if style.least ≤ exponent ∧ exponent < style.bound then positionalText significant exponent
  else exponentText significant exponent

/-- A finite double. -/
def floatText (x : Float) : String :=
  let magnitude := Binary.ofBits x.toBits
  let text :=
    if magnitude.mantissa = 0 then ['0', '.', '0']
    else scaledText .standard magnitude.shortest
  String.ofList (if x.toBits.toNat < Nat.pow 2 63 then text else '-' :: text)

end SierraFootprint.Decimal
