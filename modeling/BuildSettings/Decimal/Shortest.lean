/-
# Shortest decimals

The decimal number with the fewest digits that reads back as a given float, and
of those the nearest to it. Everything is computed in exact natural arithmetic
on the float's significand and exponent: the numbers that read back as the float
form an interval, and for one digit, two digits and so on the two neighbours of
the float with that many digits are tried until one lies in the interval.
-/

namespace BuildSettings

/-- A positive float `significand * 2 ^ (exponent - 1074)`. -/
structure BinaryFloat where
  significand : Nat
  exponent : Nat
  deriving Repr, DecidableEq

/-- A decimal number `digits * 10 ^ exponent`. -/
structure Decimal where
  digits : Nat
  exponent : Int
  deriving Repr, DecidableEq

/-- The highest bit of a significand, `2 ^ 52`, which the representation leaves out. -/
def hiddenBit : Nat := 4503599627370496

namespace BinaryFloat

/-- Floats and decimals are compared in units of `2 ^ (-1076) * 10 ^ (-400)`, in
which every float, every midpoint of floats and every decimal is a whole number. -/
def decimalShift : Nat := 400

/-- A quarter of the step between floats of this size, in counting units. -/
def quarter (b : BinaryFloat) : Nat :=
  Nat.pow 2 b.exponent * Nat.pow 10 decimalShift

/-- The float in counting units. -/
def value (b : BinaryFloat) : Nat :=
  4 * b.significand * b.quarter

/-- The lower end of the interval that reads back as the float. It is nearer when
the significand is a power of two, where floats below lie twice as dense. -/
def lower (b : BinaryFloat) : Nat :=
  if b.significand = hiddenBit ∧ 0 < b.exponent then (4 * b.significand - 1) * b.quarter
  else (4 * b.significand - 2) * b.quarter

/-- The upper end of the interval that reads back as the float. -/
def upper (b : BinaryFloat) : Nat :=
  (4 * b.significand + 2) * b.quarter

/-- A number of counting units reads back as the float; the ends of the interval
do so when the significand is even. -/
def readsBack (b : BinaryFloat) (units : Nat) : Bool :=
  if b.significand % 2 = 0 then b.lower ≤ units && units ≤ b.upper
  else b.lower < units && units < b.upper

/-- The number of decimal digits in front of the lowest place that is counted. -/
def places (b : BinaryFloat) : Nat :=
  (Nat.toDigits 10 (b.value / Nat.pow 2 1076)).length

/-- A multiple of the grid of `count` digits as a decimal. The multiple after the
last number of `count` digits is a power of ten, written with one digit. -/
def onGrid (b : BinaryFloat) (count multiple : Nat) : Decimal :=
  let exponent : Int := (b.places : Int) - count - decimalShift
  if multiple = Nat.pow 10 count then ⟨1, exponent + count⟩ else ⟨multiple, exponent⟩

/-- The neighbour of the float among the numbers of `count` digits that reads
back; of two the nearer, and of two equally near the larger. -/
def withDigits? (b : BinaryFloat) (count : Nat) : Option Decimal :=
  let grid := Nat.pow 2 1076 * Nat.pow 10 (b.places - count)
  let below := b.value / grid
  match b.readsBack (below * grid), b.readsBack ((below + 1) * grid) with
  | true, true =>
    if b.value - below * grid < (below + 1) * grid - b.value then some (b.onGrid count below)
    else some (b.onGrid count (below + 1))
  | true, false => some (b.onGrid count below)
  | false, true => some (b.onGrid count (below + 1))
  | false, false => none

/-- The shortest decimal that reads back as the float; seventeen digits always do. -/
def shortest (b : BinaryFloat) : Decimal :=
  ((List.range 17).findSome? fun index => b.withDigits? (index + 1)).getD ⟨0, 0⟩

end BinaryFloat

/-- A decimal without an exponent, with a point and a digit on both sides of it. -/
def Decimal.positional (d : Decimal) : List Char :=
  let digits := (Nat.repr d.digits).toList
  if 0 ≤ d.exponent then digits ++ List.replicate d.exponent.natAbs '0' ++ ['.', '0']
  else
    let fraction := d.exponent.natAbs
    let padded := List.replicate (fraction + 1 - digits.length) '0' ++ digits
    padded.take (padded.length - fraction) ++ '.' :: padded.drop (padded.length - fraction)

/-- A float without an exponent, by its shortest decimal. -/
def floatText (x : Float) : String :=
  let bits := x.toBits.toNat
  let sign := if bits < hiddenBit * 2048 then [] else ['-']
  let exponent := bits / hiddenBit % 2048
  let fraction := bits % hiddenBit
  if exponent = 2047 then
    if fraction = 0 then String.ofList (sign ++ ['i', 'n', 'f']) else "NaN"
  else if exponent = 0 ∧ fraction = 0 then String.ofList (sign ++ ['0', '.', '0'])
  else
    let b : BinaryFloat := if exponent = 0 then ⟨fraction, 0⟩ else ⟨hiddenBit + fraction, exponent - 1⟩
    String.ofList (sign ++ b.shortest.positional)

end BuildSettings
