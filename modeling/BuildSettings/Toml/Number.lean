/-
# Numbers of TOML

Integers are decimal with an optional sign, or hexadecimal, octal or binary
without one, and must fit 64 bits. Floats have a fraction, an exponent or both.
Underscores may stand between digits; a decimal number has no leading zero.
-/

import BuildSettings.Toml.Quotation

namespace BuildSettings.Toml

/-- The value of a digit in a base of at most sixteen. -/
def digitValue? (base : Nat) (c : Char) : Option Nat :=
  (hexValue? c).filter (· < base)

/-- The number that a list of digit values stands for. -/
def numberOfDigits (base : Nat) (values : List Nat) : Nat :=
  values.foldl (fun total value => total * base + value) 0

/-- The values of digits with single underscores between them. -/
def digits? (base : Nat) (text : List Char) : Option (List Nat) :=
  let groups := text.splitOn '_'
  if groups.any List.isEmpty then none else groups.flatten.mapM (digitValue? base)

/-- The values of decimal digits without a leading zero. -/
def wholeDigits? (text : List Char) : Option (List Nat) :=
  (digits? 10 text).filter fun values => values.length = 1 || values.head? ≠ some 0

/-- A text without its sign, and whether the sign is a minus. -/
def splitSign : List Char → Bool × List Char
  | '-' :: rest => (true, rest)
  | '+' :: rest => (false, rest)
  | text => (false, text)

/-- The number of values that a signed word of 64 bits has on each side of zero. -/
def wordHalf : Int := 9223372036854775808

/-- The number, if it fits a signed word of 64 bits. -/
def inWord? (value : Int) : Option Int :=
  if -wordHalf ≤ value ∧ value < wordHalf then some value else none

/-- The integer that a text spells. -/
def integer? (text : List Char) : Option Int :=
  match text with
  | '0' :: 'x' :: rest => (digits? 16 rest).bind fun values => inWord? (numberOfDigits 16 values)
  | '0' :: 'o' :: rest => (digits? 8 rest).bind fun values => inWord? (numberOfDigits 8 values)
  | '0' :: 'b' :: rest => (digits? 2 rest).bind fun values => inWord? (numberOfDigits 2 values)
  | _ =>
    (wholeDigits? (splitSign text).2).bind fun values =>
      let size : Int := numberOfDigits 10 values
      inWord? (if (splitSign text).1 then -size else size)

/-- The float nearest to `coefficient` times ten to the `exponent`. Numbers
beyond the range of floats become infinite, those far below it zero. -/
def floatOfDecimal (coefficient : Nat) (exponent : Int) : Float :=
  let magnitude : Int := (Nat.toDigits 10 coefficient).length + exponent
  if coefficient = 0 ∨ magnitude < -400 then 0.0
  else if magnitude > 400 then 1.0 / 0.0
  else if exponent < 0 then Float.ofScientific coefficient true exponent.natAbs
  else Float.ofScientific coefficient false exponent.natAbs

/-- The part of a list before the first member that satisfies `stop`, and the
part behind that member if there is one. -/
def splitAtFirst {α : Type} (stop : α → Bool) (items : List α) : List α × Option (List α) :=
  (items.takeWhile (!stop ·), (items.dropWhile (!stop ·)).tail?)

/-- The digits behind a mark that may be missing; a mark needs digits. -/
def optionalDigits? : Option (List Char) → Option (List Nat)
  | none => some []
  | some text => digits? 10 text

/-- The exponent behind an exponent mark that may be missing. -/
def optionalExponent? : Option (List Char) → Option Int
  | none => some 0
  | some text =>
    (digits? 10 (splitSign text).2).map fun values =>
      let size : Int := numberOfDigits 10 values
      if (splitSign text).1 then -size else size

/-- The float that digits with a fraction, an exponent or both spell. A number
too large for a float is refused unless it is negative. -/
def decimalFloat? (text : List Char) : Option Float :=
  let (negative, body) := splitSign text
  let (mantissa, exponentText) := splitAtFirst (fun c => c == 'e' || c == 'E') body
  let (wholeText, fractionText) := splitAtFirst (· == '.') mantissa
  if exponentText.isNone ∧ fractionText.isNone then none
  else do
    let whole ← wholeDigits? wholeText
    let fraction ← optionalDigits? fractionText
    let exponent ← optionalExponent? exponentText
    let size := floatOfDecimal (numberOfDigits 10 (whole ++ fraction)) (exponent - fraction.length)
    if negative then some (-size) else if size.isInf then none else some size

/-- The float that a text spells: digits, an infinity or not a number. -/
def float? (text : List Char) : Option Float :=
  let (negative, body) := splitSign text
  if body = ['i', 'n', 'f'] then some (if negative then -(1.0 / 0.0) else 1.0 / 0.0)
  else if body = ['n', 'a', 'n'] then some (0.0 / 0.0)
  else decimalFloat? text

end BuildSettings.Toml
