/-
# Dates and times of TOML

A date, a time, or both with an optional offset. What is read is kept as its
normal text: an upper-case `T` between date and time, at most nine digits of a
second without zeros at their end, and the offset as `Z` or hours and minutes.
-/

import BuildSettings.Text.Blank
import BuildSettings.Toml.Number

namespace BuildSettings.Toml

/-- A number of exactly `count` digits at the front of a text, not above `high`
and not below `low`, and the text behind it. -/
def fixedNumber? (count low high : Nat) (text : List Char) : Option (Nat × List Char) :=
  let front := text.take count
  if front.length = count then
    (front.mapM (digitValue? 10)).bind fun values =>
      let value := numberOfDigits 10 values
      if low ≤ value ∧ value ≤ high then some (value, text.drop count) else none
  else none

/-- The text behind a given character. -/
def behind? (c : Char) : List Char → Option (List Char)
  | [] => none
  | first :: rest => if first = c then some rest else none

/-- A number written with at least `width` digits. -/
def padded (width n : Nat) : List Char :=
  let digits := (Nat.repr n).toList
  List.replicate (width - digits.length) '0' ++ digits

/-- The number of days of a month of the Gregorian calendar. -/
def daysInMonth (year month : Nat) : Nat :=
  if month = 2 then
    if year % 4 = 0 ∧ (year % 100 ≠ 0 ∨ year % 400 = 0) then 29 else 28
  else if month = 4 ∨ month = 6 ∨ month = 9 ∨ month = 11 then 30
  else 31

/-- A date at the front of a text, in its normal text, and what follows it. -/
def date? (text : List Char) : Option (List Char × List Char) := do
  let (year, rest) ← fixedNumber? 4 0 9999 text
  let (month, rest) ← fixedNumber? 2 1 12 (← behind? '-' rest)
  let (day, rest) ← fixedNumber? 2 1 (daysInMonth year month) (← behind? '-' rest)
  some (padded 4 year ++ ['-'] ++ padded 2 month ++ ['-'] ++ padded 2 day, rest)

/-- The digits behind a decimal point, if there is one; a point needs digits. -/
def secondFraction? : List Char → Option (List Char × List Char)
  | '.' :: rest =>
    let digits := rest.takeWhile Char.isDigit
    if digits = [] then none else some (digits, rest.dropWhile Char.isDigit)
  | rest => some ([], rest)

/-- The normal text of a fraction of a second. -/
def fractionText (digits : List Char) : List Char :=
  let kept := Text.dropTailWhile (· == '0') (digits.take 9)
  if kept = [] then [] else '.' :: kept

/-- A time at the front of a text, in its normal text, and what follows it. -/
def time? (text : List Char) : Option (List Char × List Char) := do
  let (hour, rest) ← fixedNumber? 2 0 23 text
  let (minute, rest) ← fixedNumber? 2 0 59 (← behind? ':' rest)
  let (second, rest) ← fixedNumber? 2 0 60 (← behind? ':' rest)
  let (fraction, rest) ← secondFraction? rest
  some (padded 2 hour ++ [':'] ++ padded 2 minute ++ [':'] ++ padded 2 second
    ++ fractionText fraction, rest)

/-- An offset that is the whole text, in its normal text. -/
def offset? : List Char → Option (List Char)
  | [] => some []
  | ['Z'] => some ['Z']
  | ['z'] => some ['Z']
  | sign :: rest =>
    if sign = '+' ∨ sign = '-' then do
      let (hour, rest) ← fixedNumber? 2 0 23 rest
      let (minute, rest) ← fixedNumber? 2 0 59 (← behind? ':' rest)
      let shown := if hour = 0 ∧ minute = 0 then '+' else sign
      if rest = [] then some (shown :: padded 2 hour ++ [':'] ++ padded 2 minute) else none
    else none

/-- The normal text of the date and time that a text spells. -/
def dateTime? (text : List Char) : Option String :=
  match date? text with
  | some (date, []) => some (String.ofList date)
  | some (date, mark :: rest) =>
    if mark = 'T' ∨ mark = 't' ∨ mark = ' ' then do
      let (time, rest) ← time? rest
      let offset ← offset? rest
      some (String.ofList (date ++ ['T'] ++ time ++ offset))
    else none
  | none =>
    match time? text with
    | some (time, []) => some (String.ofList time)
    | _ => none

/-- The whole text is a date without a time. -/
def isDate (text : List Char) : Bool :=
  (date? text).any (·.2 == [])

end BuildSettings.Toml
