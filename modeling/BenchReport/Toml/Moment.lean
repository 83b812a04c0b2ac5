import BenchReport.Toml.Layout
import BenchReport.Number.Numeral
/-!
# Dates and times in TOML

A moment is a date, a time of day, or a date and a time with the letter `T` or a space between them,
behind which its distance from universal time may stand.  A time of day may end with its minutes.
`isMoment` tells which texts are moments: numbers have their fixed number of digits and lie in the
calendar and on the clock, where a minute may have a leap second.
-/

namespace BenchReport

namespace Toml

/-- Reads a number of exactly `count` decimal digits. -/
def fixedDigits (count : Nat) : Reader Nat := fun text =>
  let digits := text.take count
  if digits.length = count ∧ digits.all Numeral.isDigit = true then
    some (Numeral.value digits, text.drop count)
  else none

/-- Reads one character. -/
def char (wanted : Char) : Reader Unit
  | [] => none
  | c :: rest => if c == wanted then some ((), rest) else none

/-- Whether a year has a leap day. -/
def isLeapYear (year : Nat) : Bool := year % 4 == 0 && (year % 100 != 0 || year % 400 == 0)

/-- The number of days of a month; none if there is no such month. -/
def daysOfMonth (year month : Nat) : Nat :=
  match month with
  | 2 => if isLeapYear year then 29 else 28
  | 4 | 6 | 9 | 11 => 30
  | 1 | 3 | 5 | 7 | 8 | 10 | 12 => 31
  | _ => 0

/-- The text behind a date. -/
def skipDate (text : List Char) : Option (List Char) := do
  let (year, text) ← fixedDigits 4 text
  let ((), text) ← char '-' text
  let (month, text) ← fixedDigits 2 text
  let ((), text) ← char '-' text
  let (day, text) ← fixedDigits 2 text
  if 1 ≤ day ∧ day ≤ daysOfMonth year month then some text else none

/-- The text behind the fraction of a second, if there is one. -/
def skipFraction : List Char → Option (List Char)
  | '.' :: text =>
    if text.head?.any Numeral.isDigit then some (text.dropWhile Numeral.isDigit) else none
  | text => some text

/-- The text behind the seconds of a time, if there are any. -/
def skipSeconds : List Char → Option (List Char)
  | ':' :: text => do
    let (second, text) ← fixedDigits 2 text
    if second ≤ 60 then skipFraction text else none
  | text => some text

/-- The text behind a time of day. -/
def skipTime (text : List Char) : Option (List Char) := do
  let (hour, text) ← fixedDigits 2 text
  let ((), text) ← char ':' text
  let (minute, text) ← fixedDigits 2 text
  if hour ≤ 23 ∧ minute ≤ 59 then skipSeconds text else none

/-- Whether a text is empty or a distance from universal time, which is less than a day. -/
def isOffset (text : List Char) : Bool :=
  match text with
  | [] => true
  | ['Z'] | ['z'] => true
  | sign :: text =>
    (sign == '+' || sign == '-') &&
      (do
        let (hours, text) ← fixedDigits 2 text
        let ((), text) ← char ':' text
        let (minutes, text) ← fixedDigits 2 text
        return text.isEmpty && decide (hours ≤ 23) && decide (minutes ≤ 59)) == some true

/-- Whether a text is a date. -/
def isDate (text : List Char) : Bool := skipDate text == some []

/-- Whether a text is a date, a time, or both. -/
def isMoment (text : List Char) : Bool :=
  match skipDate text with
  | some [] => true
  | some (mark :: text) =>
    (mark == 'T' || mark == 't' || mark == ' ') && (skipTime text).any isOffset
  | none => skipTime text == some []

end Toml

end BenchReport
