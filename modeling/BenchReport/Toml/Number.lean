import BenchReport.Number.Numeral
/-!
# Numbers in TOML

`integer?` and `real?` tell what number a text writes.  Single underscores may stand between digits,
and decimal numbers have no needless zeros in front.  An underscore may also stand between a sign and
the digits, and then zeros may follow it.  Integers may be written in hexadecimal, octal or binary
digits behind `0x`, `0o` or `0b`, without a sign.

Integers have at most 128 bits, and a real may be infinite only where it says so.
-/

namespace BenchReport

namespace Toml

/-- The digits of a text in which single underscores may stand between digits. -/
def plainDigits? (isDigit : Char → Bool) (text : List Char) : Option (List Char) :=
  let groups := text.splitOnP (· == '_')
  if groups.all (fun group => !group.isEmpty && group.all isDigit) then some groups.flatten else none

/-- A decimal number whose sign has been taken off. -/
structure Unsigned where
  /-- Whether the sign was a minus. -/
  negative : Bool
  /-- Whether zeros may stand in front. -/
  padded : Bool
  /-- What follows the sign. -/
  text : List Char

/-- Takes the sign off a decimal number, and the underscore behind the sign. -/
def Unsigned.ofText (text : List Char) : Unsigned :=
  match Numeral.splitSign text with
  | (negative, rest) =>
    if rest.length < text.length ∧ rest.head? = some '_' then ⟨negative, true, rest.tail⟩
    else ⟨negative, false, rest⟩

/-- The digits of a decimal number, without needless zeros in front unless it is `padded`. -/
def wholeDigits? (padded : Bool) (text : List Char) : Option (List Char) :=
  (plainDigits? Numeral.isDigit text).filter fun digits =>
    padded || digits.length == 1 || digits.head? != some '0'

/-- Whether an integer fits into 128 bits, with or without a sign. -/
def fits (n : Int) : Bool := -(Nat.pow 2 127 : Int) ≤ n && n < (Nat.pow 2 128 : Int)

/-- The number that digits of a radix write. -/
def valueIn (radix : Nat) (digits : List Char) : Nat :=
  digits.foldl (fun n c => radix * n + (Numeral.digit? radix c).getD 0) 0

/-- The number that digits of a radix write, with underscores between them. -/
def inRadix? (radix : Nat) (text : List Char) : Option Int :=
  (plainDigits? (fun c => (Numeral.digit? radix c).isSome) text).map fun digits =>
    (valueIn radix digits : Int)

/-- The number that a sign and decimal digits write. -/
def decimal? (text : List Char) : Option Int :=
  let number := Unsigned.ofText text
  (wholeDigits? number.padded number.text).map fun digits =>
    if number.negative then -(Numeral.value digits : Int) else Numeral.value digits

/-- The integer that a text writes. -/
def integer? (text : List Char) : Option Int :=
  Option.filter fits <|
    match text with
    | '0' :: 'x' :: digits => inRadix? 16 digits
    | '0' :: 'o' :: digits => inRadix? 8 digits
    | '0' :: 'b' :: digits => inRadix? 2 digits
    | _ => decimal? text

/-- The exponent that the text behind the digits of a real writes, without underscores. -/
def exponentDigits? : List Char → Option (List Char)
  | [] => some []
  | mark :: rest =>
    if mark == 'e' || mark == 'E' then
      let (negative, digits) := Numeral.splitSign rest
      (plainDigits? Numeral.isDigit digits).map fun digits =>
        'e' :: (if negative then '-' :: digits else digits)
    else none

/-- Whether a character may stand among the digits of a number. -/
def isDigitChar (c : Char) : Bool := Numeral.isDigit c || c == '_'

/-- The digits, point and exponent of a real, without underscores.  Digits alone are no real. -/
def realDigits? (number : Unsigned) : Option (List Char) := do
  let whole ← wholeDigits? number.padded (number.text.takeWhile isDigitChar)
  match number.text.dropWhile isDigitChar with
  | '.' :: rest =>
    let fraction ← plainDigits? Numeral.isDigit (rest.takeWhile isDigitChar)
    let exponent ← exponentDigits? (rest.dropWhile isDigitChar)
    return whole ++ '.' :: fraction ++ exponent
  | [] => none
  | rest =>
    let exponent ← exponentDigits? rest
    return whole ++ exponent

/-- The names of the numbers that digits cannot write. -/
def realNames : List (List Char) := ["inf".toList, "nan".toList]

/-- The magnitude of a real. -/
def Unsigned.magnitude? (number : Unsigned) : Option Float :=
  if !number.padded && realNames.contains number.text then Numeral.named? number.text
  else (realDigits? number).bind fun digits => (Numeral.magnitude? digits).filter Float.isFinite

/-- The real that a text writes. -/
def real? (text : List Char) : Option Float :=
  let number := Unsigned.ofText text
  number.magnitude?.map fun x => if number.negative then -x else x

end Toml

end BenchReport
