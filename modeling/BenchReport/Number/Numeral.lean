/-!
# Numerals

How numbers are read from text.

*Integers.*  A numeral is an optional sign and at least one digit.  `unsigned` accepts a plus sign
only, `signed` a minus sign as well.  Reading goes from left to right and stops at the first
character that decides: one that is no digit (`invalidDigit`), or a digit that takes the number
beyond its bound (`tooLarge`, `tooSmall`).  A sign alone is an invalid digit, no text at all is
`empty`.

*Reals.*  `real?` accepts an optional sign, then `inf`, `infinity` or `nan` in any case, or digits
with at most one point among or around them and an optional exponent.  The result is the double
nearest to the number written.

Nothing else is a numeral: no blanks, no separators, no other digits than those of ASCII.
-/

namespace BenchReport

/-- Why a text is no integer of the wanted kind. -/
inductive NumeralError where
  | empty
  | invalidDigit
  | tooLarge
  | tooSmall
  deriving DecidableEq, Repr

/-- The wording of a numeral error. -/
def NumeralError.message : NumeralError → String
  | empty => "cannot parse integer from empty string"
  | invalidDigit => "invalid digit found in string"
  | tooLarge => "number too large to fit in target type"
  | tooSmall => "number too small to fit in target type"

namespace Numeral

/-! ## Integers -/

/-- The number that a character stands for as a digit, if it is below the radix. -/
def digit? (radix : Nat) (c : Char) : Option Nat :=
  let n := c.toNat
  let value :=
    if 48 ≤ n && n ≤ 57 then some (n - 48)
    else if 97 ≤ n && n ≤ 122 then some (n - 87)
    else if 65 ≤ n && n ≤ 90 then some (n - 55)
    else none
  value.filter (· < radix)

/-- Reads digits behind a number already read.  A digit that leads beyond `bound` is the error
`beyond`. -/
def digits (radix bound : Nat) (beyond : NumeralError) : Nat → List Char → Except NumeralError Nat
  | read, [] => .ok read
  | read, c :: rest =>
    match digit? radix c with
    | none => .error .invalidDigit
    | some d =>
      let next := read * radix + d
      if bound < next then .error beyond else digits radix bound beyond next rest

/-- The number from `0` to `bound` that the text writes in the radix. -/
def unsigned (radix bound : Nat) : List Char → Except NumeralError Nat
  | [] => .error .empty
  | ['+'] => .error .invalidDigit
  | '+' :: rest => digits radix bound .tooLarge 0 rest
  | text => digits radix bound .tooLarge 0 text

/-- The number from `-(bound + 1)` to `bound` that the text writes in the radix. -/
def signed (radix bound : Nat) : List Char → Except NumeralError Int
  | [] => .error .empty
  | ['+'] => .error .invalidDigit
  | ['-'] => .error .invalidDigit
  | '+' :: rest => (digits radix bound .tooLarge 0 rest).map Int.ofNat
  | '-' :: rest => (digits radix (bound + 1) .tooSmall 0 rest).map fun n => -(n : Int)
  | text => (digits radix bound .tooLarge 0 text).map Int.ofNat

/-- The largest 32 bit number. -/
def maxU32 : Nat := 4294967295

/-- The largest 64 bit number. -/
def maxU64 : Nat := 18446744073709551615

/-- The largest signed 64 bit number. -/
def maxI64 : Nat := 9223372036854775807

/-- The 32 bit number that the text writes in decimal digits. -/
def u32? (text : String) : Option Nat := (unsigned 10 maxU32 text.toList).toOption

/-! ## Reals -/

/-- Whether a character is a decimal digit. -/
def isDigit (c : Char) : Bool := 48 ≤ c.toNat && c.toNat ≤ 57

/-- The number that decimal digits write. -/
def value (digits : List Char) : Nat := digits.foldl (fun n c => 10 * n + (c.toNat - 48)) 0

/-- Splits a leading sign off; the first part tells whether it is a minus. -/
def splitSign : List Char → Bool × List Char
  | '+' :: rest => (false, rest)
  | '-' :: rest => (true, rest)
  | text => (false, text)

/-- The exponent that the text after the digits of a real writes; no text is the exponent zero. -/
def exponent? : List Char → Option Int
  | [] => some 0
  | mark :: rest =>
    if mark == 'e' || mark == 'E' then
      let (negative, digits) := splitSign rest
      if digits.isEmpty || !digits.all isDigit then none
      else some (if negative then -(value digits : Int) else value digits)
    else none

/-- The double nearest to `m · 10 ^ e`. -/
def scale (m : Nat) (e : Int) : Float := Float.ofScientific m (decide (e < 0)) e.natAbs

/-- The real that unsigned digits, point and exponent write. -/
def magnitude? (text : List Char) : Option Float :=
  let whole := text.takeWhile isDigit
  let rest := text.dropWhile isDigit
  let (fraction, rest) :=
    match rest with
    | '.' :: more => (more.takeWhile isDigit, more.dropWhile isDigit)
    | _ => ([], rest)
  if whole.isEmpty && fraction.isEmpty then none
  else (exponent? rest).map fun e => scale (value (whole ++ fraction)) (e - fraction.length)

/-- The names of the numbers that digits cannot write. -/
def named? (text : List Char) : Option Float :=
  let name := String.ofList (text.map Char.toLower)
  if name == "inf" || name == "infinity" then some (Float.ofBits 0x7ff0000000000000)
  else if name == "nan" then some (Float.ofBits 0x7ff8000000000000)
  else none

/-- The double that the text writes. -/
def real? (text : String) : Option Float :=
  let (negative, rest) := splitSign text.toList
  let magnitude := (named? rest).or (magnitude? rest)
  magnitude.map fun x => if negative then -x else x

end Numeral

end BenchReport
