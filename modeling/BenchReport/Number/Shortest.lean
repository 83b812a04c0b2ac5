import BenchReport.Number.Binary64
/-!
# The shortest decimal of a double

A double `m · 2 ^ e` is the nearest one to every real in an interval around it, whose ends lie half a
step away and belong to it when `m` is even.  Its shortest decimal is a number with as few digits as
possible in that interval, and among those the one nearest to the double; of two that are equally near
it is the one farther from zero.

`Shortest.decimal` finds it by trying one digit, two digits and so on: on the grid of the decimals of
that length only the two neighbours of the double can be nearest.  Seventeen digits always suffice.
All comparisons are made between integers, over the common denominator of the interval.

`Shortest.text` writes the decimal in positions from `10 ^ -4` on and below `10 ^ 16`, with at least
one digit on each side of the point, and with an exponent beyond.
-/

namespace BenchReport

namespace Shortest

/-- The reals that round to a double, times a common denominator: `low / unit` and `high / unit` are
the ends, `mid / unit` is the double itself. -/
structure Interval where
  low : Nat
  mid : Nat
  high : Nat
  unit : Nat
  /-- Whether the ends belong to it. -/
  closed : Bool
  deriving DecidableEq, Repr

/-- The interval of the double `m · 2 ^ e`.  Below a power of two the step is half as wide, unless
that is the least step there is. -/
def interval (m : Nat) (e : Int) : Interval :=
  let narrow := m == Nat.pow 2 52 && e != -1074
  let (times, unit) := if 0 ≤ e then (Nat.pow 2 e.toNat, 4) else (1, 4 * Nat.pow 2 (-e).toNat)
  ⟨(4 * m - (if narrow then 1 else 2)) * times, 4 * m * times, (4 * m + 2) * times, unit,
    m % 2 == 0⟩

namespace Interval

/-- Whether `n / d` lies in the interval. -/
def contains (i : Interval) (n d : Nat) : Bool :=
  let below := if i.closed then decide (i.low * d ≤ n * i.unit) else decide (i.low * d < n * i.unit)
  let above := if i.closed then decide (n * i.unit ≤ i.high * d) else decide (n * i.unit < i.high * d)
  below && above

/-- How far `n / d` is from the double, over the denominator `d * unit`. -/
def distance (i : Interval) (n d : Nat) : Nat :=
  (n * i.unit - i.mid * d) + (i.mid * d - n * i.unit)

/-- The multiple of `10 ^ p` that is nearest to the double among those in the interval, the larger one of
two that are equally near: the factor, if there is one. -/
def onGrid? (i : Interval) (p : Int) : Option Nat :=
  let (num, den) := if 0 ≤ p then (Nat.pow 10 p.toNat, 1) else (1, Nat.pow 10 (-p).toNat)
  let lower := i.mid * den / (i.unit * num)
  let upper := lower + 1
  let inLower := i.contains (lower * num) den && lower != 0
  let inUpper := i.contains (upper * num) den
  if inLower && inUpper then
    let a := i.distance (lower * num) den
    let b := i.distance (upper * num) den
    some (if a < b then lower else upper)
  else if inLower then some lower
  else if inUpper then some upper
  else none

end Interval

/-- The number of decimal digits. -/
def digitCount (n : Nat) : Nat := (Nat.toDigits 10 n).length

/-- The exponent of ten of the leading digit of `n / d`. -/
def leading (n d : Nat) : Int :=
  let guess : Int := (digitCount n : Int) - (digitCount d : Int)
  let atLeast (p : Int) : Bool :=
    if 0 ≤ p then decide (d * Nat.pow 10 p.toNat ≤ n)
    else decide (d ≤ n * Nat.pow 10 (-p).toNat)
  if atLeast guess then guess else guess - 1

/-- Tries `count` more digits, from the grid of the multiples of `10 ^ p` on. -/
def search (i : Interval) : (count : Nat) → (p : Int) → Nat × Int
  | 0, p => (((i.onGrid? p).getD 0), p)
  | count + 1, p =>
    match i.onGrid? p with
    | some factor => (factor, p)
    | none => search i count (p - 1)

/-- The shortest decimal of `m · 2 ^ e`, as digits and the exponent of ten of the last of them. -/
def decimal (m : Nat) (e : Int) : Nat × Int :=
  let i := interval m e
  search i 17 (leading i.mid i.unit)

/-- Digits without the zeros at their end, with the exponent of the last one that is left. -/
def dropZeros : (count : Nat) → Nat → Int → Nat × Int
  | 0, n, p => (n, p)
  | count + 1, n, p => if n % 10 == 0 && n != 0 then dropZeros count (n / 10) (p + 1) else (n, p)

/-- The digits in positions, given the exponent of the last of them. -/
def positional (digits : List Char) (p : Int) : List Char :=
  if 0 ≤ p then digits ++ List.replicate p.toNat '0' ++ ['.', '0']
  else
    let places := (-p).toNat
    if digits.length ≤ places then
      ['0', '.'] ++ List.replicate (places - digits.length) '0' ++ digits
    else digits.take (digits.length - places) ++ ['.'] ++ digits.drop (digits.length - places)

/-- The digits with an exponent, given the exponent of the last of them. -/
def scientific (digits : List Char) (p : Int) : List Char :=
  let exponent := p + digits.length - 1
  let mantissa :=
    match digits with
    | [] => ['0']
    | [one] => [one]
    | first :: rest => first :: '.' :: rest
  mantissa ++ ['e'] ++ (toString exponent).toList

/-- A positive double as text. -/
def magnitudeText (m : Nat) (e : Int) : List Char :=
  let (n, p) := decimal m e
  let (n, p) := dropZeros 17 n p
  let digits := Nat.toDigits 10 n
  let exponent := p + digits.length - 1
  if -4 ≤ exponent && exponent < 16 then positional digits p else scientific digits p

/-- A double as text. -/
def text (x : Float) : String :=
  match Binary64.value x with
  | .nan => "NaN"
  | .infinite negative => if negative then "-inf" else "inf"
  | .finite negative m e =>
    (if negative then "-" else "") ++
      (if m == 0 then "0.0" else String.ofList (magnitudeText m e))

end Shortest

end BenchReport
