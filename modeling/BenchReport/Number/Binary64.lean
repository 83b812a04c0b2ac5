/-!
# Whole numbers out of doubles

A double is a NaN, an infinity, or exactly `m · 2 ^ e` with a sign.  This module reads that value off
(`Binary64.value`) and defines on it, in integer arithmetic, the ways a double becomes a whole
number: toward zero (`towardZero`), downward (`floor`), upward (`ceiling`) and to the nearest with
halves away from zero (`nearest`).  `clampWhole` then fits the result into a range.  The sum, the
product and the quotient of doubles are those of core `Float`.

A NaN becomes `0` and an infinity the end of the range on its side, so the result of `clampWhole`
always lies in its range (`le_clampWhole`, `clampWhole_le`).

The smaller and the larger of two doubles ignore a NaN when there is one other number, and of two
equal numbers, such as the two zeros, they are the first (`smaller`, `larger`).
-/

namespace BenchReport

namespace Binary64

open Float.Model (UnpackedFloat)

/-! ## The exact value -/

/-- What a double stands for. -/
inductive Value where
  | nan
  | infinite (negative : Bool)
  /-- The number `m · 2 ^ e`, negated if so marked. -/
  | finite (negative : Bool) (m : Nat) (e : Int)
  deriving DecidableEq, Repr

/-- Whether a sign is the negative one. -/
def isNegative : UnpackedFloat.Sign → Bool
  | .negative => true
  | .positive => false

/-- The exact value of a double. -/
def value (x : Float) : Value :=
  match x.toModel.unpack with
  | .notANumber => .nan
  | .infinity sign => .infinite (isNegative sign)
  | .zero sign => .finite (isNegative sign) 0 0
  | .finite sign m e _ => .finite (isNegative sign) m e

/-! ## Rounding to whole numbers -/

/-- The integer part of `m · 2 ^ e`. -/
def wholePart (m : Nat) (e : Int) : Nat :=
  if 0 ≤ e then m * Nat.pow 2 e.toNat else m / Nat.pow 2 (-e).toNat

/-- Whether `m · 2 ^ e` is no whole number. -/
def hasFraction (m : Nat) (e : Int) : Bool :=
  if 0 ≤ e then false else m % Nat.pow 2 (-e).toNat != 0

/-- The number with the given sign. -/
def signed (negative : Bool) (n : Nat) : Int :=
  if negative then -(n : Int) else n

/-- The whole number next to `±m · 2 ^ e` in the direction of zero. -/
def towardZero (negative : Bool) (m : Nat) (e : Int) : Int :=
  signed negative (wholePart m e)

/-- The largest whole number that is at most `±m · 2 ^ e`. -/
def floor (negative : Bool) (m : Nat) (e : Int) : Int :=
  if negative && hasFraction m e then -(wholePart m e : Int) - 1
  else signed negative (wholePart m e)

/-- The smallest whole number that is at least `±m · 2 ^ e`. -/
def ceiling (negative : Bool) (m : Nat) (e : Int) : Int :=
  if !negative && hasFraction m e then (wholePart m e : Int) + 1
  else signed negative (wholePart m e)

/-- The whole number nearest to `±m · 2 ^ e`; a half goes away from zero. -/
def nearest (negative : Bool) (m : Nat) (e : Int) : Int :=
  signed negative ((wholePart (2 * m) e + 1) / 2)

/-- `n`, or the end of the range from `lo` to `hi` that it lies beyond. -/
def clamp (lo hi n : Int) : Int := max lo (min hi n)

/-- The whole number that `round` finds for `x`, fitted into the range from `lo` to `hi`.  A NaN
counts as zero. -/
def clampWhole (round : Bool → Nat → Int → Int) (lo hi : Int) (x : Float) : Int :=
  match value x with
  | .nan => clamp lo hi 0
  | .infinite true => lo
  | .infinite false => hi
  | .finite negative m e => clamp lo hi (round negative m e)

theorem le_clamp {lo hi : Int} (n : Int) : lo ≤ clamp lo hi n := by
  unfold clamp; omega

theorem clamp_le {lo hi : Int} (h : lo ≤ hi) (n : Int) : clamp lo hi n ≤ hi := by
  unfold clamp; omega

theorem le_clampWhole {lo hi : Int} (h : lo ≤ hi) (round : Bool → Nat → Int → Int) (x : Float) :
    lo ≤ clampWhole round lo hi x := by
  unfold clampWhole
  split
  · exact le_clamp _
  · exact Int.le_refl _
  · exact h
  · exact le_clamp _

theorem clampWhole_le {lo hi : Int} (h : lo ≤ hi) (round : Bool → Nat → Int → Int) (x : Float) :
    clampWhole round lo hi x ≤ hi := by
  unfold clampWhole
  split
  · exact clamp_le h _
  · exact h
  · exact Int.le_refl _
  · exact clamp_le h _

/-- The smallest 64 bit integer. -/
def minWord : Int := -9223372036854775808

/-- The largest 64 bit integer. -/
def maxWord : Int := 9223372036854775807

/-- The 64 bit integer that remains of `x` when its fraction is dropped. -/
def toWord (x : Float) : Int := clampWhole towardZero minWord maxWord x

theorem minWord_le_toWord (x : Float) : minWord ≤ toWord x :=
  le_clampWhole (by decide) towardZero x

theorem toWord_le_maxWord (x : Float) : toWord x ≤ maxWord :=
  clampWhole_le (by decide) towardZero x

/-! ## The smaller and the larger of two doubles -/

/-- The smaller of two doubles: a NaN gives way to the other one, and of two equal ones it is the
first. -/
def smaller (x y : Float) : Float :=
  if x.isNaN then y else if y < x then y else x

/-- The larger of two doubles: a NaN gives way to the other one, and of two equal ones it is the
first. -/
def larger (x y : Float) : Float :=
  if x.isNaN then y else if x < y then y else x

/-! ## Constants -/

/-- Positive infinity. -/
def infinity : Float := Float.ofBits 0x7ff0000000000000

/-- A NaN. -/
def nan : Float := Float.ofBits 0x7ff8000000000000

end Binary64

end BenchReport
