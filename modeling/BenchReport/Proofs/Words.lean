import Mathlib
import BenchReport.Number.Binary64

/-!
# Doubles as 64 bit integers

A report takes the fraction off a double in integer arithmetic of its own (`Binary64.toWord`), while
core has a conversion to 64 bit integers that shifts mantissas.  The two agree on every double
(`Binary64.toWord_eq_toInt64`): NaN becomes zero, and what is out of range the nearest end of it.
-/

namespace BenchReport
namespace Binary64

open Float.Model (UnpackedFloat)
open Float.Model.UnpackedFloat

/-- Shifting an extended mantissa divides the mantissa, whatever becomes of its two bits. -/
lemma mantissa_shiftRight (em : ExtendedMantissa) (n : ℕ) :
    (em >>> n).mantissa = em.mantissa / 2 ^ n := by
  show (n.repeat ExtendedMantissa.shiftRightOne em).mantissa = _
  induction n with
  | zero => simp [Nat.repeat]
  | succ n ih =>
    rw [Nat.repeat, ExtendedMantissa.shiftRightOne, ih, Nat.div_div_eq_div_mul, pow_succ]

/-- The shifts of core lead to the number without its fraction. -/
lemma roundToInt_eq (sign : Sign) (m : ℕ) (e : ℤ) :
    roundToInt sign m e = towardZero (isNegative sign) m e := by
  have hsigned : ∀ n : ℕ, sign.apply n = signed (isNegative sign) n := by
    intro n
    cases sign <;> rfl
  simp only [roundToInt, decreaseExponent, shiftToExponent, mantissa_shiftRight, hsigned,
    towardZero, wholePart]
  congr 1
  simp only [ExtendedMantissa.ofMantissaAndAccuracy]
  split_ifs with h
  · have : (0 - (e - ((e - 0).toNat : ℤ))).toNat = 0 := by omega
    rw [this, Nat.shiftLeft_eq]
    simp
  · have h1 : (e - 0).toNat = 0 := by omega
    have h2 : (0 - (e - ((e - 0).toNat : ℤ))).toNat = (-e).toNat := by omega
    rw [h2, h1]
    simp

lemma toInt_ofIntClamp (n : ℤ) : (Int64.ofIntClamp n).toInt = clamp minWord maxWord n := by
  have hmin : Int64.minValue.toInt = minWord := by decide
  have hmax : Int64.maxValue.toInt = maxWord := by decide
  unfold Int64.ofIntClamp
  split_ifs with hlo hhi
  · rw [Int64.toInt_ofIntLE]
    rw [hmin] at hlo
    rw [hmax] at hhi
    unfold clamp
    omega
  · rw [hmax] at hhi ⊢
    unfold clamp minWord
    unfold maxWord at hhi ⊢
    omega
  · rw [hmin] at hlo ⊢
    unfold clamp maxWord
    unfold minWord at hlo ⊢
    omega

theorem toWord_eq_toInt64 (x : Float) : toWord x = x.toModel.toInt64.toInt := by
  show _ = (Int64.ofIntClamp (x.toModel.unpack.toInt _ _)).toInt
  rw [toInt_ofIntClamp, toWord, clampWhole, value]
  cases x.toModel.unpack with
  | notANumber => rfl
  | infinity sign => cases sign <;> rfl
  | zero sign =>
    cases sign <;> rfl
  | finite sign m e h => simp only [UnpackedFloat.toInt, roundToInt_eq]

end Binary64
end BenchReport
