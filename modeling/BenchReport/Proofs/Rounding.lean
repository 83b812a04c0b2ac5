import Mathlib
import BenchReport.Proofs.Words

/-!
# One rounding

Every operation on doubles computes an exact number and rounds it once.  This module says that the
result is the nearest double (`Nearest y z`), and of two that are equally near the even one.  Most
proofs about doubles need less than that, which is `Rounds y z`: the result `z` is off from the exact
`y` by at most one part in `2 ^ 53` of it, and by `2 ^ -1075` where doubles are at their densest; and
a whole number below `2 ^ 53` is not changed at all.

The rounding works on a natural number of units `2 ^ e` with two bits that tell what was cut off
below it (`CutFrom`).  Shifting it right keeps what the two bits tell (`CutFrom.shiftRight`), so the
one rounding step behind the shift is correct for the number at the start
(`CutFrom.abs_rounded_sub_le`, `CutFrom.even_of_tie`).

`Denotes` asks for the form in which doubles are packed: at most 53 bits, and exactly as many unless
the exponent is the smallest one.  A result of rounding is in this form (`exists_roundWithAccuracy`).
-/

namespace BenchReport
namespace Binary64

open Float.Model (UnpackedFloat Format totalExponent)
open Float.Model.UnpackedFloat

/-! ## Numbers that were cut -/

/-- What the accuracy of a cut tells about the part that was cut off, in units of the last place. -/
def Tells : Accuracy → ℚ → Prop
  | .exact, part => part = 0
  | .inexact .lt, part => 0 < part ∧ part < 1 / 2
  | .inexact .eq, part => part = 1 / 2
  | .inexact .gt, part => 1 / 2 < part ∧ part < 1

/-- The mantissa is what remains of the number `x`, and its two bits tell the rest. -/
def CutFrom (em : ExtendedMantissa) (x : ℚ) : Prop := Tells em.accuracy (x - em.mantissa)

lemma Tells.bounds {accuracy : Accuracy} {part : ℚ} (h : Tells accuracy part) :
    0 ≤ part ∧ part < 1 := by
  cases accuracy with
  | exact =>
    rw [Tells] at h
    constructor <;> linarith
  | inexact side =>
    cases side <;> rw [Tells] at h <;> constructor <;> linarith

lemma cutFrom_ofMantissaAndAccuracy {m : ℕ} {accuracy : Accuracy} {x : ℚ}
    (h : Tells accuracy (x - m)) :
    CutFrom (ExtendedMantissa.ofMantissaAndAccuracy m accuracy) x := by
  cases accuracy with
  | exact => exact h
  | inexact side => cases side <;> exact h

lemma CutFrom.shiftRightOne {em : ExtendedMantissa} {x : ℚ} (h : CutFrom em x) :
    CutFrom em.shiftRightOne (x / 2) := by
  obtain ⟨m, roundBit, stickyBit⟩ := em
  have hm : ((m / 2 : ℕ) : ℚ) = ((m : ℚ) - (m % 2 : ℕ)) / 2 := by
    have hsplit : ((m % 2 + 2 * (m / 2) : ℕ) : ℚ) = m := by rw [Nat.mod_add_div]
    push_cast at hsplit
    linarith
  rw [CutFrom, ExtendedMantissa.shiftRightOne, hm]
  rw [CutFrom] at h
  -- the last bit of the mantissa becomes the round bit, and the two old bits become one
  rcases Nat.mod_two_eq_zero_or_one m with hbit | hbit
  · have hround : (m % 2 != 0) = false := by simp [hbit]
    rw [hround, hbit]
    cases roundBit <;> cases stickyBit <;>
      simp only [ExtendedMantissa.accuracy, Tells, Bool.or_false, Bool.or_true, Nat.cast_zero] at h ⊢ <;>
      first | linarith | constructor <;> linarith
  · have hround : (m % 2 != 0) = true := by simp [hbit]
    rw [hround, hbit]
    cases roundBit <;> cases stickyBit <;>
      simp only [ExtendedMantissa.accuracy, Tells, Bool.or_false, Bool.or_true, Nat.cast_one] at h ⊢ <;>
      first | linarith | constructor <;> linarith

lemma CutFrom.shiftRight {em : ExtendedMantissa} {x : ℚ} (h : CutFrom em x) (n : ℕ) :
    CutFrom (em >>> n) (x / 2 ^ n) := by
  show CutFrom (n.repeat ExtendedMantissa.shiftRightOne em) _
  induction n with
  | zero => simpa [Nat.repeat] using h
  | succ n ih =>
    rw [Nat.repeat, pow_succ, ← div_div]
    exact ih.shiftRightOne

/-- The rounded mantissa is the mantissa or the next number, and no other one is nearer. -/
lemma CutFrom.abs_rounded_sub_le {em : ExtendedMantissa} {x : ℚ} (h : CutFrom em x) :
    |(em.roundedMantissa : ℚ) - x| ≤ 1 / 2 ∧ em.mantissa ≤ em.roundedMantissa ∧
      em.roundedMantissa ≤ em.mantissa + 1 := by
  obtain ⟨m, roundBit, stickyBit⟩ := em
  rw [CutFrom] at h
  rw [abs_le]
  cases roundBit <;> cases stickyBit <;>
    simp only [ExtendedMantissa.accuracy, Tells, ExtendedMantissa.roundedMantissa,
      Accuracy.roundToNearestEven] at h ⊢
  · exact ⟨⟨by linarith, by linarith⟩, by omega, by omega⟩
  · exact ⟨⟨by linarith, by linarith⟩, by omega, by omega⟩
  · rcases Nat.mod_two_eq_zero_or_one m with hbit | hbit <;> rw [hbit] <;> push_cast <;>
      exact ⟨⟨by linarith, by linarith⟩, by omega, by omega⟩
  · push_cast
    exact ⟨⟨by linarith, by linarith⟩, by omega, by omega⟩

/-- Of two numbers that are equally near, the even one is taken. -/
lemma CutFrom.even_of_tie {em : ExtendedMantissa} {x : ℚ} (h : CutFrom em x)
    (htie : |(em.roundedMantissa : ℚ) - x| = 1 / 2) : Even em.roundedMantissa := by
  obtain ⟨m, roundBit, stickyBit⟩ := em
  rw [CutFrom] at h
  cases roundBit <;> cases stickyBit <;>
    simp only [ExtendedMantissa.accuracy, Tells, ExtendedMantissa.roundedMantissa,
      Accuracy.roundToNearestEven] at h htie ⊢
  · have hzero : (m : ℚ) - x = 0 := by linarith
    rw [hzero, abs_zero] at htie
    norm_num at htie
  · rw [abs_sub_comm, abs_of_pos h.1] at htie
    exact absurd htie h.2.ne
  · rw [Nat.even_iff]
    omega
  · push_cast at htie
    rw [abs_of_pos (by linarith)] at htie
    exact absurd htie (by linarith)

/-! ## The form of a double -/

/-- The number that an unpacked double stands for, which has to be in the form in which it is packed:
with 53 bits, or with the smallest exponent. -/
def Denotes : UnpackedFloat → ℚ → Prop
  | .zero _, q => q = 0
  | .finite sign m e _, q =>
    (m < 2 ^ 53 ∧ -1074 ≤ e ∧ (2 ^ 52 ≤ m ∨ e = -1074)) ∧ q = sign.apply m * 2 ^ e
  | _, _ => False

/-- The exponent that `m` units `2 ^ e` are rounded to. -/
def target (m : ℕ) (e : ℤ) : ℤ := Format.binary64.targetExponent (totalExponent m e)

lemma target_eq (m : ℕ) (e : ℤ) : target m e = max (m.log2 + 1 + e - 53) (-1074) := rfl

lemma shiftToTargetExponent_of_le {m : ℕ} {e : ℤ} (accuracy : Accuracy) (h : e ≤ target m e) :
    shiftToTargetExponent .binary64 m e accuracy =
      (ExtendedMantissa.ofMantissaAndAccuracy m accuracy >>> (target m e - e).toNat, target m e) := by
  have hexponent : e + ((target m e - e).toNat : ℤ) = target m e := by omega
  rw [shiftToTargetExponent, shiftToExponent]
  exact Prod.ext rfl hexponent

lemma denotes_of_fits (sign : Sign) {m : ℕ} {e : ℤ} (hm : m < 2 ^ 53) (he : -1074 ≤ e)
    (hlow : 2 ^ 52 ≤ m ∨ e = -1074) :
    Denotes (if h : m = 0 then .zero sign else .finite sign m e (Nat.pos_of_ne_zero h))
      (sign.apply m * 2 ^ e) := by
  by_cases h : m = 0
  · subst h
    rw [dif_pos rfl, Denotes]
    cases sign <;> simp [Sign.apply]
  · rw [dif_neg h]
    exact ⟨⟨hm, he, hlow⟩, rfl⟩

/-- A mantissa that fits is not shifted, and one that is too large by one is shifted once. -/
lemma denotes_carry (sign : Sign) {r : ℕ} {t : ℤ} (hr : r ≤ 2 ^ 53) (ht : -1074 ≤ t)
    (hlow : 2 ^ 52 ≤ r ∨ t = -1074) :
    Denotes
      (if h : (shiftToTargetExponent .binary64 r t .exact).1.mantissa = 0 then .zero sign
      else .finite sign (shiftToTargetExponent .binary64 r t .exact).1.mantissa
        (shiftToTargetExponent .binary64 r t .exact).2 (Nat.pos_of_ne_zero h))
      (sign.apply r * 2 ^ t) := by
  rcases hr.lt_or_eq with hfits | rfl
  · have hlog : r.log2 < 53 := by
      rcases Nat.eq_zero_or_pos r with rfl | hpos
      · decide
      · exact (Nat.log2_lt hpos.ne').mpr hfits
    have htarget : target r t ≤ t := by
      rw [target_eq]
      omega
    have hnone : (target r t - t).toNat = 0 := by omega
    have hshift : shiftToTargetExponent .binary64 r t .exact =
        (ExtendedMantissa.ofMantissaAndAccuracy r .exact >>> (target r t - t).toNat,
          t + ((target r t - t).toNat : ℤ)) := rfl
    rw [hnone] at hshift
    have hmantissa : (shiftToTargetExponent .binary64 r t .exact).1.mantissa = r := by
      rw [hshift]
      rfl
    have hexponent : (shiftToTargetExponent .binary64 r t .exact).2 = t := by
      rw [hshift]
      exact add_zero t
    simp only [hmantissa, hexponent]
    exact denotes_of_fits sign hfits ht hlow
  -- the rounding has carried into one bit more, and a shift by one drops a zero
  · have htarget : target (2 ^ 53) t = t + 1 := by
      rw [target_eq, Nat.log2_two_pow]
      omega
    have hle : t ≤ target (2 ^ 53) t := by omega
    have hshift := shiftToTargetExponent_of_le .exact hle
    have hone : (t + 1 - t).toNat = 1 := by omega
    rw [htarget, hone] at hshift
    have hmantissa : (shiftToTargetExponent .binary64 (2 ^ 53) t .exact).1.mantissa = 2 ^ 52 := by
      rw [hshift, mantissa_shiftRight]
      decide
    have hexponent : (shiftToTargetExponent .binary64 (2 ^ 53) t .exact).2 = t + 1 := by
      rw [hshift]
    have hvalue : sign.apply ((2 ^ 53 : ℕ) : ℤ) * (2 : ℚ) ^ t =
        sign.apply ((2 ^ 52 : ℕ) : ℤ) * (2 : ℚ) ^ (t + 1) := by
      rw [zpow_add_one₀ two_ne_zero]
      cases sign <;> simp only [Sign.apply] <;> push_cast <;> ring
    simp only [hmantissa, hexponent, hvalue]
    exact denotes_of_fits sign (by norm_num) (by omega) (.inl le_rfl)

/-- Rounding is correct to half a unit of the exponent that it rounds to. -/
lemma exists_roundWithAccuracy (sign : Sign) {m : ℕ} {e : ℤ} {accuracy : Accuracy} {x : ℚ}
    (h : Tells accuracy (x - m)) (he : e ≤ target m e) :
    ∃ r : ℕ, |(r : ℚ) - x * 2 ^ (e - target m e)| ≤ 1 / 2 ∧
      (|(r : ℚ) - x * 2 ^ (e - target m e)| = 1 / 2 → Even r) ∧
      Denotes (roundWithAccuracy .binary64 sign m e accuracy)
        (sign.apply r * 2 ^ target m e) := by
  have hshift := shiftToTargetExponent_of_le accuracy he
  set n := (target m e - e).toNat with hn
  set em := ExtendedMantissa.ofMantissaAndAccuracy m accuracy >>> n with hem
  have hcut : CutFrom em (x / 2 ^ n) := (cutFrom_ofMantissaAndAccuracy h).shiftRight n
  have hpow : x / 2 ^ n = x * 2 ^ (e - target m e) := by
    have hexp : e - target m e = -(n : ℤ) := by omega
    rw [hexp, zpow_neg, zpow_natCast, div_eq_mul_inv]
  obtain ⟨hnear, hmantissa, hnext⟩ := hcut.abs_rounded_sub_le
  have heven := hcut.even_of_tie
  rw [hpow] at hnear heven
  refine ⟨em.roundedMantissa, hnear, heven, ?_⟩
  have hm : em.mantissa = m / 2 ^ n := by
    rw [hem, mantissa_shiftRight]
    cases accuracy with
    | exact => rfl
    | inexact side => cases side <;> rfl
  have htarget := target_eq m e
  have hupper : em.mantissa < 2 ^ 53 := by
    rw [hm, Nat.div_lt_iff_lt_mul (by positivity), ← pow_add]
    exact (Nat.lt_log2_self).trans_le (Nat.pow_le_pow_right (by norm_num) (by omega))
  have hlower : 2 ^ 52 ≤ em.mantissa ∨ target m e = -1074 := by
    by_cases hmin : target m e = -1074
    · exact .inr hmin
    · left
      have hne : m ≠ 0 := by
        rintro rfl
        rw [Nat.log2_zero] at htarget
        omega
      rw [hm, Nat.le_div_iff_mul_le (by positivity), ← pow_add]
      exact (Nat.pow_le_pow_right (by norm_num) (by omega)).trans (Nat.log2_self_le hne)
  rw [roundWithAccuracy, hshift]
  exact denotes_carry sign (by omega) (by omega) (hlower.imp_left (le_trans · hmantissa))

/-! ## The nearest double -/

/-- The number `r * 2 ^ t` is the double that is nearest to `y`: the exponent is that of the doubles
around `y`, no multiple of its unit is nearer, and of two that are equally near it is the even one. -/
structure IsNearest (y : ℚ) (r t : ℤ) : Prop where
  min : -1074 ≤ t
  upper : |y| < 2 ^ (t + 53)
  lower : 2 ^ (t + 52) ≤ |y| ∨ t = -1074
  near : |r - y / 2 ^ t| ≤ 1 / 2
  even : |r - y / 2 ^ t| = 1 / 2 → Even r

/-- The number `z` is the double that is nearest to `y`. -/
def Nearest (y z : ℚ) : Prop := ∃ r t : ℤ, IsNearest y r t ∧ z = r * 2 ^ t

lemma Nearest.neg {y z : ℚ} (h : Nearest y z) : Nearest (-y) (-z) := by
  obtain ⟨r, t, ⟨hmin, hupper, hlower, hnear, heven⟩, rfl⟩ := h
  have hdiff : |((-r : ℤ) : ℚ) - -y / 2 ^ t| = |r - y / 2 ^ t| := by
    rw [← abs_neg]
    congr 1
    push_cast
    ring
  refine ⟨-r, t, ⟨hmin, by rwa [abs_neg], by rwa [abs_neg], by rwa [hdiff], fun htie => ?_⟩, ?_⟩
  · rw [hdiff] at htie
    exact (heven htie).neg
  · push_cast
    ring

lemma nearest_zero : Nearest 0 0 :=
  ⟨0, -1074, ⟨le_rfl, by rw [abs_zero]; positivity, .inr rfl, by norm_num, by norm_num⟩, by simp⟩

/-- A double is nearest to itself. -/
lemma Denotes.nearest {u : UnpackedFloat} {q : ℚ} (h : Denotes u q) : Nearest q q := by
  cases u with
  | notANumber => exact h.elim
  | infinity sign => exact h.elim
  | zero sign =>
    obtain rfl : q = 0 := h
    exact nearest_zero
  | finite sign m e hm =>
    obtain ⟨⟨hupper, hmin, hlow⟩, rfl⟩ := h
    have hunit : (0 : ℚ) < 2 ^ e := by positivity
    have habs : |((sign.apply m : ℤ) : ℚ) * 2 ^ e| = m * 2 ^ e := by
      rw [abs_mul, abs_of_pos hunit]
      cases sign <;> simp [Sign.apply]
    have hexact : ((sign.apply m : ℤ) : ℚ) - (sign.apply m : ℤ) * 2 ^ e / 2 ^ e = 0 := by
      rw [mul_div_assoc, div_self hunit.ne', mul_one, sub_self]
    refine ⟨sign.apply m, e, ⟨hmin, ?_, ?_, ?_, ?_⟩, rfl⟩
    · rw [habs, add_comm, zpow_add₀ two_ne_zero]
      gcongr
      exact_mod_cast hupper
    · rw [habs, add_comm, zpow_add₀ two_ne_zero]
      refine hlow.imp_left fun hfull => ?_
      gcongr
      exact_mod_cast hfull
    · rw [hexact, abs_zero]
      norm_num
    · rw [hexact, abs_zero]
      norm_num

/-- Away from the smallest exponent, the target is 52 places below the leading bit. -/
lemma target_eq_or {m : ℕ} {e : ℤ} (he : e ≤ target m e) :
    target m e = -1074 ∨ m ≠ 0 ∧ target m e = m.log2 + e - 52 := by
  have htarget := target_eq m e
  by_cases hmin : target m e = -1074
  · exact .inl hmin
  · refine .inr ⟨?_, by omega⟩
    rintro rfl
    rw [Nat.log2_zero] at htarget
    omega

/-- A number with a cut has as many bits as its mantissa. -/
lemma lt_two_pow_log2 {m : ℕ} {x : ℚ} (h : x - m < 1) : x < 2 ^ ((m.log2 : ℤ) + 1) := by
  have hnext : ((m + 1 : ℕ) : ℚ) ≤ 2 ^ (m.log2 + 1) := by
    exact_mod_cast Nat.lt_log2_self (n := m)
  push_cast at hnext
  calc
    x < m + 1 := by linarith
    _ ≤ 2 ^ (m.log2 + 1) := hnext
    _ = 2 ^ ((m.log2 : ℤ) + 1) := by norm_cast

lemma log2_le_of_le {m : ℕ} {x : ℚ} (hne : m ≠ 0) (hm : (m : ℚ) ≤ x) :
    (2 : ℚ) ^ (m.log2 : ℤ) ≤ x := by
  refine le_trans ?_ hm
  rw [zpow_natCast]
  exact_mod_cast Nat.log2_self_le hne

/-- A number that was cut is rounded to the nearest double. -/
lemma exists_nearest_roundWithAccuracy (sign : Sign) {m : ℕ} {e : ℤ} {accuracy : Accuracy} {x : ℚ}
    (h : Tells accuracy (x - m)) (he : e ≤ target m e) :
    ∃ z, Denotes (roundWithAccuracy .binary64 sign m e accuracy) z ∧
      Nearest ((sign.apply 1 : ℤ) * (x * 2 ^ e)) z := by
  obtain ⟨r, hnear, heven, hdenotes⟩ := exists_roundWithAccuracy sign h he
  obtain ⟨hle, hlt⟩ := h.bounds
  have hunit : (0 : ℚ) < 2 ^ e := by positivity
  have hx : 0 ≤ x := by
    have : (0 : ℚ) ≤ m := Nat.cast_nonneg m
    linarith
  have habs : |x * 2 ^ e| = x * 2 ^ e := abs_of_nonneg (by positivity)
  have hquotient : x * 2 ^ e / 2 ^ target m e = x * 2 ^ (e - target m e) := by
    rw [mul_div_assoc, zpow_sub₀ two_ne_zero]
  have htarget := target_eq m e
  have hpositive : Nearest (x * 2 ^ e) (r * 2 ^ target m e) := by
    refine ⟨r, target m e, ⟨by omega, ?_, ?_, ?_, ?_⟩, by norm_cast⟩
    · calc
        |x * 2 ^ e| = x * 2 ^ e := habs
        _ < 2 ^ ((m.log2 : ℤ) + 1) * 2 ^ e := by gcongr; exact lt_two_pow_log2 hlt
        _ = 2 ^ ((m.log2 : ℤ) + 1 + e) := (zpow_add₀ two_ne_zero _ _).symm
        _ ≤ 2 ^ (target m e + 53) := zpow_le_zpow_right₀ one_le_two (by omega)
    · rcases target_eq_or he with hmin | ⟨hne, hexp⟩
      · exact .inr hmin
      · left
        have hsplit : target m e + 52 = (m.log2 : ℤ) + e := by omega
        rw [habs, hsplit, zpow_add₀ two_ne_zero]
        gcongr
        exact log2_le_of_le hne (by linarith)
    · rw [hquotient]
      exact_mod_cast hnear
    · rw [hquotient]
      exact fun htie => (Int.even_coe_nat r).mpr (heven (by exact_mod_cast htie))
  refine ⟨_, hdenotes, ?_⟩
  cases sign with
  | positive => simpa [Sign.apply] using hpositive
  | negative => simpa [Sign.apply] using hpositive.neg

/-! ## The error of a rounding -/

/-- Half of the distance between doubles where they are at their densest. -/
def tiny : ℚ := 2 ^ (-1075 : ℤ)

lemma tiny_pos : 0 < tiny := by
  rw [tiny]
  positivity

/-- The number `z` is what a double makes of the exact number `y`. -/
def Rounds (y z : ℚ) : Prop :=
  |z - y| ≤ |y| / 2 ^ 53 + tiny ∧ ∀ n : ℤ, y = n → |n| < 2 ^ 53 → z = y

lemma Rounds.refl (y : ℚ) : Rounds y y := by
  refine ⟨?_, fun _ _ _ => rfl⟩
  rw [sub_self, abs_zero]
  have := tiny_pos
  positivity

lemma Rounds.neg {y z : ℚ} (h : Rounds y z) : Rounds (-y) (-z) := by
  obtain ⟨herror, hwhole⟩ := h
  refine ⟨?_, fun n hn hlt => ?_⟩
  · rwa [abs_neg, ← neg_sub', abs_neg]
  · rw [hwhole (-n) (by push_cast; linarith) (by rwa [abs_neg])]

/-- Two whole numbers that are at most one half apart are equal. -/
lemma eq_of_abs_sub_le_half {a b : ℤ} (h : |(a : ℚ) - b| ≤ 1 / 2) : a = b := by
  have hlt : |((a - b : ℤ) : ℚ)| < 1 := by
    push_cast
    linarith
  have hzero : |a - b| < 1 := by exact_mod_cast hlt
  have := Int.abs_lt_one_iff.mp hzero
  omega

section Nearest

variable {y : ℚ} {r t : ℤ}

/-- Half a unit of the exponent is small against the number that is rounded. -/
lemma IsNearest.half_unit_le (h : IsNearest y r t) : (2 : ℚ) ^ t / 2 ≤ |y| / 2 ^ 53 + tiny := by
  have htiny := tiny_pos
  rcases h.lower with hlower | rfl
  · have hpow : (2 : ℚ) ^ t / 2 = 2 ^ (t + 52) / 2 ^ 53 := by
      rw [zpow_add₀ two_ne_zero]
      norm_num
      ring
    calc
      (2 : ℚ) ^ t / 2 = 2 ^ (t + 52) / 2 ^ 53 := hpow
      _ ≤ |y| / 2 ^ 53 := by gcongr
      _ ≤ |y| / 2 ^ 53 + tiny := le_add_of_nonneg_right htiny.le
  · have hsmall : (2 : ℚ) ^ (-1074 : ℤ) / 2 = tiny := by
      have hexp : (-1075 : ℤ) = -1074 - 1 := by norm_num
      rw [tiny, hexp, zpow_sub_one₀ two_ne_zero, div_eq_mul_inv]
    rw [hsmall]
    exact le_add_of_nonneg_left (by positivity)

lemma IsNearest.abs_sub_le (h : IsNearest y r t) : |r * 2 ^ t - y| ≤ 2 ^ t / 2 := by
  have hunit : (0 : ℚ) < 2 ^ t := by positivity
  have hsplit : (r : ℚ) * 2 ^ t - y = (r - y / 2 ^ t) * 2 ^ t := by
    rw [sub_mul, div_mul_cancel₀ _ hunit.ne']
  calc
    |(r : ℚ) * 2 ^ t - y| = |r - y / 2 ^ t| * 2 ^ t := by rw [hsplit, abs_mul, abs_of_pos hunit]
    _ ≤ 1 / 2 * 2 ^ t := by gcongr; exact h.near
    _ = 2 ^ t / 2 := by ring

/-- A whole number below `2 ^ 53` has no bits below the exponent. -/
lemma IsNearest.exponent_nonpos (h : IsNearest y r t) (hy : |y| < 2 ^ 53) : t ≤ 0 := by
  rcases h.lower with hlower | rfl
  · have hlt : (2 : ℚ) ^ (t + 52) < 2 ^ (53 : ℤ) := hlower.trans_lt (by exact_mod_cast hy)
    have := (zpow_lt_zpow_iff_right₀ one_lt_two).mp hlt
    omega
  · norm_num

end Nearest

lemma Nearest.rounds {y z : ℚ} (h : Nearest y z) : Rounds y z := by
  obtain ⟨r, t, h, rfl⟩ := h
  refine ⟨h.abs_sub_le.trans h.half_unit_le, fun n hn hlt => ?_⟩
  subst hn
  have hbound : |(n : ℚ)| < 2 ^ 53 := by exact_mod_cast hlt
  have hnonpos := h.exponent_nonpos hbound
  obtain ⟨k, hk⟩ := Int.eq_ofNat_of_zero_le (a := -t) (by omega)
  have hpow : (2 : ℚ) ^ t = (2 ^ k)⁻¹ := by
    have ht : t = -(k : ℤ) := by omega
    rw [ht, zpow_neg, zpow_natCast]
  have hunits : (n : ℚ) / 2 ^ t = ((n * 2 ^ k : ℤ) : ℚ) := by
    rw [hpow, div_inv_eq_mul]
    push_cast
    rfl
  have hr : r = n * 2 ^ k := by
    apply eq_of_abs_sub_le_half
    rw [← hunits]
    exact h.near
  rw [hr, hpow]
  push_cast
  exact mul_inv_cancel_right₀ (by positivity) _

/-- A signed number that was cut is rounded. -/
lemma exists_rounds_roundWithAccuracy (sign : Sign) {m : ℕ} {e : ℤ} {accuracy : Accuracy} {x : ℚ}
    (h : Tells accuracy (x - m)) (he : e ≤ target m e) :
    ∃ z, Denotes (roundWithAccuracy .binary64 sign m e accuracy) z ∧
      Rounds ((sign.apply 1 : ℤ) * (x * 2 ^ e)) z := by
  obtain ⟨z, hdenotes, hnearest⟩ := exists_nearest_roundWithAccuracy sign h he
  exact ⟨z, hdenotes, hnearest.rounds⟩

/-! ## Rounding with a sign -/

lemma cast_apply (sign : Sign) (n : ℤ) :
    ((sign.apply n : ℤ) : ℚ) = (sign.apply 1 : ℤ) * n := by
  cases sign <;> simp [Sign.apply]

lemma decreaseExponent_eq {m : ℕ} {e t : ℤ} (k : ℕ) (h : e - t = k) :
    decreaseExponent m e t = (m * 2 ^ k, t) := by
  have hk : (e - t).toNat = k := by omega
  rw [decreaseExponent, hk, Nat.shiftLeft_eq]
  exact Prod.ext rfl (by omega)

lemma log2_mul_two_pow {m : ℕ} (hm : 0 < m) (k : ℕ) : (m * 2 ^ k).log2 = m.log2 + k := by
  induction k with
  | zero => simp
  | succ k ih =>
    have hdouble : m * 2 ^ (k + 1) = 2 * (m * 2 ^ k) := by ring
    rw [hdouble, Nat.log2_two_mul (by positivity), ih, add_assoc]

/-- A natural number of units is rounded, whether its exponent is too large or too small. -/
lemma exists_nearest_round (sign : Sign) {m : ℕ} (hm : 0 < m) (e : ℤ) :
    ∃ z, Denotes (UnpackedFloat.round .binary64 sign m e) z ∧
      Nearest ((sign.apply 1 : ℤ) * (m * 2 ^ e)) z := by
  rw [UnpackedFloat.round]
  by_cases hle : e ≤ target m e
  · have hnone : decreaseExponent m e (Format.binary64.targetExponent (totalExponent m e)) =
        (m, e) := by
      have hk : (e - target m e).toNat = 0 := by omega
      show (m <<< (e - target m e).toNat, e - ((e - target m e).toNat : ℤ)) = (m, e)
      rw [hk]
      simp
    rw [hnone]
    exact exists_nearest_roundWithAccuracy sign (sub_self _) hle
  · obtain ⟨k, hk⟩ := Int.eq_ofNat_of_zero_le (a := e - target m e) (by omega)
    have hdecrease : decreaseExponent m e (Format.binary64.targetExponent (totalExponent m e)) =
        (m * 2 ^ k, target m e) := decreaseExponent_eq k hk
    have hlog := log2_mul_two_pow hm k
    have htarget : target (m * 2 ^ k) (target m e) = target m e := by
      rw [target_eq, hlog, target_eq m e]
      have := target_eq m e
      push_cast
      omega
    have hvalue : (m : ℚ) * 2 ^ e = ((m * 2 ^ k : ℕ) : ℚ) * 2 ^ target m e := by
      have he : e = (k : ℤ) + target m e := by omega
      conv_lhs => rw [he, zpow_add₀ two_ne_zero, zpow_natCast]
      push_cast
      ring
    rw [hdecrease, hvalue]
    exact exists_nearest_roundWithAccuracy sign (sub_self _) htarget.ge

/-- An integer number of units is rounded. -/
lemma exists_nearest_normalize (n : ℤ) (e : ℤ) (zeroSign : Sign) :
    ∃ z, Denotes (UnpackedFloat.normalize .binary64 n e zeroSign) z ∧ Nearest (n * 2 ^ e) z := by
  rw [UnpackedFloat.normalize]
  rcases lt_trichotomy n 0 with hneg | rfl | hpos
  · have hcompare : compare n 0 = .lt := Int.compare_eq_lt.mpr hneg
    obtain ⟨z, hdenotes, hnearest⟩ := exists_nearest_round .negative (m := (-n).toNat) (by omega) e
    have hn : (((-n).toNat : ℕ) : ℚ) = -n := by
      exact_mod_cast Int.toNat_of_nonneg (a := -n) (by omega)
    rw [hcompare]
    refine ⟨z, hdenotes, ?_⟩
    simpa [Sign.apply, hn] using hnearest
  · exact ⟨0, rfl, by simpa using nearest_zero⟩
  · have hcompare : compare n 0 = .gt := Int.compare_eq_gt.mpr hpos
    obtain ⟨z, hdenotes, hnearest⟩ := exists_nearest_round .positive (m := n.toNat) (by omega) e
    have hn : ((n.toNat : ℕ) : ℚ) = n := by
      exact_mod_cast Int.toNat_of_nonneg (a := n) (by omega)
    rw [hcompare]
    refine ⟨z, hdenotes, ?_⟩
    simpa [Sign.apply, hn] using hnearest

end Binary64
end BenchReport
