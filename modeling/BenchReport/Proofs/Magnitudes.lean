import BenchReport.Proofs.Doubles

/-!
# Doubles by size

A double that stands for a rational number is finite (`Valued.isFinite`), and two such doubles are in
the order of what they stand for (`Valued.lt_iff`): in the form in which doubles are packed, the
larger exponent belongs to the larger number, and only between equal exponents the mantissas decide.

Whole numbers from `2 ^ 53` on become doubles as well, though not all of them without loss
(`exists_valued_ofInt`).
-/

namespace BenchReport
namespace Binary64

open Float.Model (UnpackedFloat Format totalExponent)
open Float.Model.UnpackedFloat

/-! ## Finite doubles -/

section Finite

variable {x y : Float} {a b : ℚ}

lemma Valued.isFinite (h : Valued x a) : x.isFinite = true := by
  rw [Valued] at h
  show x.toModel.unpack.isFinite = true
  cases hunpack : x.toModel.unpack <;> rw [hunpack] at h <;> first | rfl | exact h.elim

lemma Valued.isNaN (h : Valued x a) : x.isNaN = false := by
  rw [Valued] at h
  show x.toModel.unpack.isNaN = false
  cases hunpack : x.toModel.unpack <;> rw [hunpack] at h <;> first | rfl | exact h.elim

end Finite

/-! ## Order -/

/-- Of two numbers in packed form, the one with the larger exponent is the larger one. -/
lemma mul_zpow_lt_of_exponent_lt {m m' : ℕ} {e e' : ℤ} (hupper : m < 2 ^ 53) (hmin : -1074 ≤ e)
    (hlow : 2 ^ 52 ≤ m' ∨ e' = -1074) (he : e < e') : (m : ℚ) * 2 ^ e < m' * 2 ^ e' := by
  have hm : (m : ℚ) < 2 ^ 53 := by exact_mod_cast hupper
  have hm' : (2 : ℚ) ^ 52 ≤ m' := by exact_mod_cast hlow.resolve_right (by omega)
  calc
    (m : ℚ) * 2 ^ e < 2 ^ 53 * 2 ^ e := by gcongr
    _ = 2 ^ 52 * 2 ^ (e + 1) := by rw [zpow_add_one₀ two_ne_zero]; ring
    _ ≤ 2 ^ 52 * 2 ^ e' := by gcongr; norm_num; omega
    _ ≤ m' * 2 ^ e' := by gcongr

/-- Numbers in packed form are compared by their exponents and then by their mantissas. -/
lemma compare_parts_eq_lt {m m' : ℕ} {e e' : ℤ} (hupper : m < 2 ^ 53) (hupper' : m' < 2 ^ 53)
    (hmin : -1074 ≤ e) (hmin' : -1074 ≤ e') (hlow : 2 ^ 52 ≤ m ∨ e = -1074)
    (hlow' : 2 ^ 52 ≤ m' ∨ e' = -1074) :
    (compare e e').then (compare m m') = .lt ↔ (m : ℚ) * 2 ^ e < m' * 2 ^ e' := by
  rcases lt_trichotomy e e' with hlt | rfl | hgt
  · rw [Int.compare_eq_lt.mpr hlt]
    exact iff_of_true rfl (mul_zpow_lt_of_exponent_lt hupper hmin hlow' hlt)
  · rw [Int.compare_eq_eq.mpr rfl, mul_lt_mul_iff_left₀ (by positivity), Nat.cast_lt]
    exact Nat.compare_eq_lt
  · rw [Int.compare_eq_gt.mpr hgt]
    have hle := (mul_zpow_lt_of_exponent_lt hupper' hmin' hlow hgt).le
    exact iff_of_false (by simp) (not_lt.mpr hle)

lemma Denotes.lt_iff {u v : UnpackedFloat} {a b : ℚ} (hu : Denotes u a) (hv : Denotes v b) :
    u.lt v = true ↔ a < b := by
  cases u with
  | notANumber => exact hu.elim
  | infinity s => exact hu.elim
  | zero s =>
    obtain rfl : a = 0 := hu
    cases v with
    | notANumber => exact hv.elim
    | infinity s' => exact hv.elim
    | zero s' =>
      obtain rfl : b = 0 := hv
      exact iff_of_false (by simp [UnpackedFloat.lt, UnpackedFloat.compare]) (lt_irrefl 0)
    | finite s' m' e' hm' =>
      obtain ⟨-, rfl⟩ := hv
      have hpos : (0 : ℚ) < m' * 2 ^ e' := by positivity
      cases s' with
      | positive =>
        refine iff_of_true (by simp [UnpackedFloat.lt, UnpackedFloat.compare]) ?_
        simpa [Sign.apply] using hpos
      | negative =>
        refine iff_of_false (by simp [UnpackedFloat.lt, UnpackedFloat.compare]) ?_
        simpa [Sign.apply] using hpos.le
  | finite s m e hm =>
    obtain ⟨⟨hupper, hmin, hlow⟩, rfl⟩ := hu
    have hpos : (0 : ℚ) < m * 2 ^ e := by positivity
    cases v with
    | notANumber => exact hv.elim
    | infinity s' => exact hv.elim
    | zero s' =>
      obtain rfl : b = 0 := hv
      cases s with
      | positive =>
        refine iff_of_false (by simp [UnpackedFloat.lt, UnpackedFloat.compare]) ?_
        simpa [Sign.apply] using hpos.le
      | negative =>
        refine iff_of_true (by simp [UnpackedFloat.lt, UnpackedFloat.compare]) ?_
        simpa [Sign.apply] using hpos
    | finite s' m' e' hm' =>
      obtain ⟨⟨hupper', hmin', hlow'⟩, rfl⟩ := hv
      have hpos' : (0 : ℚ) < m' * 2 ^ e' := by positivity
      cases s with
      | positive =>
        cases s' with
        | positive =>
          have hparts := compare_parts_eq_lt hupper hupper' hmin hmin' hlow hlow'
          simpa [UnpackedFloat.lt, UnpackedFloat.compare, Sign.apply] using hparts
        | negative =>
          refine iff_of_false (by simp [UnpackedFloat.lt, UnpackedFloat.compare]) (not_lt.mpr ?_)
          simpa [Sign.apply] using (neg_lt_zero.mpr hpos').le.trans hpos.le
      | negative =>
        cases s' with
        | positive =>
          refine iff_of_true (by simp [UnpackedFloat.lt, UnpackedFloat.compare]) ?_
          simpa [Sign.apply] using (neg_lt_zero.mpr hpos).trans hpos'
        | negative =>
          -- the larger of two negative numbers is the one with the smaller magnitude
          have hparts := compare_parts_eq_lt hupper' hupper hmin' hmin hlow' hlow
          have hswap : ((compare e e').then (compare m m')).swap =
              (compare e' e).then (compare m' m) := by
            rw [Ordering.swap_then, Int.compare_swap, Nat.compare_swap]
          rw [← hswap] at hparts
          simpa [UnpackedFloat.lt, UnpackedFloat.compare, Sign.apply] using hparts

lemma Valued.lt_iff {x y : Float} {a b : ℚ} (hx : Valued x a) (hy : Valued y b) :
    x < y ↔ a < b := by
  have hlt : x < y ↔ x.toModel.unpack.lt y.toModel.unpack = true := by
    show decide (x.toModel < y.toModel) = true ↔ _
    rw [decide_eq_true_iff]
    rfl
  rw [hlt]
  exact Denotes.lt_iff hx hy

/-! ## Larger whole numbers -/

lemma unpacked_mul_finite (s s' : Sign) {m m' : ℕ} (e e' : ℤ) (hm : 0 < m) (hm' : 0 < m') :
    UnpackedFloat.mul .binary64 (.finite s m e hm) (.finite s' m' e' hm') =
      roundWithAccuracy .binary64 (s * s') (m * m') (e + e') .exact := rfl

/-- A whole number is scaled by nothing. -/
lemma unpacked_ofScientific_zero {n : ℕ} (hn : 0 < n) :
    UnpackedFloat.ofScientific .binary64 n 0 =
      roundWithAccuracy .binary64 .positive (n * 2 ^ 53) (-53) .exact := by
  have hbits : Format.binary64.mantissaBits = 53 := rfl
  have hsign : Sign.positive * Sign.positive = Sign.positive := rfl
  have hlarge : ¬ (0 : ℤ) > 2 ^ Format.binary64.exponentBits := by decide
  have hsmall : ¬ (0 : ℤ) < -(2 ^ Format.binary64.exponentBits + (n.log2 : ℤ)) := by
    have hpow : (0 : ℤ) < 2 ^ Format.binary64.exponentBits := by decide
    omega
  rw [UnpackedFloat.ofScientific, dif_neg hn.ne', if_neg hlarge, if_neg hsmall, if_pos le_rfl,
    unpacked_mul_finite, hsign, hbits, Nat.shiftLeft_eq, Int.toNat_zero, pow_zero, mul_one, add_zero,
    Nat.cast_ofNat]

/-- A whole number becomes a double, if it is not too large. -/
lemma exists_valued_ofNat {n : ℕ} (h : (n : ℚ) ≤ 2 ^ 100) :
    ∃ q, Valued (Float.ofNat n) q ∧ Rounds n q := by
  by_cases hsmall : n < 2 ^ 53
  · exact ⟨n, valued_ofNat hsmall, Rounds.refl n⟩
  · have hpos : 0 < n := by omega
    have hmodel : Float.ofNat n = .ofModel (.pack (UnpackedFloat.ofScientific .binary64 n 0)) := by
      show Float.ofScientific n false 0 = _
      rw [Float.ofScientific, dif_neg fun hfits => hsmall hfits.1]
      rfl
    have htarget : (-53 : ℤ) ≤ target (n * 2 ^ 53) (-53) := by
      rw [target_eq, log2_mul_two_pow hpos]
      omega
    have hexact : Tells .exact (((n * 2 ^ 53 : ℕ) : ℚ) - (n * 2 ^ 53 : ℕ)) := sub_self _
    obtain ⟨z, hdenotes, hrounds⟩ := exists_rounds_roundWithAccuracy .positive hexact htarget
    have hvalue : ((Sign.positive.apply 1 : ℤ) : ℚ) * (((n * 2 ^ 53 : ℕ) : ℚ) * 2 ^ (-53 : ℤ)) = n := by
      have hone : Sign.positive.apply 1 = 1 := rfl
      rw [hone, Int.cast_one, one_mul, Nat.cast_mul, mul_assoc, zpow_neg]
      norm_num
    rw [hvalue] at hrounds
    rw [hmodel, unpacked_ofScientific_zero hpos]
    exact ⟨z, valued_pack hdenotes (hrounds.abs_lt (by rwa [Nat.abs_cast])), hrounds⟩

lemma exists_valued_ofInt {i : ℤ} (h : |(i : ℚ)| ≤ 2 ^ 100) :
    ∃ q, Valued (Float.ofInt i) q ∧ Rounds i q := by
  cases i with
  | ofNat n =>
    rw [Int.ofNat_eq_natCast, Int.cast_natCast, Nat.abs_cast] at h
    exact exists_valued_ofNat h
  | negSucc n =>
    rw [Int.cast_negSucc, abs_neg, Nat.abs_cast] at h
    obtain ⟨q, hvalued, hrounds⟩ := exists_valued_ofNat h
    rw [Int.cast_negSucc]
    exact ⟨-q, hvalued.neg (hrounds.abs_lt (by rwa [Nat.abs_cast])), hrounds.neg⟩

/-! ## The largest of some doubles -/

/-- Whether a double stands for a number that is not too large. -/
def Within (bound : ℚ) (x : Float) : Prop := ∃ q, Valued x q ∧ |q| ≤ bound

lemma Within.larger {bound : ℚ} {x y : Float} (hx : Within bound x) (hy : Within bound y) :
    Within bound (larger x y) := by
  rw [Binary64.larger]
  split_ifs <;> assumption

lemma Within.foldl_larger {bound : ℚ} {x : Float} {ys : List Float} (hx : Within bound x)
    (hys : ∀ y ∈ ys, Within bound y) : Within bound (ys.foldl Binary64.larger x) := by
  induction ys generalizing x with
  | nil => exact hx
  | cons y ys ih =>
    rw [List.forall_mem_cons] at hys
    exact ih (hx.larger hys.1) hys.2

end Binary64
end BenchReport
