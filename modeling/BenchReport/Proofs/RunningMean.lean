import BenchReport.Proofs.Doubles
import BenchReport.Sample

/-!
# How far a running mean is off

A running mean moves by a rounded quotient of a rounded difference, and its sum with that is rounded
again.  All three errors stay: they are carried on from step to step, damped only as the values are.
This module bounds what they add up to (`Drift`).

The bound is about the count times the mean, compared with the sum of the values.  One step adds to it
at most `2 * count + 9` units of `bound / 2 ^ 53`, where `bound` is the largest value (`Step.drift`),
and the induction over the values (`exists_valued_continueMean`) adds these up.  So the mean of `n`
values is off by at most `(n + 8) * bound / 2 ^ 53` (`Drift.abs_sub_le`).
-/

namespace BenchReport

open Binary64 (Valued Rounds tiny tiny_pos)

/-! ## One step -/

/-- One step of the loop, with the errors of its three roundings.  The mean before it belongs to
`count` values with the sum `total`. -/
structure Step (bound count total value mean difference quotient next : ℚ) : Prop where
  one_le : 1 ≤ bound
  nonneg : 0 ≤ count
  few : count + 8 ≤ 2 ^ 50
  value_le : |value| ≤ bound
  total_le : |total| ≤ count * bound
  mean_le : |mean| ≤ 2 * bound
  drift_le : |count * mean - total| ≤ bound / 2 ^ 53 * (count ^ 2 + 8 * count)
  difference_near : |difference - (value - mean)| ≤ |value - mean| / 2 ^ 53 + tiny
  quotient_near : |quotient - difference / (count + 1)| ≤
    |difference / (count + 1)| / 2 ^ 53 + tiny
  next_near : |next - (mean + quotient)| ≤ |mean + quotient| / 2 ^ 53 + tiny

lemma tiny_le : tiny ≤ 1 / 2 ^ 56 := by
  have hpow : (1 : ℚ) / 2 ^ 56 = 2 ^ (-56 : ℤ) := by norm_num [zpow_neg]
  rw [hpow]
  exact zpow_le_zpow_right₀ one_le_two (by norm_num)

namespace Step

variable {bound count total value mean difference quotient next : ℚ}
  (h : Step bound count total value mean difference quotient next)
include h

lemma count_pos : 0 < count + 1 := by
  linarith [h.nonneg]

lemma bound_nonneg : 0 ≤ bound := by
  linarith [h.one_le]

lemma gap_le : |value - mean| ≤ 3 * bound := by
  linarith [abs_sub value mean, h.value_le, h.mean_le]

/-- The error of the difference. -/
lemma difference_error : |difference - (value - mean)| ≤ 3 * bound / 2 ^ 53 + tiny := by
  refine h.difference_near.trans ?_
  gcongr
  exact h.gap_le

lemma abs_difference_le : |difference| ≤ 4 * bound := by
  have hsub := abs_sub_abs_le_abs_sub difference (value - mean)
  linarith [h.difference_error, h.gap_le, tiny_le, h.one_le]

/-- The error of the quotient, scaled by the number of values. -/
lemma quotient_error :
    |(count + 1) * quotient - difference| ≤ 4 * bound / 2 ^ 53 + (count + 1) * tiny := by
  have hpos := h.count_pos
  have hscale : |(count + 1) * quotient - difference| =
      (count + 1) * |quotient - difference / (count + 1)| := by
    rw [← abs_of_pos hpos, ← abs_mul, abs_of_pos hpos, mul_sub, mul_div_cancel₀ _ hpos.ne']
  have hpart : (count + 1) * |difference / (count + 1)| = |difference| := by
    rw [abs_div, abs_of_pos hpos, mul_div_cancel₀ _ hpos.ne']
  calc
    |(count + 1) * quotient - difference|
      ≤ (count + 1) * (|difference / (count + 1)| / 2 ^ 53 + tiny) := by
        rw [hscale]
        gcongr
        exact h.quotient_near
    _ = |difference| / 2 ^ 53 + (count + 1) * tiny := by rw [← hpart]; ring
    _ ≤ 4 * bound / 2 ^ 53 + (count + 1) * tiny := by
        gcongr
        exact h.abs_difference_le

/-- The error of the sum before its own rounding, scaled by the number of values. -/
lemma sum_error :
    |(count + 1) * (mean + quotient) - (count * mean + value)| ≤
      7 * bound / 2 ^ 53 + (count + 2) * tiny := by
  have hsplit : (count + 1) * (mean + quotient) - (count * mean + value) =
      (difference - (value - mean)) + ((count + 1) * quotient - difference) := by ring
  rw [hsplit]
  calc
    _ ≤ |difference - (value - mean)| + |(count + 1) * quotient - difference| := abs_add_le _ _
    _ ≤ (3 * bound / 2 ^ 53 + tiny) + (4 * bound / 2 ^ 53 + (count + 1) * tiny) :=
      add_le_add h.difference_error h.quotient_error
    _ = 7 * bound / 2 ^ 53 + (count + 2) * tiny := by ring

/-- What doubles lose at their densest is nothing against the other errors. -/
lemma tiny_mul_le : (2 * count + 3) * tiny ≤ (2 * count + 3) * (bound / 2 ^ 53 / 8) := by
  have hnonneg := h.nonneg
  gcongr
  linarith [tiny_le, h.one_le]

/-- The sum is hardly larger than the values. -/
lemma abs_sum_le : |(count + 1) * (mean + quotient)| ≤ 3 / 2 * (count + 1) * bound := by
  have hcount := h.nonneg
  have hbound := h.bound_nonneg
  have htiny := tiny_pos
  have hsplit : (count + 1) * (mean + quotient) = (count * mean - total) + (total + value) +
      ((count + 1) * (mean + quotient) - (count * mean + value)) := by ring
  -- the drift of the earlier steps is small only because the values are few
  have hearlier : bound / 2 ^ 53 * (count ^ 2 + 8 * count) ≤ count * bound / 8 := by
    have hscaled : count * bound * (count + 8) ≤ count * bound * 2 ^ 50 := by
      gcongr
      exact h.few
    linarith
  rw [hsplit]
  calc
    _ ≤ |count * mean - total| + (|total| + |value|) +
        |(count + 1) * (mean + quotient) - (count * mean + value)| :=
      (abs_add_le _ _).trans (add_le_add ((abs_add_le _ _).trans
        (add_le_add le_rfl (abs_add_le _ _))) le_rfl)
    _ ≤ count * bound / 8 + (count * bound + bound) +
        (7 * bound / 2 ^ 53 + (count + 2) * tiny) := by
      gcongr
      · exact h.drift_le.trans hearlier
      · exact h.total_le
      · exact h.value_le
      · exact h.sum_error
    _ ≤ 3 / 2 * (count + 1) * bound := by
      have : 0 ≤ count * bound := by positivity
      have : (count + 2) * tiny ≤ (2 * count + 3) * tiny := by gcongr <;> linarith
      linarith [h.tiny_mul_le]

/-- The error of the last rounding, scaled by the number of values. -/
lemma next_error :
    |(count + 1) * next - (count + 1) * (mean + quotient)| ≤
      3 / 2 * (count + 1) * bound / 2 ^ 53 + (count + 1) * tiny := by
  have hpos := h.count_pos
  calc
    |(count + 1) * next - (count + 1) * (mean + quotient)|
      = (count + 1) * |next - (mean + quotient)| := by
        rw [← mul_sub, abs_mul, abs_of_pos hpos]
    _ ≤ (count + 1) * (|mean + quotient| / 2 ^ 53 + tiny) := by
        gcongr
        exact h.next_near
    _ = |(count + 1) * (mean + quotient)| / 2 ^ 53 + (count + 1) * tiny := by
        rw [abs_mul, abs_of_pos hpos]
        ring
    _ ≤ 3 / 2 * (count + 1) * bound / 2 ^ 53 + (count + 1) * tiny := by
        gcongr
        exact h.abs_sum_le

/-- The errors of the step come to the earlier ones. -/
lemma drift :
    |(count + 1) * next - (total + value)| ≤
      bound / 2 ^ 53 * ((count + 1) ^ 2 + 8 * (count + 1)) := by
  have hcount := h.nonneg
  have hbound := h.bound_nonneg
  have hsplit : (count + 1) * next - (total + value) = (count * mean - total) +
      ((count + 1) * (mean + quotient) - (count * mean + value)) +
      ((count + 1) * next - (count + 1) * (mean + quotient)) := by ring
  rw [hsplit]
  calc
    _ ≤ |count * mean - total| + |(count + 1) * (mean + quotient) - (count * mean + value)| +
        |(count + 1) * next - (count + 1) * (mean + quotient)| :=
      (abs_add_le _ _).trans (add_le_add (abs_add_le _ _) le_rfl)
    _ ≤ bound / 2 ^ 53 * (count ^ 2 + 8 * count) + (7 * bound / 2 ^ 53 + (count + 2) * tiny) +
        (3 / 2 * (count + 1) * bound / 2 ^ 53 + (count + 1) * tiny) :=
      add_le_add (add_le_add h.drift_le h.sum_error) h.next_error
    _ ≤ bound / 2 ^ 53 * ((count + 1) ^ 2 + 8 * (count + 1)) := by
      have : 0 ≤ count * bound := by positivity
      linarith [h.tiny_mul_le]

end Step

/-! ## The loop -/

/-- What holds of the mean behind each step: how far it may be off from the mean of the values so far,
which are `count` many and add up to `total`. -/
structure Drift (bound : ℚ) (count : ℕ) (total : ℤ) (mean : ℚ) : Prop where
  total_le : |(total : ℚ)| ≤ count * bound
  mean_le : |mean| ≤ 2 * bound
  drift : |count * mean - total| ≤ bound / 2 ^ 53 * ((count : ℚ) ^ 2 + 8 * count)

lemma abs_le_of_rounds {y z : ℚ} (h : Rounds y z) : |z| ≤ 2 * |y| + 1 := by
  have htiny : tiny ≤ 1 := zpow_le_one_of_nonpos₀ one_le_two (by norm_num)
  have hclose := h.1
  have hsub := abs_sub_abs_le_abs_sub z y
  have hnonneg := abs_nonneg y
  linarith

/-- A mean with little drift is not much larger than the values. -/
lemma abs_le_of_drift {bound total mean : ℚ} {count : ℕ} (hcount : 0 < count)
    (hfew : count ≤ 2 ^ 20) (hbound : 0 ≤ bound) (htotal : |total| ≤ count * bound)
    (hdrift : |count * mean - total| ≤ bound / 2 ^ 53 * ((count : ℚ) ^ 2 + 8 * count)) :
    |mean| ≤ 2 * bound := by
  have hpos : (0 : ℚ) < count := by exact_mod_cast hcount
  have hfew' : (count : ℚ) ≤ 2 ^ 20 := by exact_mod_cast hfew
  have hsquare : bound / 2 ^ 53 * ((count : ℚ) ^ 2 + 8 * count) ≤ count * bound := by
    have hscaled : count * bound * (count + 8) ≤ count * bound * 2 ^ 53 := by
      gcongr
      linarith
    linarith
  have hscale : count * |mean| = |count * mean| := by
    rw [abs_mul, abs_of_pos hpos]
  have hsub := abs_sub_abs_le_abs_sub (count * mean) total
  refine le_of_mul_le_mul_left ?_ hpos
  rw [hscale]
  linarith

lemma drift_zero {bound : ℚ} (h : 0 ≤ bound) : Drift bound 0 0 0 where
  total_le := by simp
  mean_le := by simpa using h
  drift := by simp

/-- The mean itself is off by the drift divided by the count. -/
lemma Drift.abs_sub_le {bound : ℚ} {count : ℕ} {total : ℤ} {mean : ℚ}
    (h : Drift bound count total mean) (hcount : 0 < count) :
    |mean - total / count| ≤ bound * (count + 8) / 2 ^ 53 := by
  have hpos : (0 : ℚ) < count := by exact_mod_cast hcount
  have hscale : |count * mean - total| = count * |mean - total / count| := by
    rw [← abs_of_pos hpos, ← abs_mul, abs_of_pos hpos, mul_sub, mul_div_cancel₀ _ hpos.ne']
  have hdrift := h.drift
  rw [hscale] at hdrift
  have hfactor : bound / 2 ^ 53 * ((count : ℚ) ^ 2 + 8 * count) =
      count * (bound * (count + 8) / 2 ^ 53) := by ring
  rw [hfactor] at hdrift
  exact le_of_mul_le_mul_left hdrift hpos

/-- Counting up is exact. -/
lemma valued_succ {count : Float} {n : ℕ} (h : Valued count n) (hfew : n + 1 < 2 ^ 53) :
    Valued (count + 1) (n + 1 : ℕ) := by
  have hone : Valued 1 (1 : ℕ) := Binary64.valued_ofNat (n := 1) (by norm_num)
  have hlt : (n : ℚ) + 1 < 2 ^ 53 := by exact_mod_cast hfew
  obtain ⟨c, hvalued, hrounds⟩ := h.add hone (by
    push_cast
    rw [abs_of_nonneg (by positivity)]
    exact hlt.le.trans (by norm_num))
  have hwhole : Rounds (((n + 1 : ℕ) : ℤ) : ℚ) c := by
    push_cast at hrounds ⊢
    exact hrounds
  obtain rfl : c = ((n + 1 : ℕ) : ℤ) := hwhole.eq_intCast (Binary64.abs_natCast_lt hfew)
  exact_mod_cast hvalued

section Loop

variable {bound : ℚ} (hbound : 1 ≤ bound) (hsmall : bound ≤ 2 ^ 31)
include hbound hsmall

/-- None of the three operations of a step overflows, and what they give is a `Step`. -/
lemma exists_step {count mean : Float} {n : ℕ} {total value : ℤ} {q : ℚ}
    (hcount : Valued count (n + 1 : ℕ)) (hmean : Valued mean q) (h : Drift bound n total q)
    (hfew : n + 1 ≤ 2 ^ 20) (hvalue : |(value : ℚ)| ≤ bound) :
    ∃ difference quotient next, Valued (mean + (Float.ofInt value - mean) / count) next ∧
      Step bound n total value q difference quotient next := by
  have hn : (n : ℚ) + 1 ≤ 2 ^ 20 := by exact_mod_cast hfew
  have hn' : (0 : ℚ) ≤ n := Nat.cast_nonneg n
  have hvalue' : |value| < 2 ^ 53 := by
    have hle : |(value : ℚ)| < 2 ^ 53 := (hvalue.trans hsmall).trans_lt (by norm_num)
    exact_mod_cast hle
  have hgap : |(value : ℚ) - q| ≤ 3 * 2 ^ 31 := by
    linarith [abs_sub (value : ℚ) q, h.mean_le]
  obtain ⟨difference, hdifference, hrounds⟩ :=
    (Binary64.valued_ofInt hvalue').sub hmean (hgap.trans (by norm_num))
  have hle := abs_le_of_rounds hrounds
  have hquotientLe : |difference / ((n + 1 : ℕ) : ℚ)| ≤ |difference| := by
    rw [abs_div]
    refine div_le_self (abs_nonneg _) ?_
    rw [Nat.abs_cast]
    push_cast
    linarith
  obtain ⟨quotient, hquotient, hrounds'⟩ :=
    hdifference.div hcount (by positivity) (by linarith)
  have hle' := abs_le_of_rounds hrounds'
  obtain ⟨next, hnext, hrounds''⟩ := hmean.add hquotient (by
    linarith [abs_add_le q quotient, h.mean_le])
  exact ⟨difference, quotient, next, hnext, hbound, hn', by linarith, hvalue, h.total_le, h.mean_le,
    h.drift, hrounds.1, by exact_mod_cast hrounds'.1, hrounds''.1⟩

/-- A step makes the drift of the next mean. -/
lemma exists_valued_step {count mean : Float} {n : ℕ} {total value : ℤ} {q : ℚ}
    (hcount : Valued count n) (hmean : Valued mean q) (h : Drift bound n total q)
    (hfew : n + 1 ≤ 2 ^ 20) (hvalue : |(value : ℚ)| ≤ bound) :
    Valued (count + 1) (n + 1 : ℕ) ∧
      ∃ next, Valued (mean + (Float.ofInt value - mean) / (count + 1)) next ∧
        Drift bound (n + 1) (total + value) next := by
  have hcount' : Valued (count + 1) (n + 1 : ℕ) := valued_succ hcount (by omega)
  obtain ⟨difference, quotient, next, hnext, hstep⟩ :=
    exists_step hbound hsmall hcount' hmean h hfew hvalue
  have htotal : |((total + value : ℤ) : ℚ)| ≤ ((n + 1 : ℕ) : ℚ) * bound := by
    push_cast
    linarith [abs_add_le (total : ℚ) value, h.total_le]
  have hdrift : |((n + 1 : ℕ) : ℚ) * next - (total + value : ℤ)| ≤
      bound / 2 ^ 53 * (((n + 1 : ℕ) : ℚ) ^ 2 + 8 * ((n + 1 : ℕ) : ℚ)) := by
    push_cast
    exact hstep.drift
  exact ⟨hcount', next, hnext, htotal,
    abs_le_of_drift (Nat.succ_pos n) hfew (by linarith) htotal hdrift, hdrift⟩

/-- The drift behind all values. -/
lemma exists_valued_continueMean (values : List ℤ) {count mean : Float} {n : ℕ} {total : ℤ} {q : ℚ}
    (hcount : Valued count n) (hmean : Valued mean q) (h : Drift bound n total q)
    (hfew : n + values.length ≤ 2 ^ 20) (hvalues : ∀ value ∈ values, |(value : ℚ)| ≤ bound) :
    ∃ result, Valued (continueMean count mean (values.map Float.ofInt)) result ∧
      Drift bound (n + values.length) (total + values.sum) result := by
  induction values generalizing count mean n total q with
  | nil => exact ⟨q, hmean, by simpa using h⟩
  | cons value values ih =>
    rw [List.forall_mem_cons] at hvalues
    rw [List.length_cons] at hfew
    obtain ⟨hnext, next, hvalued, hdrift⟩ := exists_valued_step hbound hsmall hcount hmean h
      (by omega) hvalues.1
    obtain ⟨result, hresult, hlast⟩ := ih hnext hvalued hdrift (by omega) hvalues.2
    refine ⟨result, hresult, ?_⟩
    have hlength : n + 1 + values.length = n + (values.length + 1) := by omega
    rwa [hlength, add_assoc total] at hlast

/-- The running mean of whole numbers is a finite double near their mean. -/
theorem exists_valued_runningMean (values : List ℤ) (hfew : values.length ≤ 2 ^ 20)
    (hvalues : ∀ value ∈ values, |(value : ℚ)| ≤ bound) :
    ∃ mean, Valued (runningMean (values.map Float.ofInt)) mean ∧
      Drift bound values.length values.sum mean := by
  have hzero : Valued 0 0 := Binary64.valued_ofNat (n := 0) (by norm_num)
  obtain ⟨mean, hvalued, hdrift⟩ := exists_valued_continueMean hbound hsmall values
    (n := 0) hzero hzero (drift_zero (by linarith)) (by omega) hvalues
  refine ⟨mean, hvalued, ?_⟩
  simpa using hdrift

end Loop

end BenchReport
