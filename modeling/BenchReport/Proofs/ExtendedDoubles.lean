import BenchReport.Proofs.Magnitudes

/-!
# Doubles and infinities

A double is a NaN, or it stands for a number, which may be infinite (`Binary64.StandsFor`).  All
doubles that are no NaN are in the order of what they stand for (`StandsFor.lt_iff`), and so the smaller
and the larger of two doubles stand for the minimum and the maximum.

What one more is to a double, is said for numbers up to zero (`Valued.add_one`): it is a larger double,
unless the number is below `-2 ^ 53` and a multiple of four.  Below `-2 ^ 53` all doubles are even.  A
number that is twice an odd one is moved to the next double, since the two are equally near to the sum
and the next one is even; all other numbers are nearer to the sum than any other double, or are
themselves the even ones.
-/

namespace BenchReport
namespace Binary64

open Float.Model (UnpackedFloat Format totalExponent)
open Float.Model.UnpackedFloat

/-! ## All doubles -/

lemma denotes_parts (sign : Sign) {m : ℕ} {e : ℤ} (hm : 0 < m) (hupper : m < 2 ^ 53)
    (hmin : -1074 ≤ e) (hlow : 2 ^ 52 ≤ m ∨ e = -1074) (hmax : e ≤ 971) :
    ∃ q, Denotes (.finite sign m e hm) q ∧ |q| < 2 ^ 1024 := by
  refine ⟨_, ⟨⟨hupper, hmin, hlow⟩, rfl⟩, ?_⟩
  have hunit : (0 : ℚ) < 2 ^ e := by positivity
  have hm' : (m : ℚ) < 2 ^ 53 := by exact_mod_cast hupper
  rw [abs_mul, ← Int.cast_abs, abs_apply, Nat.abs_cast, Int.cast_natCast, abs_of_pos hunit]
  calc
    (m : ℚ) * 2 ^ e < 2 ^ 53 * 2 ^ e := by gcongr
    _ ≤ 2 ^ (53 : ℤ) * 2 ^ (971 : ℤ) := by
        refine mul_le_mul (by norm_cast) (zpow_le_zpow_right₀ one_le_two hmax) hunit.le ?_
        positivity
    _ = 2 ^ ((1024 : ℕ) : ℤ) := (zpow_add₀ two_ne_zero _ _).symm
    _ = 2 ^ 1024 := zpow_natCast 2 1024

/-- A double is a number in the range of doubles, an infinity or a NaN. -/
lemma unpack_cases (bits : BitVec Format.binary64.numBits) :
    (∃ q, Denotes (UnpackedFloat.unpack .binary64 bits) q ∧ |q| < 2 ^ 1024) ∨
      (∃ sign, UnpackedFloat.unpack .binary64 bits = .infinity sign) ∨
        UnpackedFloat.unpack .binary64 bits = .notANumber := by
  have hbias : (Format.binary64.exponentBias : ℤ) = 1023 := by decide
  have hmantissa : (@unpackMantissa .binary64 bits).toNat < 2 ^ 52 := (unpackMantissa bits).isLt
  have hlt : (@unpackExponent .binary64 bits).toNat < 2 ^ 11 := (unpackExponent bits).isLt
  rw [UnpackedFloat.unpack]
  dsimp only
  split_ifs with hall hrest hnone hrest
  · exact .inr (.inl ⟨_, rfl⟩)
  · exact .inr (.inr rfl)
  · exact .inl ⟨0, rfl, by rw [abs_zero]; positivity⟩
  · have hexponent : (@unpackExponent .binary64 bits).toNat = 0 := by
      rw [hnone]
      rfl
    refine .inl (denotes_parts _ _ (hmantissa.trans (by norm_num)) ?_ (.inr ?_) ?_) <;>
      rw [hexponent, hbias] <;> norm_num
  · have hlow : (@unpackExponent .binary64 bits).toNat ≠ 0 := by
      simpa using BitVec.toNat_ne_iff_ne.mpr hnone
    have hhigh : (@unpackExponent .binary64 bits).toNat ≠ 2047 := by
      simpa using BitVec.toNat_ne_iff_ne.mpr hall
    have hfull : (1#1 ++ @unpackMantissa .binary64 bits).toNat =
        2 ^ 52 + (@unpackMantissa .binary64 bits).toNat := toNat_implicit _
    refine .inl (denotes_parts _ _ ?_ ?_ (.inl ?_) ?_)
    · omega
    · rw [hbias]
      omega
    · omega
    · rw [hbias]
      omega

lemma Denotes.unique {u : UnpackedFloat} {a b : ℚ} (ha : Denotes u a) (hb : Denotes u b) : a = b := by
  have hirrefl : ¬ u.lt u = true := mt (ha.lt_iff ha).mp (lt_irrefl a)
  exact le_antisymm (not_lt.mp (mt (hb.lt_iff ha).mpr hirrefl))
    (not_lt.mp (mt (ha.lt_iff hb).mpr hirrefl))

lemma Valued.abs_lt {x : Float} {a : ℚ} (h : Valued x a) : |a| < 2 ^ 1024 := by
  have hunpack : x.toModel.unpack = UnpackedFloat.unpack .binary64 x.toModel.toBits.toBitVec := rfl
  rw [Valued, hunpack] at h
  rcases unpack_cases x.toModel.toBits.toBitVec with ⟨q, hq, hlt⟩ | ⟨sign, hsign⟩ | hnone
  · rwa [h.unique hq]
  · rw [hsign] at h
    exact h.elim
  · rw [hnone] at h
    exact h.elim

/-- What a double that is no NaN stands for. -/
inductive StandsFor (x : Float) : EReal → Prop where
  | number {q : ℚ} (h : Valued x q) : StandsFor x ((q : ℝ) : EReal)
  | infinity (h : x.toModel.unpack = .infinity .positive) : StandsFor x ⊤
  | negInfinity (h : x.toModel.unpack = .infinity .negative) : StandsFor x ⊥

lemma exists_standsFor_iff {x : Float} : (∃ v, StandsFor x v) ↔ x.isNaN = false := by
  have hunpack : x.toModel.unpack = UnpackedFloat.unpack .binary64 x.toModel.toBits.toBitVec := rfl
  have hnan : x.isNaN = x.toModel.unpack.isNaN := rfl
  constructor
  · rintro ⟨v, h⟩
    cases h with
    | number h => exact h.isNaN
    | infinity h => rw [hnan, h]; rfl
    | negInfinity h => rw [hnan, h]; rfl
  · intro hnumber
    rcases unpack_cases x.toModel.toBits.toBitVec with ⟨q, hq, -⟩ | ⟨sign, hsign⟩ | hnone
    · exact ⟨_, .number (q := q) hq⟩
    · cases sign with
      | positive => exact ⟨_, .infinity hsign⟩
      | negative => exact ⟨_, .negInfinity hsign⟩
    · rw [hnan, hunpack, hnone] at hnumber
      cases hnumber

/-- The finite doubles are those that stand for a number. -/
lemma exists_valued_iff {x : Float} : (∃ a, Valued x a) ↔ x.isFinite = true := by
  have hunpack : x.toModel.unpack = UnpackedFloat.unpack .binary64 x.toModel.toBits.toBitVec := rfl
  have hfinite : x.isFinite = x.toModel.unpack.isFinite := rfl
  refine ⟨fun ⟨a, h⟩ => h.isFinite, fun h => ?_⟩
  rcases unpack_cases x.toModel.toBits.toBitVec with ⟨q, hq, -⟩ | ⟨sign, hsign⟩ | hnone
  · exact ⟨q, hq⟩
  · rw [hfinite, hunpack, hsign] at h
    cases h
  · rw [hfinite, hunpack, hnone] at h
    cases h

section Order

variable {x y : Float} {v w : EReal}

lemma lt_iff_unpack : x < y ↔ x.toModel.unpack.lt y.toModel.unpack = true := by
  show decide (x.toModel < y.toModel) = true ↔ _
  rw [decide_eq_true_iff]
  rfl

/-- An infinity is beyond all numbers. -/
lemma Valued.lt_infinity_iff {q : ℚ} (hx : Valued x q) {sign : Sign}
    (hy : y.toModel.unpack = .infinity sign) :
    (x < y ↔ sign = .positive) ∧ (y < x ↔ sign = .negative) := by
  rw [Valued] at hx
  rw [lt_iff_unpack, lt_iff_unpack, hy]
  cases hunpack : x.toModel.unpack <;> rw [hunpack] at hx <;> try exact hx.elim
  all_goals cases sign <;> simp [UnpackedFloat.lt, UnpackedFloat.compare]

/-- Doubles are in the order of what they stand for. -/
lemma StandsFor.lt_iff (hx : StandsFor x v) (hy : StandsFor y w) : x < y ↔ v < w := by
  cases hx with
  | number hx =>
    cases hy with
    | number hy => rw [hx.lt_iff hy, EReal.coe_lt_coe_iff, Rat.cast_lt]
    | infinity hy => simp [(hx.lt_infinity_iff hy).1]
    | negInfinity hy => simp [(hx.lt_infinity_iff hy).1]
  | infinity hx =>
    cases hy with
    | number hy => simp [(hy.lt_infinity_iff hx).2]
    | infinity hy => simp [lt_iff_unpack, hx, hy, UnpackedFloat.lt, UnpackedFloat.compare]
    | negInfinity hy => simp [lt_iff_unpack, hx, hy, UnpackedFloat.lt, UnpackedFloat.compare]
  | negInfinity hx =>
    cases hy with
    | number hy => simp [(hy.lt_infinity_iff hx).2]
    | infinity hy =>
      rw [lt_iff_unpack, hx, hy]
      exact iff_of_true (by decide) bot_lt_top
    | negInfinity hy => simp [lt_iff_unpack, hx, hy, UnpackedFloat.lt, UnpackedFloat.compare]

/-- Two unpacked numbers are in order if they are not the other way round. -/
lemma unpacked_le_iff {u v : UnpackedFloat} (hu : u.isNaN = false) (hv : v.isNaN = false) :
    u.le v = true ↔ ¬ v.lt u = true := by
  have hle : ∀ o : Ordering, o.isLE = true ↔ ¬ o.swap = .lt := by decide
  have hge : ∀ o : Ordering, o.isGE = true ↔ ¬ o = .lt := by decide
  cases u with
  | notANumber => cases hu
  | infinity s =>
    cases v with
    | notANumber => cases hv
    | infinity s' => cases s <;> cases s' <;> decide
    | _ => cases s <;> simp [UnpackedFloat.le, UnpackedFloat.lt, UnpackedFloat.compare]
  | zero s =>
    cases v with
    | notANumber => cases hv
    | infinity s' => cases s' <;> simp [UnpackedFloat.le, UnpackedFloat.lt, UnpackedFloat.compare]
    | zero s' => simp [UnpackedFloat.le, UnpackedFloat.lt, UnpackedFloat.compare]
    | finite s' m' e' hm' =>
      cases s' <;> simp [UnpackedFloat.le, UnpackedFloat.lt, UnpackedFloat.compare]
  | finite s m e hm =>
    cases v with
    | notANumber => cases hv
    | infinity s' => cases s' <;> simp [UnpackedFloat.le, UnpackedFloat.lt, UnpackedFloat.compare]
    | zero s' => cases s <;> simp [UnpackedFloat.le, UnpackedFloat.lt, UnpackedFloat.compare]
    | finite s' m' e' hm' =>
      have hparts : ((compare e e').then (compare m m')).swap =
          (compare e' e).then (compare m' m) := by
        rw [Ordering.swap_then, Int.compare_swap, Nat.compare_swap]
      cases s <;> cases s' <;>
        simp [UnpackedFloat.le, UnpackedFloat.lt, UnpackedFloat.compare, hle, hge, ← hparts]

lemma StandsFor.unique (hv : StandsFor x v) (hw : StandsFor x w) : v = w := by
  have hirrefl : ¬ x < x := mt (hv.lt_iff hv).mp (lt_irrefl v)
  exact le_antisymm (not_lt.mp (mt (hw.lt_iff hv).mpr hirrefl))
    (not_lt.mp (mt (hv.lt_iff hw).mpr hirrefl))

lemma StandsFor.valued {q : ℚ} (hx : StandsFor x ((q : ℝ) : EReal)) : Valued x q := by
  generalize hv : ((q : ℝ) : EReal) = v at hx
  cases hx with
  | number h =>
    obtain rfl := Rat.cast_injective (EReal.coe_injective hv)
    exact h
  | infinity h => simp at hv
  | negInfinity h => simp at hv

lemma StandsFor.isNaN (hx : StandsFor x v) : x.isNaN = false := exists_standsFor_iff.mp ⟨v, hx⟩

lemma StandsFor.le_iff (hx : StandsFor x v) (hy : StandsFor y w) : x ≤ y ↔ v ≤ w := by
  have hle : x ≤ y ↔ x.toModel.unpack.le y.toModel.unpack = true := by
    show decide (x.toModel ≤ y.toModel) = true ↔ _
    rw [decide_eq_true_iff]
    rfl
  rw [hle, unpacked_le_iff hx.isNaN hy.isNaN, ← lt_iff_unpack, hy.lt_iff hx, not_lt]

/-- Nothing is smaller or larger than a NaN. -/
lemma not_lt_of_isNaN (hy : y.isNaN = true) : ¬ x < y ∧ ¬ y < x := by
  have hunpack : y.toModel.unpack = .notANumber := by
    have hnan : y.toModel.unpack.isNaN = true := hy
    cases h : y.toModel.unpack <;> rw [h] at hnan <;> first | rfl | cases hnan
  rw [lt_iff_unpack, lt_iff_unpack, hunpack]
  cases x.toModel.unpack <;> simp [UnpackedFloat.lt, UnpackedFloat.compare]

lemma StandsFor.smaller (hx : StandsFor x v) (hy : StandsFor y w) :
    StandsFor (smaller x y) (min v w) := by
  rw [Binary64.smaller, hx.isNaN, if_neg Bool.false_ne_true]
  split_ifs with hlt
  · rwa [min_eq_right ((hy.lt_iff hx).mp hlt).le]
  · rwa [min_eq_left (not_lt.mp (mt (hy.lt_iff hx).mpr hlt))]

lemma StandsFor.larger (hx : StandsFor x v) (hy : StandsFor y w) :
    StandsFor (larger x y) (max v w) := by
  rw [Binary64.larger, hx.isNaN, if_neg Bool.false_ne_true]
  split_ifs with hlt
  · rwa [max_eq_right ((hx.lt_iff hy).mp hlt).le]
  · rwa [max_eq_left (not_lt.mp (mt (hx.lt_iff hy).mpr hlt))]

/-- A NaN gives way. -/
lemma StandsFor.smaller_larger_of_isNaN (hx : StandsFor x v) (hy : y.isNaN = true) :
    Binary64.smaller x y = x ∧ Binary64.larger x y = x := by
  obtain ⟨hlt, hgt⟩ := @not_lt_of_isNaN x y hy
  rw [Binary64.smaller, Binary64.larger, hx.isNaN]
  simp [hlt, hgt]

lemma StandsFor.isFinite_iff (hx : StandsFor x v) : x.isFinite = true ↔ v ≠ ⊥ ∧ v ≠ ⊤ := by
  have hfinite : x.isFinite = x.toModel.unpack.isFinite := rfl
  cases hx with
  | number hx => simp [hx.isFinite]
  | infinity hx => simp [hfinite, hx, UnpackedFloat.isFinite]
  | negInfinity hx => simp [hfinite, hx, UnpackedFloat.isFinite]

lemma standsFor_infinity : StandsFor infinity ⊤ := .infinity rfl

lemma standsFor_neg_infinity : StandsFor (-infinity) ⊥ := .negInfinity rfl

lemma standsFor_zero : StandsFor 0 0 := by
  have hzero : Valued 0 0 := valued_ofNat (by norm_num)
  simpa using StandsFor.number hzero

end Order

/-! ## One more -/

/-- A number below zero to which doubles add one without effect. -/
def IsCoarse (a : ℚ) : Prop := ∃ n : ℤ, a = n ∧ n < -2 ^ 53 ∧ 4 ∣ n

lemma IsCoarse.neg {a : ℚ} (h : IsCoarse a) : a < 0 := by
  obtain ⟨n, rfl, hn, -⟩ := h
  exact_mod_cast hn.trans (by norm_num)

/-- Beyond `2 ^ 53` doubles are multiples of their unit, which is two or more. -/
lemma Denotes.exists_multiple {u : UnpackedFloat} {a : ℚ} (h : Denotes u a) (ha : a < -2 ^ 53) :
    ∃ (k : ℤ) (e : ℕ), a = k * 2 ^ (e + 1) ∧ -a < 2 ^ (e + 54) := by
  cases u with
  | notANumber => exact h.elim
  | infinity sign => exact h.elim
  | zero sign =>
    obtain rfl : a = 0 := h
    norm_num at ha
  | finite sign m e hm =>
    obtain ⟨⟨hupper, -, -⟩, rfl⟩ := h
    have hunit : (0 : ℚ) < 2 ^ e := by positivity
    have hm' : (m : ℚ) < 2 ^ (53 : ℤ) := by exact_mod_cast hupper
    have hsize : -((sign.apply m : ℤ) * (2 : ℚ) ^ e) < 2 ^ (53 + e) := by
      rw [zpow_add₀ two_ne_zero]
      refine lt_of_le_of_lt ?_ (mul_lt_mul_of_pos_right hm' hunit)
      rw [← neg_mul]
      gcongr
      cases sign <;> simp [Sign.apply]
    have hexponent : (2 : ℚ) ^ (53 : ℤ) < 2 ^ (53 + e) := by
      refine lt_trans ?_ hsize
      have hpow : (2 : ℚ) ^ (53 : ℤ) = 2 ^ 53 := zpow_natCast 2 53
      linarith
    have hpositive := (zpow_lt_zpow_iff_right₀ one_lt_two).mp hexponent
    obtain ⟨k, rfl⟩ : ∃ k : ℕ, e = (k + 1 : ℕ) := ⟨(e - 1).toNat, by omega⟩
    refine ⟨sign.apply m, k, by norm_cast, ?_⟩
    have hsum : (53 : ℤ) + (k + 1 : ℕ) = (k + 54 : ℕ) := by omega
    rwa [hsum, zpow_natCast] at hsize

/-- Between two multiples of two, the one that is a multiple of four is nearest. -/
lemma IsNearest.one_more_of_even {k r : ℤ} (h : IsNearest (k * 2 ^ (0 + 1) + 1) r (0 + 1 : ℕ)) :
    (r = k ∧ 4 ∣ k * 2 ^ (0 + 1)) ∨ (r = k + 1 ∧ ¬ 4 ∣ k * 2 ^ (0 + 1)) := by
  have hquotient : ((k : ℚ) * 2 ^ (0 + 1) + 1) / 2 ^ ((0 + 1 : ℕ) : ℤ) = k + 1 / 2 := by
    norm_num
    ring
  have hnear := h.near
  have heven := h.even
  rw [hquotient] at hnear heven
  obtain ⟨hlow, hhigh⟩ := abs_le.mp hnear
  have hle : k ≤ r := by
    have hle : (k : ℚ) ≤ r := by linarith
    exact_mod_cast hle
  have hge : r ≤ k + 1 := by
    have hge : (r : ℚ) ≤ (k + 1 : ℤ) := by
      push_cast
      linarith
    exact_mod_cast hge
  -- the sum is halfway between the two, of which the even multiple is taken
  have htie : |(r : ℚ) - (k + 1 / 2)| = 1 / 2 := by
    obtain rfl | rfl : r = k ∨ r = k + 1 := by omega
    · rw [abs_of_neg] <;> linarith
    · push_cast
      rw [abs_of_pos] <;> linarith
  obtain ⟨half, hhalf⟩ := heven htie
  omega

/-- A multiple of a unit of four or more is nearest to one more than it. -/
lemma IsNearest.one_more_of_large {k r : ℤ} {s : ℕ}
    (h : IsNearest (k * 2 ^ (s + 1 + 1) + 1) r (s + 1 + 1 : ℕ)) :
    r = k ∧ 4 ∣ k * 2 ^ (s + 1 + 1) := by
  have hunit : (0 : ℚ) < 2 ^ (s + 1 + 1) := by positivity
  have hquotient : ((k : ℚ) * 2 ^ (s + 1 + 1) + 1) / 2 ^ ((s + 1 + 1 : ℕ) : ℤ) =
      k + 1 / 2 ^ (s + 1 + 1) := by
    rw [zpow_natCast, add_div, mul_div_cancel_right₀ _ hunit.ne']
  have hnear := h.near
  rw [hquotient] at hnear
  obtain ⟨hlow, hhigh⟩ := abs_le.mp hnear
  have hsmall : (1 : ℚ) / 2 ^ (s + 1 + 1) ≤ 1 / 4 := by
    refine one_div_le_one_div_of_le (by norm_num) ?_
    calc
      (4 : ℚ) = 2 ^ (0 + 1 + 1) := by norm_num
      _ ≤ 2 ^ (s + 1 + 1) := pow_le_pow_right₀ one_le_two (by omega)
  have hpositive : (0 : ℚ) < 1 / 2 ^ (s + 1 + 1) := by positivity
  have hbelow : k - 1 < r := by
    have hbelow : ((k - 1 : ℤ) : ℚ) < r := by
      push_cast
      linarith
    exact_mod_cast hbelow
  have habove : r < k + 1 := by
    have habove : (r : ℚ) < (k + 1 : ℤ) := by
      push_cast
      linarith
    exact_mod_cast habove
  exact ⟨by omega, ⟨k * 2 ^ s, by ring⟩⟩

/-- What is nearest to one more than a multiple of the unit is that multiple, unless the unit is two and
the multiple is odd. -/
lemma IsNearest.one_more {k r : ℤ} {s : ℕ} (h : IsNearest (k * 2 ^ (s + 1) + 1) r (s + 1 : ℕ)) :
    (r = k ∧ 4 ∣ k * 2 ^ (s + 1)) ∨ (r = k + 1 ∧ ¬ 4 ∣ k * 2 ^ (s + 1)) := by
  cases s with
  | zero => exact h.one_more_of_even
  | succ s => exact .inl h.one_more_of_large

/-- Adding one has an effect down to `-2 ^ 53`. -/
lemma Rounds.lt_of_le {a z : ℚ} (h : Rounds (a + 1) z) (hlow : -2 ^ 53 ≤ a) (ha : a ≤ 0) : a < z := by
  have htiny : tiny < 1 / 2 ^ 53 := by
    have hpow : (1 : ℚ) / 2 ^ 53 = 2 ^ (-53 : ℤ) := by norm_num
    rw [hpow, tiny]
    exact zpow_lt_zpow_right₀ one_lt_two (by norm_num)
  have hsize : |a + 1| ≤ 2 ^ 53 - 1 := by
    rw [abs_le]
    constructor <;> linarith
  have hstep : |a + 1| / 2 ^ 53 + tiny < 1 :=
    calc
      |a + 1| / 2 ^ 53 + tiny < (2 ^ 53 - 1) / 2 ^ 53 + 1 / 2 ^ 53 :=
        add_lt_add_of_le_of_lt (by gcongr) htiny
      _ = 1 := by norm_num
  have hlt := (abs_sub_lt_iff.mp (h.1.trans_lt hstep)).2
  linarith

lemma Rounds.le_of_le {y z : ℚ} (h : Rounds y z) (hy : y ≤ 1) : z ≤ 3 := by
  have htiny : tiny ≤ 1 := zpow_le_one_of_nonpos₀ one_le_two (by norm_num)
  have hle := (abs_sub_le_iff.mp h.1).1
  rcases abs_cases y with ⟨habs, -⟩ | ⟨habs, hneg⟩ <;> rw [habs] at hle <;> linarith

/-- The exponent of one more than a number below `-2 ^ 53` is positive, and not larger than that of the
number. -/
lemma IsNearest.exponent_of_one_more {a : ℚ} {r t : ℤ} {e : ℕ} (h : IsNearest (a + 1) r t)
    (ha : a ≤ -2 ^ 53 - 2) (hsize : -a < 2 ^ (e + 54)) : 0 < t ∧ t ≤ e + 1 := by
  have habs : |a + 1| = -a - 1 := by
    rw [abs_of_neg] <;> linarith
  constructor
  · have hlt : (2 : ℚ) ^ (53 : ℤ) < 2 ^ (t + 53) := by
      refine lt_of_le_of_lt ?_ h.upper
      have hpow : (2 : ℚ) ^ (53 : ℤ) = 2 ^ 53 := zpow_natCast 2 53
      rw [habs]
      linarith
    have := (zpow_lt_zpow_iff_right₀ one_lt_two).mp hlt
    omega
  · by_contra hgt
    have hlower := h.lower.resolve_right (by omega)
    have hlt : (2 : ℚ) ^ (t + 52) < 2 ^ ((e + 54 : ℕ) : ℤ) := by
      rw [zpow_natCast]
      rw [habs] at hlower
      linarith
    have := (zpow_lt_zpow_iff_right₀ one_lt_two).mp hlt
    omega

/-- Below `-2 ^ 53`, adding one has an effect on what is twice an odd number. -/
lemma Denotes.nearest_one_more {u : UnpackedFloat} {a z : ℚ} (h : Denotes u a)
    (hnearest : Nearest (a + 1) z) (ha : a < -2 ^ 53) :
    (z = a ∧ IsCoarse a) ∨ (a < z ∧ ¬ IsCoarse a) := by
  obtain ⟨k, e, rfl, hsize⟩ := h.exists_multiple ha
  obtain ⟨r, t, hr, rfl⟩ := hnearest
  have hnext : (k : ℚ) * 2 ^ (e + 1) ≤ -2 ^ 53 - 2 := by
    have hwhole : k * 2 ^ (e + 1) < -2 ^ 53 := by exact_mod_cast ha
    have heven : k * 2 ^ (e + 1) = 2 * (k * 2 ^ e) := by ring
    have hnext : k * 2 ^ (e + 1) ≤ -2 ^ 53 - 2 := by omega
    exact_mod_cast hnext
  obtain ⟨hpositive, hle⟩ := hr.exponent_of_one_more hnext hsize
  obtain ⟨s, rfl⟩ : ∃ s : ℕ, t = (s + 1 : ℕ) := ⟨(t - 1).toNat, by omega⟩
  obtain ⟨j, rfl⟩ : ∃ j, e = s + j := ⟨e - s, by omega⟩
  -- the number is a multiple of the unit of the sum as well
  have hsplit : (k : ℚ) * 2 ^ (s + j + 1) = (k * 2 ^ j : ℤ) * 2 ^ (s + 1) := by
    push_cast
    ring
  rw [hsplit] at hr ha
  rw [hsplit, zpow_natCast]
  rcases hr.one_more with ⟨rfl, hfour⟩ | ⟨rfl, hfour⟩
  · exact .inl ⟨rfl, k * 2 ^ j * 2 ^ (s + 1), by norm_cast, by exact_mod_cast ha, hfour⟩
  · refine .inr ⟨?_, ?_⟩
    · have hunit : (0 : ℚ) < 2 ^ (s + 1) := by positivity
      push_cast
      linarith
    · rintro ⟨n, hn, -, hdvd⟩
      obtain rfl : k * 2 ^ j * 2 ^ (s + 1) = n := by exact_mod_cast hn
      exact hfour hdvd

/-- **One more** than a number up to zero is a larger double, or the same one if the number is coarse. -/
lemma Valued.add_one {x : Float} {a : ℚ} (h : Valued x a) (ha : a ≤ 0) :
    ∃ b, Valued (x + 1) b ∧ a ≤ b ∧ (a < b ↔ ¬ IsCoarse a) := by
  have hone : Valued 1 1 := valued_ofNat (by norm_num)
  obtain ⟨z, hdenotes, hnearest⟩ := exists_nearest_add h hone
  have hcases : (z = a ∧ IsCoarse a) ∨ (a < z ∧ ¬ IsCoarse a) := by
    by_cases hlarge : a < -2 ^ 53
    · exact h.nearest_one_more hnearest hlarge
    · refine .inr ⟨hnearest.rounds.lt_of_le (not_lt.mp hlarge) ha, ?_⟩
      rintro ⟨n, rfl, hn, -⟩
      exact hlarge (by exact_mod_cast hn)
  have hrange : |z| < 2 ^ 1024 := by
    rcases lt_or_ge z 0 with hneg | hnonneg
    · have hle : a ≤ z := by
        rcases hcases with ⟨rfl, -⟩ | ⟨hlt, -⟩
        · exact le_rfl
        · exact hlt.le
      have hrange := h.abs_lt
      rw [abs_of_nonpos ha] at hrange
      rw [abs_of_neg hneg]
      exact (neg_le_neg hle).trans_lt hrange
    · have hsmall := hnearest.rounds.le_of_le (by linarith)
      have hbound : (3 : ℚ) < 2 ^ 1024 :=
        lt_of_lt_of_le (by norm_num) (pow_le_pow_right₀ one_le_two (by norm_num : 2 ≤ 1024))
      rw [abs_of_nonneg hnonneg]
      exact hsmall.trans_lt hbound
  refine ⟨z, valued_pack hdenotes hrange, ?_⟩
  rcases hcases with ⟨rfl, hcoarse⟩ | ⟨hlt, hcoarse⟩
  · exact ⟨le_rfl, iff_of_false (lt_irrefl z) (not_not.mpr hcoarse)⟩
  · exact ⟨hlt.le, iff_of_true hlt hcoarse⟩

end Binary64
end BenchReport
