import BenchReport.Proofs.Rounding

/-!
# Doubles as rational numbers

A double that is finite stands for a rational number (`Valued x q`).  The sum, the difference, the
product and the quotient of doubles stand for what a double makes of the exact result, as long as
that is not too large (`Valued.add` and so on).  Whole numbers below `2 ^ 53` become doubles without
loss (`valued_ofInt`), and a double becomes a whole number by dropping the fraction of what it stands
for (`Valued.toWord_eq`).
-/

namespace BenchReport
namespace Binary64

open Float.Model (UnpackedFloat Format totalExponent)
open Float.Model.UnpackedFloat

/-! ## Operations before packing -/

lemma apply_neg (sign : Sign) (n : ℤ) : (-sign).apply n = -sign.apply n := by
  cases sign with
  | negative => exact (neg_neg n).symm
  | positive => rfl

lemma apply_mul (s t : Sign) (m n : ℤ) : (s * t).apply (m * n) = s.apply m * t.apply n := by
  cases s <;> cases t
  · exact (neg_mul_neg m n).symm
  · exact (neg_mul m n).symm
  · exact (mul_neg m n).symm
  · rfl

lemma Denotes.neg {u : UnpackedFloat} {q : ℚ} (h : Denotes u q) : Denotes u.neg (-q) := by
  cases u with
  | notANumber => exact h
  | infinity sign => exact h
  | zero sign =>
    have hq : q = 0 := h
    exact neg_eq_zero.mpr hq
  | finite sign m e hm =>
    obtain ⟨hform, rfl⟩ := h
    refine ⟨hform, ?_⟩
    rw [apply_neg, Int.cast_neg, neg_mul]

/-- A difference is a sum with the sign of the second number turned. -/
lemma unpacked_sub_eq (spec : Format) (u v : UnpackedFloat) :
    UnpackedFloat.sub spec u v = UnpackedFloat.add spec u v.neg := by
  cases u with
  | finite s m e hm =>
    cases v with
    | finite s' m' e' hm' =>
      rw [UnpackedFloat.sub, UnpackedFloat.neg, UnpackedFloat.add]
      simp only [apply_neg, sub_eq_add_neg]
    | _ => rfl
  | _ => cases v <;> rfl

lemma decreaseExponent_min_left (m : ℕ) (e e' : ℤ) :
    ((decreaseExponent m e (min e e')).1 : ℚ) * 2 ^ min e e' = m * 2 ^ e := by
  obtain ⟨k, hk⟩ := Int.eq_ofNat_of_zero_le (a := e - min e e') (by omega)
  have he : e = (k : ℤ) + min e e' := by omega
  rw [decreaseExponent_eq k hk]
  conv_rhs => rw [he, zpow_add₀ two_ne_zero, zpow_natCast]
  push_cast
  ring

/-- A sum is the double that is nearest to the exact sum. -/
lemma exists_nearest_add {u v : UnpackedFloat} {a b : ℚ} (hu : Denotes u a) (hv : Denotes v b) :
    ∃ z, Denotes (UnpackedFloat.add .binary64 u v) z ∧ Nearest (a + b) z := by
  cases u with
  | notANumber => exact hu.elim
  | infinity s => exact hu.elim
  | zero s =>
    obtain rfl : a = 0 := hu
    rw [zero_add]
    cases v with
    | notANumber => exact hv.elim
    | infinity s' => exact hv.elim
    | zero s' =>
      obtain rfl : b = 0 := hv
      refine ⟨0, ?_, nearest_zero⟩
      rw [UnpackedFloat.add]
      split_ifs <;> rfl
    | finite s' m' e' hm' => exact ⟨b, hv, hv.nearest⟩
  | finite s m e hm =>
    cases v with
    | notANumber => exact hv.elim
    | infinity s' => exact hv.elim
    | zero s' =>
      obtain rfl : b = 0 := hv
      rw [add_zero]
      exact ⟨a, hu, hu.nearest⟩
    | finite s' m' e' hm' =>
      obtain ⟨-, rfl⟩ := hu
      obtain ⟨-, rfl⟩ := hv
      -- at the smaller of the two exponents the mantissas add exactly
      obtain ⟨z, hdenotes, hnearest⟩ := exists_nearest_normalize
        (s.apply (decreaseExponent m e (min e e')).1 +
          s'.apply (decreaseExponent m' e' (min e e')).1) (min e e') .positive
      refine ⟨z, hdenotes, ?_⟩
      have hright := decreaseExponent_min_left m' e' e
      rw [min_comm] at hright
      rwa [Int.cast_add, add_mul, cast_apply s, mul_assoc, Int.cast_natCast,
        decreaseExponent_min_left, cast_apply s', mul_assoc, Int.cast_natCast, hright, ← mul_assoc,
        ← Int.cast_natCast m, ← cast_apply, ← mul_assoc, ← Int.cast_natCast m', ← cast_apply]
        at hnearest

lemma exists_rounds_add {u v : UnpackedFloat} {a b : ℚ} (hu : Denotes u a) (hv : Denotes v b) :
    ∃ z, Denotes (UnpackedFloat.add .binary64 u v) z ∧ Rounds (a + b) z := by
  obtain ⟨z, hdenotes, hnearest⟩ := exists_nearest_add hu hv
  exact ⟨z, hdenotes, hnearest.rounds⟩

lemma exists_rounds_sub {u v : UnpackedFloat} {a b : ℚ} (hu : Denotes u a) (hv : Denotes v b) :
    ∃ z, Denotes (UnpackedFloat.sub .binary64 u v) z ∧ Rounds (a - b) z := by
  rw [unpacked_sub_eq, sub_eq_add_neg]
  exact exists_rounds_add hu hv.neg

/-- A product of mantissas has bits enough, unless both factors have the smallest exponent. -/
lemma exponents_le_target {m m' : ℕ} {e e' : ℤ} (hm : 0 < m) (hm' : 0 < m')
    (hlow : 2 ^ 52 ≤ m ∨ e = -1074) (hlow' : 2 ^ 52 ≤ m' ∨ e' = -1074) :
    e + e' ≤ target (m * m') (e + e') := by
  have htarget := target_eq (m * m') (e + e')
  have hne : m * m' ≠ 0 := (Nat.mul_pos hm hm').ne'
  have hbits : 2 ^ 52 ≤ m * m' → 52 ≤ (m * m').log2 := (Nat.le_log2 hne).mpr
  rcases hlow with hlow | rfl
  · have := hbits (hlow.trans (Nat.le_mul_of_pos_right m hm'))
    omega
  · rcases hlow' with hlow' | rfl
    · have := hbits (hlow'.trans (Nat.le_mul_of_pos_left m' hm))
      omega
    · omega

lemma exists_rounds_mul {u v : UnpackedFloat} {a b : ℚ} (hu : Denotes u a) (hv : Denotes v b) :
    ∃ z, Denotes (UnpackedFloat.mul .binary64 u v) z ∧ Rounds (a * b) z := by
  cases u with
  | notANumber => exact hu.elim
  | infinity s => exact hu.elim
  | zero s =>
    obtain rfl : a = 0 := hu
    rw [zero_mul]
    cases v with
    | notANumber => exact hv.elim
    | infinity s' => exact hv.elim
    | zero s' => exact ⟨0, rfl, Rounds.refl 0⟩
    | finite s' m' e' hm' => exact ⟨0, rfl, Rounds.refl 0⟩
  | finite s m e hm =>
    cases v with
    | notANumber => exact hv.elim
    | infinity s' => exact hv.elim
    | zero s' =>
      obtain rfl : b = 0 := hv
      rw [mul_zero]
      exact ⟨0, rfl, Rounds.refl 0⟩
    | finite s' m' e' hm' =>
      obtain ⟨⟨-, -, hlow⟩, rfl⟩ := hu
      obtain ⟨⟨-, -, hlow'⟩, rfl⟩ := hv
      have hexact : Tells .exact (((m * m' : ℕ) : ℚ) - (m * m' : ℕ)) := sub_self _
      obtain ⟨z, hdenotes, hrounds⟩ := exists_rounds_roundWithAccuracy (s * s') hexact
        (exponents_le_target hm hm' hlow hlow')
      refine ⟨z, hdenotes, ?_⟩
      have hvalue : ((s.apply m : ℤ) : ℚ) * 2 ^ e * ((s'.apply m' : ℤ) * 2 ^ e') =
          ((s * s').apply 1 : ℤ) * (((m * m' : ℕ) : ℚ) * 2 ^ (e + e')) := by
        have hunit := apply_mul s s' 1 1
        rw [mul_one] at hunit
        rw [hunit, cast_apply s m, cast_apply s' m', zpow_add₀ two_ne_zero]
        push_cast
        ring
      rwa [hvalue]

/-! ## Quotients -/

/-- What is left of a division tells how much was cut off the quotient. -/
lemma tells_accuracyOfFraction (m : ℕ) {d : ℕ} (hd : 0 < d) :
    Tells (accuracyOfFraction (m % d) d) ((m : ℚ) / d - (m / d : ℕ)) := by
  have hd' : (0 : ℚ) < d := by exact_mod_cast hd
  have hpart : (m : ℚ) / d - (m / d : ℕ) = ((m % d : ℕ) : ℚ) / d := by
    have hsplit : ((m % d + d * (m / d) : ℕ) : ℚ) = m := by rw [Nat.mod_add_div]
    push_cast at hsplit
    rw [eq_div_iff hd'.ne', sub_mul, div_mul_cancel₀ _ hd'.ne']
    linarith
  have hlt : ((m % d : ℕ) : ℚ) / d < 1 := by
    rw [div_lt_one hd']
    exact_mod_cast Nat.mod_lt m hd
  rw [hpart, accuracyOfFraction]
  split_ifs with hzero
  · rw [hzero, Tells]
    simp
  · have hpos : (0 : ℚ) < ((m % d : ℕ) : ℚ) / d := by
      have : (0 : ℚ) < (m % d : ℕ) := by exact_mod_cast Nat.pos_of_ne_zero hzero
      positivity
    rcases lt_trichotomy (2 * (m % d)) d with hside | hside | hside
    · have hcast : 2 * ((m % d : ℕ) : ℚ) < d := by exact_mod_cast hside
      rw [Nat.compare_eq_lt.mpr hside]
      refine ⟨hpos, ?_⟩
      rw [div_lt_div_iff₀ hd' two_pos]
      linarith
    · have hcast : 2 * ((m % d : ℕ) : ℚ) = d := by exact_mod_cast hside
      rw [Nat.compare_eq_eq.mpr hside, Tells, div_eq_div_iff hd'.ne' two_ne_zero]
      linarith
    · have hcast : (d : ℚ) < 2 * ((m % d : ℕ) : ℚ) := by exact_mod_cast hside
      rw [Nat.compare_eq_gt.mpr hside]
      refine ⟨?_, hlt⟩
      rw [div_lt_div_iff₀ two_pos hd']
      linarith

/-- A quotient is computed with bits enough. -/
lemma le_target_div {m d : ℕ} {e e' t : ℤ} {k : ℕ} (hm : 0 < m) (hd : 0 < d)
    (hk : e - e' - t = k)
    (ht : t ≤ Format.binary64.targetExponent (totalExponent m e - totalExponent d e')) :
    t ≤ target (m * 2 ^ k / d) t := by
  have htarget := target_eq (m * 2 ^ k / d) t
  have ht' : t ≤ max ((m.log2 : ℤ) + 1 + e - (d.log2 + 1 + e') - 53) (-1074) := ht
  rcases le_or_gt (m.log2 + k) d.log2 with hsmall | hlarge
  · omega
  · obtain ⟨j, hj⟩ := Nat.exists_eq_add_of_lt hlarge
    have hquotient : 2 ^ j ≤ m * 2 ^ k / d := by
      rw [Nat.le_div_iff_mul_le hd]
      calc
        2 ^ j * d ≤ 2 ^ j * 2 ^ (d.log2 + 1) := Nat.mul_le_mul_left _ Nat.lt_log2_self.le
        _ = 2 ^ m.log2 * 2 ^ k := by rw [← pow_add, ← pow_add]; congr 1; omega
        _ ≤ m * 2 ^ k := Nat.mul_le_mul_right _ (Nat.log2_self_le hm.ne')
    have hne : m * 2 ^ k / d ≠ 0 := by
      have := Nat.one_le_two_pow (n := j)
      omega
    have hlog := (Nat.le_log2 hne).mpr hquotient
    omega

lemma exists_rounds_div {u v : UnpackedFloat} {a b : ℚ} (hu : Denotes u a) (hv : Denotes v b)
    (hb : b ≠ 0) : ∃ z, Denotes (UnpackedFloat.div .binary64 u v) z ∧ Rounds (a / b) z := by
  cases v with
  | notANumber => exact hv.elim
  | infinity s' => exact hv.elim
  | zero s' => exact absurd hv hb
  | finite s' d e' hd =>
    cases u with
    | notANumber => exact hu.elim
    | infinity s => exact hu.elim
    | zero s =>
      obtain rfl : a = 0 := hu
      rw [zero_div]
      exact ⟨0, rfl, Rounds.refl 0⟩
    | finite s m e hm =>
      obtain ⟨-, rfl⟩ := hu
      obtain ⟨-, rfl⟩ := hv
      -- the dividend is shifted left by `k`, so that the quotient has bits enough to be rounded
      set t := min (e - e')
        (Format.binary64.targetExponent (totalExponent m e - totalExponent d e')) with ht
      obtain ⟨k, hk⟩ := Int.eq_ofNat_of_zero_le (a := e - e' - t) (by omega)
      have hcore : divCore .binary64 m e d e' =
          (m * 2 ^ k / d, t, accuracyOfFraction (m * 2 ^ k % d) d) := by
        have htoNat : (e - e' - t).toNat = k := by omega
        rw [divCore, ← ht, htoNat, Nat.shiftLeft_eq]
      obtain ⟨z, hdenotes, hrounds⟩ := exists_rounds_roundWithAccuracy (s / s')
        (tells_accuracyOfFraction (m * 2 ^ k) hd)
        (le_target_div hm hd hk (min_le_right _ _))
      refine ⟨z, ?_, ?_⟩
      · rw [UnpackedFloat.div, hcore]
        exact hdenotes
      · have hvalue : ((s.apply m : ℤ) : ℚ) * 2 ^ e / ((s'.apply d : ℤ) * 2 ^ e') =
            ((s / s').apply 1 : ℤ) * (((m * 2 ^ k : ℕ) : ℚ) / d * 2 ^ t) := by
          have he : e = e' + t + k := by omega
          have hunit : s.apply 1 = (s / s').apply 1 * s'.apply 1 := by
            cases s <;> cases s' <;> rfl
          have hs' : ((s'.apply 1 : ℤ) : ℚ) ≠ 0 := by
            cases s' <;> simp [Sign.apply]
          have hd' : (d : ℚ) ≠ 0 := by exact_mod_cast hd.ne'
          rw [cast_apply s m, cast_apply s' d, hunit, he, zpow_add₀ two_ne_zero,
            zpow_add₀ two_ne_zero, zpow_natCast]
          push_cast
          field_simp
        rwa [hvalue]

/-! ## Packing -/

lemma unpackSign_packComponents {spec : Format} (sign : Sign) (exponent : BitVec spec.exponentBits)
    (mantissa : BitVec spec.mantissaBitsWithoutImplicit) :
    unpackSign (packComponents spec sign exponent mantissa) = sign.toBitVec := by
  apply BitVec.eq_of_getLsbD_eq
  intro i hi
  obtain rfl : i = 0 := by omega
  simp [unpackSign, packComponents, BitVec.getLsbD_append, BitVec.getElem_append]

lemma ofBitVec_toBitVec (sign : Sign) : Sign.ofBitVec sign.toBitVec = sign := by
  cases sign <;> rfl

/-- The leading bit of a mantissa, which is not packed, is put back. -/
lemma toNat_implicit (mantissa : BitVec 52) : (1#1 ++ mantissa).toNat = 2 ^ 52 + mantissa.toNat := by
  rw [BitVec.toNat_append, ← Nat.shiftLeft_add_eq_or_of_lt mantissa.isLt]
  simp [Nat.shiftLeft_eq]

section Parts

variable (sign : Sign) {exponent : BitVec 11} {mantissa : BitVec 52}

lemma unpack_zero : UnpackedFloat.unpack .binary64 (packedZero .binary64 sign) = .zero sign := by
  rw [packedZero, UnpackedFloat.unpack]
  simp only [unpackMantissa_packComponents, unpackExponent_packComponents,
    unpackSign_packComponents, ofBitVec_toBitVec]
  rfl

/-- An exponent part between the ends of its range belongs to a mantissa with 53 bits. -/
lemma unpack_normal (hlow : exponent ≠ 0#11) (hhigh : exponent ≠ -1#11) (hpos) :
    UnpackedFloat.unpack .binary64 (packComponents .binary64 sign exponent mantissa) =
      .finite sign (2 ^ 52 + mantissa.toNat) ((exponent.toNat : ℤ) - 1075) hpos := by
  rw [UnpackedFloat.unpack]
  simp only [unpackMantissa_packComponents, unpackExponent_packComponents,
    unpackSign_packComponents, ofBitVec_toBitVec]
  rw [if_neg hhigh, if_neg hlow]
  simp only [toNat_implicit]
  rfl

/-- The exponent part zero belongs to a shorter mantissa at the smallest exponent. -/
lemma unpack_subnormal (hpos : 0 < mantissa.toNat) :
    UnpackedFloat.unpack .binary64 (packComponents .binary64 sign 0#11 mantissa) =
      .finite sign mantissa.toNat (-1074) hpos := by
  have hne : mantissa ≠ 0#52 := by
    rintro rfl
    exact absurd hpos (by decide)
  rw [UnpackedFloat.unpack]
  simp only [unpackMantissa_packComponents, unpackExponent_packComponents,
    unpackSign_packComponents, ofBitVec_toBitVec]
  rw [if_neg (by decide), if_pos trivial, dif_neg hne]
  rfl

end Parts

lemma abs_apply (sign : Sign) (n : ℤ) : |sign.apply n| = |n| := by
  cases sign with
  | negative => exact abs_neg n
  | positive => rfl

/-- The exponent of a number that is not too large fits its part. -/
lemma exponent_le_of_lt {sign : Sign} {m : ℕ} {e : ℤ} (hlow : 2 ^ 52 ≤ m ∨ e = -1074)
    (hq : |(sign.apply m : ℤ) * (2 : ℚ) ^ e| < 2 ^ 1024) : e ≤ 971 := by
  rcases hlow with hlow | rfl
  · have he : (0 : ℚ) < 2 ^ e := by positivity
    rw [abs_mul, ← Int.cast_abs, abs_apply, Nat.abs_cast, Int.cast_natCast, abs_of_pos he] at hq
    have hm : (2 : ℚ) ^ (52 : ℤ) ≤ m := by exact_mod_cast hlow
    have hlt : (2 : ℚ) ^ ((52 : ℤ) + e) < 2 ^ (1024 : ℤ) := by
      rw [zpow_add₀ two_ne_zero]
      exact (mul_le_mul_of_nonneg_right hm he.le).trans_lt (by exact_mod_cast hq)
    have := (zpow_lt_zpow_iff_right₀ one_lt_two).mp hlt
    omega
  · norm_num

/-- A double in the right form that is not too large survives packing. -/
lemma unpack_pack {u : UnpackedFloat} {q : ℚ} (h : Denotes u q) (hq : |q| < 2 ^ 1024) :
    UnpackedFloat.unpack .binary64 (UnpackedFloat.pack .binary64 u) = u := by
  cases u with
  | notANumber => exact h.elim
  | infinity sign => exact h.elim
  | zero sign => exact unpack_zero sign
  | finite sign m e hm =>
    obtain ⟨⟨hupper, hmin, hlow⟩, rfl⟩ := h
    have hmax := exponent_le_of_lt hlow hq
    obtain ⟨biased, hbiased⟩ := Int.eq_ofNat_of_zero_le (a := e + 1023 + 52) (by omega)
    have htoNat : (e + (Format.binary64.exponentBias : ℤ) +
        (Format.binary64.mantissaBitsWithoutImplicit : ℤ)).toNat = biased := by
      have : (Format.binary64.exponentBias : ℤ) = 1023 := by decide
      rw [this]
      show (e + 1023 + 52).toNat = biased
      omega
    have hexponent : (BitVec.ofNat 11 biased).toNat = biased := by
      rw [BitVec.toNat_ofNat, Nat.mod_eq_of_lt (by omega)]
    rw [UnpackedFloat.pack]
    simp only [htoNat]
    rw [if_neg (by show ¬ 2 ^ 11 ≤ biased + 1; omega)]
    -- a full mantissa is stored without its leading bit, any other has the smallest exponent
    by_cases hfull : 2 ^ 52 ≤ m
    · have hlog : m.log2 + 1 = Format.binary64.mantissaBits := by
        have hle := (Nat.le_log2 hm.ne').mpr hfull
        have hlt := (Nat.log2_lt hm.ne').mpr hupper
        show m.log2 + 1 = 53
        omega
      have hmantissa : 2 ^ 52 + (BitVec.ofNat 52 m).toNat = m := by
        rw [BitVec.toNat_ofNat]
        omega
      have hlowPart : BitVec.ofNat 11 biased ≠ 0#11 := by
        rw [← BitVec.toNat_ne_iff_ne, hexponent, BitVec.toNat_zero]
        omega
      have hhighPart : BitVec.ofNat 11 biased ≠ -1#11 := by
        rw [← BitVec.toNat_ne_iff_ne, hexponent]
        simp only [BitVec.toNat_neg, BitVec.toNat_ofNat]
        omega
      rw [if_pos hlog]
      refine (unpack_normal sign hlowPart hhighPart (by omega)).trans ?_
      simp only [hmantissa, hexponent]
      congr 1
      omega
    · obtain rfl := hlow.resolve_left hfull
      have hlog : m.log2 + 1 ≠ Format.binary64.mantissaBits := by
        have hlt := (Nat.log2_lt hm.ne').mpr (not_le.mp hfull)
        show m.log2 + 1 ≠ 53
        omega
      have hmantissa : (BitVec.ofNat 52 m).toNat = m := by
        rw [BitVec.toNat_ofNat, Nat.mod_eq_of_lt (not_le.mp hfull)]
      rw [if_neg hlog]
      refine (unpack_subnormal sign (by omega)).trans ?_
      simp only [hmantissa]

/-! ## Doubles and their values -/

/-- The double stands for the rational number. -/
def Valued (x : Float) (q : ℚ) : Prop := Denotes x.toModel.unpack q

lemma valued_pack {u : UnpackedFloat} {z : ℚ} (h : Denotes u z) (hz : |z| < 2 ^ 1024) :
    Valued (.ofModel (.pack u)) z := by
  have hunpack : (Float.Model.pack u).unpack = u := unpack_pack h hz
  rw [Valued, hunpack]
  exact h

lemma Rounds.abs_lt {y z : ℚ} (h : Rounds y z) (hy : |y| ≤ 2 ^ 100) : |z| < 2 ^ 1024 := by
  have htiny : tiny ≤ 1 := zpow_le_one_of_nonpos₀ one_le_two (by norm_num)
  have hclose := h.1
  calc
    |z| = |z - y + y| := by rw [sub_add_cancel]
    _ ≤ |z - y| + |y| := abs_add_le _ _
    _ ≤ |y| / 2 ^ 53 + tiny + |y| := by gcongr
    _ ≤ 2 ^ 100 / 2 ^ 53 + 1 + 2 ^ 100 := by gcongr
    _ < 2 ^ 200 := by norm_num
    _ < 2 ^ 1024 := pow_lt_pow_right₀ one_lt_two (by norm_num)

section Operations

variable {x y : Float} {a b : ℚ}

lemma Valued.add (hx : Valued x a) (hy : Valued y b) (h : |a + b| ≤ 2 ^ 100) :
    ∃ c, Valued (x + y) c ∧ Rounds (a + b) c := by
  obtain ⟨c, hdenotes, hrounds⟩ := exists_rounds_add hx hy
  exact ⟨c, valued_pack hdenotes (hrounds.abs_lt h), hrounds⟩

lemma Valued.sub (hx : Valued x a) (hy : Valued y b) (h : |a - b| ≤ 2 ^ 100) :
    ∃ c, Valued (x - y) c ∧ Rounds (a - b) c := by
  obtain ⟨c, hdenotes, hrounds⟩ := exists_rounds_sub hx hy
  exact ⟨c, valued_pack hdenotes (hrounds.abs_lt h), hrounds⟩

lemma Valued.mul (hx : Valued x a) (hy : Valued y b) (h : |a * b| ≤ 2 ^ 100) :
    ∃ c, Valued (x * y) c ∧ Rounds (a * b) c := by
  obtain ⟨c, hdenotes, hrounds⟩ := exists_rounds_mul hx hy
  exact ⟨c, valued_pack hdenotes (hrounds.abs_lt h), hrounds⟩

lemma Valued.div (hx : Valued x a) (hy : Valued y b) (hb : b ≠ 0) (h : |a / b| ≤ 2 ^ 100) :
    ∃ c, Valued (x / y) c ∧ Rounds (a / b) c := by
  obtain ⟨c, hdenotes, hrounds⟩ := exists_rounds_div hx hy hb
  exact ⟨c, valued_pack hdenotes (hrounds.abs_lt h), hrounds⟩

lemma Valued.neg (hx : Valued x a) (h : |a| < 2 ^ 1024) : Valued x.neg (-a) :=
  valued_pack (Denotes.neg hx) (by rwa [abs_neg])

end Operations

/-! ## Whole numbers as doubles -/

lemma Rounds.eq_intCast {n : ℤ} {z : ℚ} (h : Rounds n z) (hn : |n| < 2 ^ 53) : z = n :=
  h.2 n rfl hn

lemma abs_natCast_lt {n : ℕ} (h : n < 2 ^ 53) : |(n : ℤ)| < 2 ^ 53 := by
  rw [Nat.abs_cast]
  exact_mod_cast h

lemma valued_toFloat {n : ℕ} (h : n < 2 ^ 53) : Valued n.toUInt64.toFloat n := by
  have hword : n.toUInt64.toNat = n := by
    show n % 2 ^ 64 = n
    exact Nat.mod_eq_of_lt (h.trans (by norm_num))
  obtain ⟨z, hdenotes, hnearest⟩ := exists_nearest_normalize n 0 .positive
  have hrounds := hnearest.rounds
  rw [zpow_zero, mul_one] at hrounds
  obtain rfl := hrounds.eq_intCast (abs_natCast_lt h)
  have hlt : |((n : ℤ) : ℚ)| < 2 ^ 1024 := by
    rw [← Int.cast_abs]
    have : ((|(n : ℤ)| : ℤ) : ℚ) < 2 ^ 53 := by exact_mod_cast abs_natCast_lt h
    exact this.trans (pow_lt_pow_right₀ one_lt_two (by norm_num))
  have hmodel : n.toUInt64.toFloat =
      .ofModel (.pack (UnpackedFloat.normalize .binary64 n.toUInt64.toNat 0 .positive)) := rfl
  rw [hmodel, hword]
  exact valued_pack hdenotes hlt

lemma valued_one : Valued (Float.ofBits 0x3FF0000000000000) 1 := by
  have hunpack : (Float.ofBits 0x3FF0000000000000).toModel.unpack =
      .finite .positive (2 ^ 52) (-52) (by norm_num) := rfl
  rw [Valued, hunpack]
  refine ⟨⟨by norm_num, by norm_num, .inl le_rfl⟩, ?_⟩
  norm_num [Sign.apply]

lemma valued_ofNat {n : ℕ} (h : n < 2 ^ 53) : Valued (Float.ofNat n) n := by
  have hproduct : Float.ofNat n = n.toUInt64.toFloat * Float.ofBits 0x3FF0000000000000 := by
    show Float.ofScientific n false 0 = _
    rw [Float.ofScientific, dif_pos ⟨h, by norm_num⟩]
    rfl
  have hn : (n : ℚ) < 2 ^ 53 := by exact_mod_cast h
  have hle : |(n : ℚ) * 1| ≤ 2 ^ 100 := by
    rw [mul_one, Nat.abs_cast]
    exact hn.le.trans (by norm_num)
  obtain ⟨z, hvalued, hrounds⟩ := (valued_toFloat h).mul valued_one hle
  rw [mul_one] at hrounds
  obtain rfl := Rounds.eq_intCast (n := n) hrounds (abs_natCast_lt h)
  rwa [hproduct]

/-- Whole numbers below `2 ^ 53` are doubles. -/
lemma valued_ofInt {i : ℤ} (h : |i| < 2 ^ 53) : Valued (Float.ofInt i) i := by
  cases i with
  | ofNat n =>
    have hn : n < 2 ^ 53 := by
      rw [Int.ofNat_eq_natCast, Nat.abs_cast] at h
      exact_mod_cast h
    exact valued_ofNat hn
  | negSucc n =>
    have hn : n + 1 < 2 ^ 53 := by
      rw [Int.negSucc_eq, abs_neg] at h
      exact_mod_cast h
    have hlt : |((n + 1 : ℕ) : ℚ)| < 2 ^ 1024 := by
      rw [Nat.abs_cast]
      have : ((n + 1 : ℕ) : ℚ) < 2 ^ 53 := by exact_mod_cast hn
      exact this.trans (pow_lt_pow_right₀ one_lt_two (by norm_num))
    have hneg := (valued_ofNat hn).neg hlt
    rw [Int.cast_negSucc]
    exact hneg

/-! ## Doubles as whole numbers -/

/-- The whole number that is left of a number without its fraction. -/
def truncate (q : ℚ) : ℤ := if q < 0 then -⌊-q⌋ else ⌊q⌋

lemma wholePart_eq_floor (m : ℕ) (e : ℤ) : (wholePart m e : ℤ) = ⌊(m : ℚ) * 2 ^ e⌋ := by
  rw [wholePart]
  split_ifs with he
  · obtain ⟨k, rfl⟩ := Int.eq_ofNat_of_zero_le he
    have hvalue : (m : ℚ) * 2 ^ (k : ℤ) = ((m * 2 ^ k : ℕ) : ℤ) := by
      push_cast
      rw [zpow_natCast]
    rw [hvalue, Int.floor_intCast]
    rfl
  · obtain ⟨k, hk⟩ := Int.eq_ofNat_of_zero_le (a := -e) (by omega)
    have hvalue : (m : ℚ) * 2 ^ e = (m : ℤ) / (2 ^ k : ℕ) := by
      have he : e = -(k : ℤ) := by omega
      rw [he, zpow_neg, zpow_natCast]
      push_cast
      rw [div_eq_mul_inv]
    have htoNat : (-e).toNat = k := by omega
    rw [hvalue, Rat.floor_intCast_div_natCast, htoNat]
    rfl

lemma towardZero_eq_truncate (sign : Sign) (m : ℕ) (e : ℤ) :
    towardZero (isNegative sign) m e = truncate (sign.apply m * 2 ^ e) := by
  have hnonneg : (0 : ℚ) ≤ (m : ℚ) * 2 ^ e := by positivity
  rw [towardZero]
  cases sign with
  | positive =>
    have hvalue : ((Sign.positive.apply m : ℤ) : ℚ) * 2 ^ e = m * 2 ^ e := rfl
    rw [hvalue, truncate, if_neg (not_lt.mpr hnonneg), ← wholePart_eq_floor]
    rfl
  | negative =>
    have hvalue : ((Sign.negative.apply m : ℤ) : ℚ) * 2 ^ e = -(m * 2 ^ e) := by
      simp [Sign.apply]
    have hsigned : signed (isNegative .negative) (wholePart m e) = -(wholePart m e : ℤ) := rfl
    rw [hvalue, hsigned, truncate, neg_neg, wholePart_eq_floor]
    split_ifs with hlt
    · rfl
    · have hzero : (m : ℚ) * 2 ^ e = 0 := by linarith
      rw [hzero, neg_zero, Int.floor_zero, neg_zero]

lemma abs_truncate_le (q : ℚ) : |(truncate q : ℚ)| ≤ |q| := by
  rw [truncate]
  split_ifs with h
  · have hfloor := Int.floor_le (-q)
    have hnonneg : (0 : ℚ) ≤ (⌊-q⌋ : ℤ) := by exact_mod_cast Int.floor_nonneg.mpr (by linarith)
    rw [Int.cast_neg, abs_neg, abs_of_nonneg hnonneg, abs_of_neg h]
    exact hfloor
  · have hq : 0 ≤ q := not_lt.mp h
    have hnonneg : (0 : ℚ) ≤ (⌊q⌋ : ℤ) := by exact_mod_cast Int.floor_nonneg.mpr hq
    rw [abs_of_nonneg hnonneg, abs_of_nonneg hq]
    exact Int.floor_le q

/-- A double within the range of 64 bit integers loses its fraction and nothing else. -/
lemma Valued.toWord_eq {x : Float} {q : ℚ} (h : Valued x q) (hq : |q| < 2 ^ 63) :
    toWord x = truncate q := by
  have hrange : |truncate q| < 2 ^ 63 := by
    exact_mod_cast (abs_truncate_le q).trans_lt hq
  have hclamp : clamp minWord maxWord (truncate q) = truncate q := by
    rw [abs_lt] at hrange
    unfold clamp minWord maxWord
    omega
  rw [toWord, clampWhole, value]
  rw [Valued] at h
  cases hunpack : x.toModel.unpack with
  | notANumber =>
    rw [hunpack] at h
    exact h.elim
  | infinity sign =>
    rw [hunpack] at h
    exact h.elim
  | zero sign =>
    rw [hunpack] at h
    obtain rfl : q = 0 := h
    cases sign <;> decide
  | finite sign m e hm =>
    rw [hunpack] at h
    obtain ⟨-, rfl⟩ := h
    show clamp minWord maxWord (towardZero (isNegative sign) m e) = _
    rw [towardZero_eq_truncate, hclamp]

end Binary64
end BenchReport
