import BenchReport.Collection.Agreement
import BenchReport.Collection.Store
import BenchReport.Proofs.RunningMean

/-!
# What a report shows of a mean

A report shows a computed mean without its fraction, which may turn a rounding error into a whole
unit.  Two numbers less than one apart lose their fractions to the same whole number exactly if no
whole number lies between their magnitudes (`truncate_eq_truncate_iff`, `floor_eq_floor_iff`).  With
the bound on the error of a running mean this tells when a figure is that of the exact mean
(`Aggregate.whole_mean_spec`).

The exact mean of `n` whole numbers is a multiple of `1 / n`.  As long as the error is below that, a
mean with a fraction is always shown right, and a mean that is a whole number is shown right unless
the computed one is closer to zero (`truncate_eq_tdiv_iff`).  The latter does happen:
`Aggregate.mean_loses_unit` is a column whose mean is `2` and that is reported as `1`, or as `2` if
the samples come in another order.
-/

namespace BenchReport

open Binary64 (Valued truncate)

/-! ## What is written of a mean -/

/-- The fraction is dropped toward zero, as in the division of whole numbers. -/
lemma truncate_div (total : ℤ) {count : ℕ} (hcount : 0 < count) :
    truncate (total / count) = total.tdiv count := by
  have hpos : (0 : ℚ) < count := by exact_mod_cast hcount
  rw [truncate]
  rcases lt_or_ge total 0 with hneg | hnonneg
  · have hlt : (total : ℚ) / count < 0 := div_neg_of_neg_of_pos (by exact_mod_cast hneg) hpos
    have hvalue : -((total : ℚ) / count) = ((-total : ℤ) : ℚ) / count := by
      push_cast
      ring
    rw [if_pos hlt, hvalue, Rat.floor_intCast_div_natCast,
      ← Int.tdiv_eq_ediv_of_nonneg (by omega : 0 ≤ -total), Int.neg_tdiv, neg_neg]
  · have hge : ¬ (total : ℚ) / count < 0 := by
      rw [not_lt]
      have : (0 : ℚ) ≤ total := by exact_mod_cast hnonneg
      positivity
    rw [if_neg hge, Rat.floor_intCast_div_natCast, Int.tdiv_eq_ediv_of_nonneg hnonneg]

/-- No whole number is reached or left on the way from one number to the other. -/
lemma floor_eq_floor_iff {a b : ℚ} (ha : 0 ≤ a) (hb : 0 ≤ b) :
    ⌊a⌋ = ⌊b⌋ ↔ ¬ ∃ w : ℕ, min a b < w ∧ (w : ℚ) ≤ max a b := by
  wlog hab : a ≤ b generalizing a b
  · rw [eq_comm, min_comm, max_comm]
    exact this hb ha (le_of_not_ge hab)
  · rw [min_eq_left hab, max_eq_right hab]
    constructor
    · rintro h ⟨w, hlow, hhigh⟩
      have hbelow : ⌊a⌋ < w := Int.floor_lt.mpr (by exact_mod_cast hlow)
      have habove : (w : ℤ) ≤ ⌊b⌋ := Int.le_floor.mpr (by exact_mod_cast hhigh)
      omega
    · intro h
      by_contra hne
      have hlt : ⌊a⌋ < ⌊b⌋ := lt_of_le_of_ne (Int.floor_mono hab) hne
      have hnonneg : 0 ≤ ⌊b⌋ := Int.floor_nonneg.mpr hb
      obtain ⟨w, hw⟩ := Int.eq_ofNat_of_zero_le hnonneg
      refine h ⟨w, ?_, ?_⟩
      · have : a < (⌊b⌋ : ℤ) := Int.floor_lt.mp hlt
        rw [hw] at this
        exact_mod_cast this
      · have := Int.floor_le b
        rw [hw] at this
        exact_mod_cast this

lemma truncate_eq_ite (q : ℚ) : truncate q = if q < 0 then -⌊|q|⌋ else ⌊|q|⌋ := by
  rw [truncate]
  split_ifs with hq
  · rw [abs_of_neg hq]
  · rw [abs_of_nonneg (not_lt.mp hq)]

section Close

variable {a b : ℚ} (h : |a - b| < 1)
include h

/-- Numbers less than one apart lose their fractions on the same side of zero, or lose all. -/
lemma floor_abs_of_close : (a < 0 ↔ b < 0) ∨ (⌊|a|⌋ = 0 ∧ ⌊|b|⌋ = 0) := by
  have hzero : ∀ q : ℚ, |q| < 1 → ⌊|q|⌋ = 0 := fun q hq =>
    Int.floor_eq_zero_iff.mpr ⟨abs_nonneg q, hq⟩
  rw [abs_lt] at h
  rcases lt_or_ge a 0 with ha | ha <;> rcases lt_or_ge b 0 with hb | hb
  · exact .inl ⟨fun _ => hb, fun _ => ha⟩
  · refine .inr ⟨hzero a ?_, hzero b ?_⟩ <;> rw [abs_lt] <;> constructor <;> linarith
  · refine .inr ⟨hzero a ?_, hzero b ?_⟩ <;> rw [abs_lt] <;> constructor <;> linarith
  · exact .inl ⟨fun hlt => absurd hlt (not_lt.mpr ha), fun hlt => absurd hlt (not_lt.mpr hb)⟩

lemma truncate_eq_truncate_iff : truncate a = truncate b ↔ ⌊|a|⌋ = ⌊|b|⌋ := by
  rw [truncate_eq_ite, truncate_eq_ite]
  rcases floor_abs_of_close h with hsign | ⟨ha, hb⟩
  · by_cases hneg : a < 0
    · rw [if_pos hneg, if_pos (hsign.mp hneg), neg_inj]
    · rw [if_neg hneg, if_neg (mt hsign.mpr hneg)]
  · rw [ha, hb]
    simp

lemma abs_truncate_sub_le : |truncate a - truncate b| ≤ 1 := by
  have hnext : ∀ x y : ℚ, |x - y| < 1 → ⌊|x|⌋ ≤ ⌊|y|⌋ + 1 := by
    intro x y hxy
    have hle : |x| ≤ |y| + 1 := by linarith [abs_sub_abs_le_abs_sub x y]
    have hfloor := Int.floor_mono hle
    rwa [Int.floor_add_one] at hfloor
  have hab := hnext a b h
  have hba := hnext b a (by rwa [abs_sub_comm])
  rw [truncate_eq_ite, truncate_eq_ite, abs_le]
  rcases floor_abs_of_close h with hsign | ⟨ha, hb⟩
  · by_cases hneg : a < 0
    · rw [if_pos hneg, if_pos (hsign.mp hneg)]
      constructor <;> omega
    · rw [if_neg hneg, if_neg (mt hsign.mpr hneg)]
      constructor <;> omega
  · rw [ha, hb]
    simp

end Close

/-- A number that is farther from every whole number but zero than the error keeps its whole part. -/
lemma truncate_eq_of_clear {a b error : ℚ} (h : |a - b| ≤ error) (herror : error < 1)
    (hclear : ∀ w : ℤ, w ≠ 0 → error < |b - w|) : truncate a = truncate b := by
  rw [truncate_eq_truncate_iff (h.trans_lt herror),
    floor_eq_floor_iff (abs_nonneg a) (abs_nonneg b)]
  rintro ⟨w, hlow, hhigh⟩
  have hw : (w : ℤ) ≠ 0 := by
    rintro hzero
    have hnonneg : 0 ≤ min |a| |b| := le_min (abs_nonneg a) (abs_nonneg b)
    have : (w : ℚ) = 0 := by exact_mod_cast hzero
    linarith
  have hnear : |(|b|) - w| ≤ error := by
    have habs := (abs_abs_sub_abs_le a b).trans h
    rw [abs_le] at habs ⊢
    rcases le_total |a| |b| with hle | hle
    · rw [min_eq_left hle] at hlow
      rw [max_eq_right hle] at hhigh
      constructor <;> linarith
    · rw [min_eq_right hle] at hlow
      rw [max_eq_left hle] at hhigh
      constructor <;> linarith
  rcases le_total 0 b with hb | hb
  · rw [abs_of_nonneg hb] at hnear
    exact absurd hnear (not_le.mpr (by exact_mod_cast hclear w hw))
  · rw [abs_of_nonpos hb, ← neg_add', abs_neg] at hnear
    have hfar := hclear (-w) (neg_ne_zero.mpr hw)
    push_cast at hfar
    rw [sub_neg_eq_add] at hfar
    linarith

/-- If the error is less than the distance between possible means, only a mean that is a whole number
can lose a unit, and it does if the error leads toward zero. -/
lemma truncate_eq_tdiv_iff {mean : ℚ} {total : ℤ} {count : ℕ} (hcount : 0 < count)
    (h : |mean - total / count| < 1 / count) :
    truncate mean = total.tdiv count ↔ ((count : ℤ) ∣ total → |(total : ℚ) / count| ≤ |mean|) := by
  have hpos : (0 : ℚ) < count := by exact_mod_cast hcount
  have hone : (1 : ℚ) / count ≤ 1 := by
    rw [div_le_one hpos]
    exact_mod_cast hcount
  have hclose := (abs_abs_sub_abs_le mean (total / count)).trans_lt h
  have habs : |(total : ℚ) / count| = (total.natAbs : ℚ) / count := by
    rw [abs_div, Nat.abs_cast, ← Int.cast_abs, Int.abs_eq_natAbs, Int.cast_natCast]
  rw [← truncate_div total hcount, truncate_eq_truncate_iff (h.trans_le hone)]
  rw [habs] at hclose ⊢
  rw [Rat.floor_natCast_div_natCast, Int.floor_eq_iff]
  rw [abs_lt] at hclose
  have hexact : (total.natAbs : ℚ) / count =
      (total.natAbs / count : ℕ) + (total.natAbs % count : ℕ) / count := by
    have hsplit : ((total.natAbs % count + count * (total.natAbs / count) : ℕ) : ℚ) =
        total.natAbs := by rw [Nat.mod_add_div]
    push_cast at hsplit
    rw [div_eq_iff hpos.ne', add_mul, div_mul_cancel₀ _ hpos.ne']
    linarith
  -- the exact mean is at least `1 / count` below the next whole number, which is thus out of reach
  have hrest : (((total.natAbs % count : ℕ) : ℚ) + 1) / count ≤ 1 := by
    rw [div_le_one hpos]
    exact_mod_cast Nat.mod_lt _ hcount
  rw [add_div] at hrest
  have hupper : |mean| < ((total.natAbs / count : ℕ) : ℚ) + 1 := by linarith
  have hdvd : (count : ℤ) ∣ total ↔ total.natAbs % count = 0 := by
    rw [← Nat.dvd_iff_mod_eq_zero, Int.natCast_dvd]
  rw [hdvd]
  -- with a remainder it is also as far above the whole number below it
  rcases Nat.eq_zero_or_pos (total.natAbs % count) with hwhole | hpart
  · rw [hwhole, Nat.cast_zero, zero_div, add_zero] at hexact
    rw [hexact]
    exact ⟨fun hfloor _ => hfloor.1, fun hle => ⟨hle hwhole, hupper⟩⟩
  · have hunit : 1 / (count : ℚ) ≤ ((total.natAbs % count : ℕ) : ℚ) / count := by
      gcongr
      exact_mod_cast hpart
    refine ⟨fun _ hzero => absurd hzero hpart.ne', fun _ => ⟨?_, hupper⟩⟩
    have hlower : ((total.natAbs / count : ℕ) : ℚ) ≤ |mean| := by linarith
    exact hlower

/-! ## Means of samples -/

namespace Aggregate

/-- Samples as a configuration has them: at least one, as wide as each other, and neither too many nor
too large for doubles to add them up well. -/
structure Sized (samples : List Sample) (width bound : ℕ) : Prop where
  nonempty : samples ≠ []
  width : ∀ sample ∈ samples, sample.values.length = width
  small : ∀ sample ∈ samples, ∀ value ∈ sample.values, |value| ≤ bound
  few : samples.length ≤ 2 ^ 20
  pos : 1 ≤ bound
  bounded : bound ≤ 2 ^ 31

/-- The values of one column. -/
def valuesAt (samples : List Sample) (index : ℕ) : List ℤ :=
  samples.map fun sample => sample.values.getD index 0

/-- The exact sum of one column. -/
def totalAt (samples : List Sample) (index : ℕ) : ℤ := (valuesAt samples index).sum

/-- The exact mean of one column. -/
def meanAt (samples : List Sample) (index : ℕ) : ℚ := totalAt samples index / samples.length

/-- The figure of a column that a mean without rounding errors leads to. -/
def wholeMeanAt (samples : List Sample) (index : ℕ) : ℤ :=
  (totalAt samples index).tdiv samples.length

/-- By how much a computed mean may be off. -/
def slack (samples : List Sample) (bound : ℕ) : ℚ := bound * (samples.length + 8) / 2 ^ 53

variable {samples other : List Sample} {width bound index : ℕ}

lemma totalAt_perm (h : other.Perm samples) (index : ℕ) :
    totalAt other index = totalAt samples index :=
  (h.map _).sum_eq

lemma Sized.perm (h : Sized samples width bound) (hperm : other.Perm samples) :
    Sized other width bound where
  nonempty := by
    intro hnil
    rw [hnil] at hperm
    exact h.nonempty hperm.nil_eq.symm
  width := fun sample hsample => h.width sample (hperm.mem_iff.mp hsample)
  small := fun sample hsample => h.small sample (hperm.mem_iff.mp hsample)
  few := hperm.length_eq ▸ h.few
  pos := h.pos
  bounded := h.bounded

lemma slack_lt_one (h : Sized samples width bound) : slack samples bound < 1 := by
  have hfew : (samples.length : ℚ) ≤ 2 ^ 20 := by exact_mod_cast h.few
  have hbound : (bound : ℚ) ≤ 2 ^ 31 := by exact_mod_cast h.bounded
  calc
    slack samples bound ≤ 2 ^ 31 * (2 ^ 20 + 8) / 2 ^ 53 := by
      rw [slack]
      gcongr
    _ < 1 := by norm_num

lemma abs_le_of_mem_valuesAt (h : Sized samples width bound) (hindex : index < width) :
    ∀ value ∈ valuesAt samples index, |(value : ℚ)| ≤ bound := by
  intro value hvalue
  obtain ⟨sample, hsample, rfl⟩ := List.mem_map.mp hvalue
  have hlt : index < sample.values.length := (h.width sample hsample).symm ▸ hindex
  have hsmall := h.small sample hsample _ (List.getElem_mem hlt)
  rw [List.getD_eq_getElem _ _ hlt]
  exact_mod_cast hsmall

lemma slack_lt_of_fine (hcount : 0 < samples.length)
    (hfine : bound * (samples.length + 8) * samples.length < 2 ^ 53) :
    slack samples bound < 1 / samples.length := by
  have hpos : (0 : ℚ) < samples.length := by exact_mod_cast hcount
  rw [slack, div_lt_div_iff₀ (by positivity) hpos, one_mul]
  exact_mod_cast hfine

/-- The aggregate has one figure for every column, and with the mean as reduction it is near the exact
mean. -/
lemma exists_figures (h : Sized samples width bound) (reduction : ℕ → Reduction) :
    ∃ aggregate, reduce reduction samples = some aggregate ∧ aggregate.fields.length = width ∧
      ∀ index < width, reduction index = .mean →
        ∃ figure mean, aggregate.fields[index]? = some figure ∧ Valued figure mean ∧
          Report.whole figure = truncate mean ∧
          |mean - meanAt samples index| ≤ slack samples bound := by
  obtain ⟨first, rest, rfl⟩ := List.exists_cons_of_ne_nil h.nonempty
  have hwidth := h.width first List.mem_cons_self
  refine ⟨_, rfl, by simpa using hwidth, fun index hindex hmean => ?_⟩
  have hlength : (valuesAt (first :: rest) index).length = (first :: rest).length :=
    List.length_map _
  have hbound : (1 : ℚ) ≤ bound := by exact_mod_cast h.pos
  have hsmall : (bound : ℚ) ≤ 2 ^ 31 := by exact_mod_cast h.bounded
  obtain ⟨mean, hvalued, hdrift⟩ := exists_valued_runningMean hbound hsmall
    (valuesAt (first :: rest) index) (hlength ▸ h.few) (abs_le_of_mem_valuesAt h hindex)
  have hclose := hdrift.abs_sub_le (by rw [hlength]; exact Nat.succ_pos _)
  have hword : |mean| < 2 ^ 63 := by
    have := hdrift.mean_le
    linarith
  have hcolumn : column (first :: rest) index =
      (valuesAt (first :: rest) index).map Float.ofInt := by
    rw [column, valuesAt, List.map_map]
    rfl
  rw [hlength] at hclose
  refine ⟨_, mean, ?_, hvalued, hvalued.toWord_eq hword, hclose⟩
  have hrange : index < first.values.length := hwidth.symm ▸ hindex
  simp only [List.getElem?_map, List.getElem?_range hrange, Option.map_some, hmean,
    Reduction.apply, hcolumn]

/-- Whether the exact mean of a column is farther from every whole number but zero than the computed
one may be off. -/
def Clear (samples : List Sample) (bound index : ℕ) : Prop :=
  ∀ w : ℤ, w ≠ 0 → slack samples bound < |meanAt samples index - w|

lemma wholeMeanAt_eq_truncate (h : samples ≠ []) (index : ℕ) :
    wholeMeanAt samples index = truncate (meanAt samples index) :=
  (truncate_div _ (List.length_pos_iff.mpr h)).symm

/-- If all columns are clear, the aggregate of any order of the samples shows their exact means. -/
lemma exists_map_whole (h : Sized samples width bound) {reduction : ℕ → Reduction}
    (hclear : ∀ index < width, reduction index = .mean ∧ Clear samples bound index)
    (hperm : other.Perm samples) :
    ∃ aggregate, reduce reduction other = some aggregate ∧
      aggregate.fields.map Report.whole = (List.range width).map (wholeMeanAt samples) := by
  have hother := h.perm hperm
  obtain ⟨aggregate, hreduce, hlength, hfigures⟩ := exists_figures hother reduction
  refine ⟨aggregate, hreduce, List.ext_getElem? fun index => ?_⟩
  rw [List.getElem?_map, List.getElem?_map]
  rcases lt_or_ge index width with hindex | hindex
  · obtain ⟨hmean, hfar⟩ := hclear index hindex
    obtain ⟨figure, mean, hfigure, -, hwhole, hclose⟩ := hfigures index hindex hmean
    have htotal : meanAt other index = meanAt samples index := by
      rw [meanAt, meanAt, totalAt_perm hperm, hperm.length_eq]
    have hslack : slack other bound = slack samples bound := by
      rw [slack, slack, hperm.length_eq]
    rw [htotal, hslack] at hclose
    rw [hfigure, List.getElem?_range hindex, Option.map_some, Option.map_some, hwhole,
      wholeMeanAt_eq_truncate h.nonempty, truncate_eq_of_clear hclose (slack_lt_one h) hfar]
  · rw [List.getElem?_eq_none (hlength ▸ hindex), List.getElem?_eq_none (by simpa using hindex)]
    rfl

/-! ## Lines of a report -/

/-- Lines show of a pair of figures only their whole parts. -/
lemma map_statsFields_pairUp {a b : List Float} (h : a.map Report.whole = b.map Report.whole) :
    (pairUp a).map Report.statsFields = (pairUp b).map Report.statsFields := by
  induction a using pairUp.induct generalizing b with
  | case1 mean spread rest ih =>
    obtain ⟨mean', b', rfl, hmean, h⟩ := List.map_eq_cons_iff.mp h.symm
    obtain ⟨spread', rest', rfl, hspread, h⟩ := List.map_eq_cons_iff.mp h
    rw [pairUp, pairUp, List.map_cons, List.map_cons, ih h.symm, Report.statsFields,
      Report.statsFields, hmean, hspread]
  | case2 a hshort =>
    have hnil : ∀ figures : List Float, figures.length = a.length → pairUp figures = [] := by
      intro figures hlength
      rw [← List.length_eq_zero_iff, length_pairUp]
      rcases a with _ | ⟨x, _ | ⟨y, rest⟩⟩
      · simp [hlength]
      · simp [hlength]
      · exact (hshort x y rest rfl).elim
    have hlength : b.length = a.length := by
      have hmap := congrArg List.length h.symm
      rwa [List.length_map, List.length_map] at hmap
    rw [hnil a rfl, hnil b hlength]

/-- Aggregates with the same whole figures make the same lines. -/
lemma line_congr {a b : Aggregate} (h : a.fields.map Report.whole = b.fields.map Report.whole) :
    (∀ replicas protocol variant,
      (AgreementScan.rowOf replicas protocol variant a).map AgreementRow.toLine =
        (AgreementScan.rowOf replicas protocol variant b).map AgreementRow.toLine) ∧
    (∀ clients variant,
      (StoreScan.rowOf clients variant a).map StoreRow.toLine =
        (StoreScan.rowOf clients variant b).map StoreRow.toLine) := by
  have hpairs : a.pairs.map Report.statsFields = b.pairs.map Report.statsFields :=
    map_statsFields_pairUp h
  constructor
  · intro replicas protocol variant
    have hline : ∀ aggregate : Aggregate,
        (AgreementScan.rowOf replicas protocol variant aggregate).map AgreementRow.toLine =
          (aggregate.pairs.map Report.statsFields).head?.map fun fields =>
            Report.line ([countText replicas, protocol.label, Report.variantField variant] ++
              fields) := by
      intro aggregate
      rw [AgreementScan.rowOf, List.head?_map, Option.map_map, Option.map_map]
      rfl
    rw [hline, hline, hpairs]
  · intro clients variant
    have hline : ∀ (aggregate : Aggregate) (line : String),
        (StoreScan.rowOf clients variant aggregate).map StoreRow.toLine = some line ↔
          ∃ write read, aggregate.pairs.map Report.statsFields = [write, read] ∧
            Report.line ([countText clients, Report.variantField variant] ++ write ++ read) =
              line := by
      intro aggregate line
      rw [StoreScan.rowOf]
      rcases aggregate.pairs with _ | ⟨write, _ | ⟨read, _ | ⟨third, rest⟩⟩⟩ <;>
        simp [StoreRow.toLine]
    refine Option.ext fun line => ?_
    rw [hline, hline, hpairs]

/-! ## The means of a report -/

/-- The figure that a report shows of a mean is that of the exact mean unless the rounding errors have
carried the computed mean across a whole number, and then the two are neighbours.  The errors are
bounded (`slack`).  Where they are less than the distance between two possible means, only a mean that
is itself a whole number can lose a unit.  Where all means are clear of whole numbers, the samples
may come in any order. -/
theorem whole_mean_spec (h : Sized samples width bound) (reduction : ℕ → Reduction) :
    ∃ aggregate, reduce reduction samples = some aggregate ∧
      (∀ index < width, reduction index = .mean →
        ∃ figure mean, aggregate.fields[index]? = some figure ∧ Valued figure mean ∧
          |mean - meanAt samples index| ≤ slack samples bound ∧
          (Report.whole figure = wholeMeanAt samples index ↔
            ¬ ∃ w : ℕ, min |mean| |meanAt samples index| < w ∧
              (w : ℚ) ≤ max |mean| |meanAt samples index|) ∧
          |Report.whole figure - wholeMeanAt samples index| ≤ 1 ∧
          (bound * (samples.length + 8) * samples.length < 2 ^ 53 →
            (Report.whole figure = wholeMeanAt samples index ↔
              ((samples.length : ℤ) ∣ totalAt samples index →
                |meanAt samples index| ≤ |mean|)))) ∧
      ((∀ index < width, reduction index = .mean ∧ Clear samples bound index) →
        aggregate.fields.map Report.whole = (List.range width).map (wholeMeanAt samples) ∧
        ∀ other : List Sample, other.Perm samples →
          ∃ reordered, reduce reduction other = some reordered ∧
            (∀ replicas protocol variant,
              (AgreementScan.rowOf replicas protocol variant reordered).map AgreementRow.toLine =
                (AgreementScan.rowOf replicas protocol variant aggregate).map
                  AgreementRow.toLine) ∧
            ∀ clients variant,
              (StoreScan.rowOf clients variant reordered).map StoreRow.toLine =
                (StoreScan.rowOf clients variant aggregate).map StoreRow.toLine) := by
  obtain ⟨aggregate, hreduce, -, hfigures⟩ := exists_figures h reduction
  refine ⟨aggregate, hreduce, ?_, ?_⟩
  · intro index hindex hmean
    obtain ⟨figure, mean, hfigure, hvalued, hwhole, hclose⟩ := hfigures index hindex hmean
    have hone : |mean - meanAt samples index| < 1 := hclose.trans_lt (slack_lt_one h)
    have hcount := List.length_pos_iff.mpr h.nonempty
    refine ⟨figure, mean, hfigure, hvalued, hclose, ?_, ?_, ?_⟩
    · rw [hwhole, wholeMeanAt_eq_truncate h.nonempty, truncate_eq_truncate_iff hone,
        floor_eq_floor_iff (abs_nonneg _) (abs_nonneg _)]
    · rw [hwhole, wholeMeanAt_eq_truncate h.nonempty]
      exact abs_truncate_sub_le hone
    · intro hfine
      rw [hwhole]
      exact truncate_eq_tdiv_iff hcount (hclose.trans_lt (slack_lt_of_fine hcount hfine))
  · intro hclear
    obtain ⟨same, hsame, hmap⟩ := exists_map_whole h hclear (List.Perm.refl samples)
    obtain rfl := Option.some.inj (hreduce.symm.trans hsame)
    refine ⟨hmap, fun other hperm => ?_⟩
    obtain ⟨reordered, hreordered, hmap'⟩ := exists_map_whole h hclear hperm
    exact ⟨reordered, hreordered, line_congr (hmap'.trans hmap.symm)⟩

/-- The mean of 1 and 2 is clear of whole numbers, so it is written without its fraction in either
order. -/
theorem whole_mean_spec_half :
    Sized [⟨[1]⟩, ⟨[2]⟩] 1 2 ∧ Clear [⟨[1]⟩, ⟨[2]⟩] 2 0 ∧
      ∃ aggregate, meanOf [⟨[1]⟩, ⟨[2]⟩] = some aggregate ∧
        aggregate.fields.map Report.whole = [1] ∧
        ∃ reordered, meanOf [⟨[2]⟩, ⟨[1]⟩] = some reordered ∧
          ∀ clients variant,
            (StoreScan.rowOf clients variant reordered).map StoreRow.toLine =
              (StoreScan.rowOf clients variant aggregate).map StoreRow.toLine := by
  have hsized : Sized [⟨[1]⟩, ⟨[2]⟩] 1 2 :=
    ⟨by decide, by decide, by decide, by decide, by decide, by decide⟩
  have hmean : meanAt [⟨[1]⟩, ⟨[2]⟩] 0 = 3 / 2 := by
    have htotal : totalAt [⟨[1]⟩, ⟨[2]⟩] 0 = 3 := by decide
    rw [meanAt, htotal]
    norm_num
  have hclear : Clear [⟨[1]⟩, ⟨[2]⟩] 2 0 := by
    intro w _
    have hslack : slack [⟨[1]⟩, ⟨[2]⟩] 2 < 1 / 2 := by
      rw [slack]
      norm_num
    refine hslack.trans_le ?_
    rw [hmean, le_abs]
    rcases le_or_gt w 1 with hw | hw
    · have : (w : ℚ) ≤ 1 := by exact_mod_cast hw
      exact .inl (by linarith)
    · have : (2 : ℚ) ≤ w := by exact_mod_cast hw
      exact .inr (by linarith)
  obtain ⟨aggregate, hreduce, -, horder⟩ := whole_mean_spec hsized fun _ => .mean
  have hcolumns : ∀ index < 1, (fun _ => Reduction.mean) index = .mean ∧
      Clear [⟨[1]⟩, ⟨[2]⟩] 2 index := by
    intro index hindex
    obtain rfl : index = 0 := by omega
    exact ⟨rfl, hclear⟩
  obtain ⟨hmap, hothers⟩ := horder hcolumns
  obtain ⟨reordered, hreordered, -, hline⟩ := hothers [⟨[2]⟩, ⟨[1]⟩] (by decide)
  exact ⟨hsized, hclear, aggregate, hreduce, by rw [hmap]; decide, reordered, hreordered, hline⟩

/-- Four samples whose mean is 2.  In the order 0, 1, 6, 1 the running mean ends just below it. -/
theorem mean_loses_unit :
    Sized [⟨[0, 3]⟩, ⟨[1, 3]⟩, ⟨[6, 3]⟩, ⟨[1, 3]⟩] 2 (2 ^ 31) ∧
      List.Perm [⟨[6, 3]⟩, ⟨[1, 3]⟩, ⟨[1, 3]⟩, ⟨[0, 3]⟩]
        [(⟨[0, 3]⟩ : Sample), ⟨[1, 3]⟩, ⟨[6, 3]⟩, ⟨[1, 3]⟩] ∧
      wholeMeanAt [⟨[0, 3]⟩, ⟨[1, 3]⟩, ⟨[6, 3]⟩, ⟨[1, 3]⟩] 0 = 2 ∧
      (meanOf [⟨[0, 3]⟩, ⟨[1, 3]⟩, ⟨[6, 3]⟩, ⟨[1, 3]⟩]).map
        (fun aggregate => aggregate.fields.map Report.whole) = some [1, 3] ∧
      (meanOf [⟨[6, 3]⟩, ⟨[1, 3]⟩, ⟨[1, 3]⟩, ⟨[0, 3]⟩]).map
        (fun aggregate => aggregate.fields.map Report.whole) = some [2, 3] := by
  refine ⟨⟨by decide, by decide, by decide, by decide, by decide, by decide⟩, by decide, by decide,
    ?_, ?_⟩
  · decide +kernel
  · decide +kernel

end Aggregate

end BenchReport
