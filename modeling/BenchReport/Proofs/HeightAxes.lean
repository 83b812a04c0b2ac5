import BenchReport.Proofs.ExtendedDoubles
import BenchReport.Surface.Grid

/-!
# The height axis of a surface

The height axis starts at the lowest height, or at zero if that is below it, and ends at the highest
height, or one above its start if the highest height is not above that.  This is meant to be a range
between two numbers for every grid.  `SurfaceGrid.isUsable_axisRange_iff` says that it is one for the
regular grids (`SurfaceGrid.IsRegular`) and for no others.  A grid is not regular if it has an infinite
height, or if all its heights are at one number to which doubles add one without effect
(`Binary64.IsCoarse`): the axis then ends where it starts.  Neither can happen to points whose heights
are ordinary (`SurfaceGrid.IsOrdinary`).  Finite heights are on the axis of every grid.

The heights are folded as doubles, where a NaN gives way to every number.  In the numbers with both
infinities, this takes the infimum and the supremum of the heights that are no NaN
(`SurfaceGrid.standsFor_heights`), also if there are none: the fold starts with those of no numbers.
-/

namespace BenchReport

namespace Binary64

/-! ## The numbers among some doubles -/

/-- The numbers among some doubles. -/
def numbersIn (doubles : List Float) : Set EReal := {v | ∃ z ∈ doubles, StandsFor z v}

lemma numbersIn_nil : numbersIn [] = ∅ := by
  simp [numbersIn]

lemma numbersIn_cons_of_isNaN {z : Float} (h : z.isNaN = true) (doubles : List Float) :
    numbersIn (z :: doubles) = numbersIn doubles := by
  have hnone : ∀ v, ¬ StandsFor z v := fun v hv => by
    rw [hv.isNaN] at h
    cases h
  ext v
  simp [numbersIn, hnone]

lemma numbersIn_cons {z : Float} {v : EReal} (h : StandsFor z v) (doubles : List Float) :
    numbersIn (z :: doubles) = insert v (numbersIn doubles) := by
  have hz : ∀ w, StandsFor z w ↔ w = v := fun w => ⟨fun hw => hw.unique h, fun hw => hw ▸ h⟩
  ext w
  simp [numbersIn, hz]

lemma finite_numbersIn (doubles : List Float) : (numbersIn doubles).Finite := by
  induction doubles with
  | nil => simp [numbersIn_nil]
  | cons z doubles ih =>
    cases hz : z.isNaN with
    | true => rwa [numbersIn_cons_of_isNaN hz]
    | false =>
      obtain ⟨v, hv⟩ := exists_standsFor_iff.mpr hz
      rw [numbersIn_cons hv]
      exact ih.insert v

/-- Folding doubles into a range takes the infimum and the supremum of the numbers to its ends. -/
lemma standsFor_foldl (doubles : List Float) {lo hi : Float} {v w : EReal} (hlo : StandsFor lo v)
    (hhi : StandsFor hi w) :
    StandsFor (doubles.foldl (fun (lo, hi) z => (smaller lo z, larger hi z)) (lo, hi)).1
        (min v (sInf (numbersIn doubles))) ∧
      StandsFor (doubles.foldl (fun (lo, hi) z => (smaller lo z, larger hi z)) (lo, hi)).2
        (max w (sSup (numbersIn doubles))) := by
  induction doubles generalizing lo hi v w with
  | nil => simpa [numbersIn_nil] using And.intro hlo hhi
  | cons z doubles ih =>
    rw [List.foldl_cons]
    dsimp only
    cases hz : z.isNaN with
    | true =>
      rw [(hlo.smaller_larger_of_isNaN hz).1, (hhi.smaller_larger_of_isNaN hz).2,
        numbersIn_cons_of_isNaN hz]
      exact ih hlo hhi
    | false =>
      obtain ⟨u, hu⟩ := exists_standsFor_iff.mpr hz
      rw [numbersIn_cons hu, sInf_insert, sSup_insert, ← inf_assoc, ← sup_assoc]
      exact ih (hlo.smaller hu) (hhi.larger hu)

end Binary64

open Binary64 (StandsFor Valued IsCoarse)

namespace SurfaceGrid

/-! ## The levels of a grid -/

/-- The numbers among the heights of a grid. -/
def levels (grid : SurfaceGrid) : Set EReal := Binary64.numbersIn grid.cells.toList

variable (grid : SurfaceGrid)

lemma mem_levels {v : EReal} : v ∈ grid.levels ↔ ∃ z ∈ grid.cells, StandsFor z v := by
  simp [levels, Binary64.numbersIn]

/-- The range of the heights is their infimum and their supremum. -/
lemma standsFor_heights :
    StandsFor grid.heights.1 (sInf grid.levels) ∧ StandsFor grid.heights.2 (sSup grid.levels) := by
  have hfold := Binary64.standsFor_foldl grid.cells.toList Binary64.standsFor_infinity
    Binary64.standsFor_neg_infinity
  rw [heights, ← Array.foldl_toList]
  simpa [levels] using hfold

lemma sInf_levels_eq_bot_iff : sInf grid.levels = ⊥ ↔ ⊥ ∈ grid.levels := by
  refine ⟨fun h => ?_, fun h => le_bot_iff.mp (sInf_le h)⟩
  rcases grid.levels.eq_empty_or_nonempty with hempty | hne
  · simp [hempty] at h
  · rw [← h]
    exact hne.csInf_mem (Binary64.finite_numbersIn _)

lemma sSup_levels_eq_top_iff : sSup grid.levels = ⊤ ↔ ⊤ ∈ grid.levels := by
  refine ⟨fun h => ?_, fun h => top_le_iff.mp (le_sSup h)⟩
  rcases grid.levels.eq_empty_or_nonempty with hempty | hne
  · simp [hempty] at h
  · rw [← h]
    exact hne.csSup_mem (Binary64.finite_numbersIn _)

/-- No height is infinite. -/
def HasNoInfinity : Prop := ∀ z ∈ grid.cells, z.isFinite = true ∨ z.isNaN = true

/-- All heights that are no NaN are at one number, and there are such heights. -/
def IsLevelAt (a : ℚ) : Prop :=
  (∃ z ∈ grid.cells, z.isNaN = false) ∧ ∀ z ∈ grid.cells, z.isNaN = false → Valued z a

lemma hasNoInfinity_iff : grid.HasNoInfinity ↔ ⊥ ∉ grid.levels ∧ ⊤ ∉ grid.levels := by
  simp only [HasNoInfinity, mem_levels]
  constructor
  · intro h
    refine ⟨fun ⟨z, hz, hv⟩ => ?_, fun ⟨z, hz, hv⟩ => ?_⟩ <;>
    · rcases h z hz with hfinite | hnan
      · simp [hv.isFinite_iff] at hfinite
      · rw [hv.isNaN] at hnan
        cases hnan
  · rintro ⟨hbot, htop⟩ z hz
    cases hnan : z.isNaN with
    | true => exact .inr rfl
    | false =>
      obtain ⟨v, hv⟩ := Binary64.exists_standsFor_iff.mpr hnan
      refine .inl (hv.isFinite_iff.mpr ⟨?_, ?_⟩)
      · rintro rfl
        exact hbot ⟨z, hz, hv⟩
      · rintro rfl
        exact htop ⟨z, hz, hv⟩

lemma isLevelAt_iff {a : ℚ} : grid.IsLevelAt a ↔ grid.levels = {((a : ℝ) : EReal)} := by
  constructor
  · rintro ⟨⟨z, hz, hnan⟩, hall⟩
    refine Set.eq_singleton_iff_unique_mem.mpr
      ⟨grid.mem_levels.mpr ⟨z, hz, .number (hall z hz hnan)⟩, fun v hv => ?_⟩
    obtain ⟨other, hother, hv⟩ := grid.mem_levels.mp hv
    exact hv.unique (.number (hall other hother hv.isNaN))
  · intro hlevels
    have hmem : ((a : ℝ) : EReal) ∈ grid.levels := by rw [hlevels]; rfl
    obtain ⟨z, hz, hv⟩ := grid.mem_levels.mp hmem
    refine ⟨⟨z, hz, hv.isNaN⟩, fun other hother hnan => ?_⟩
    obtain ⟨v, hv⟩ := Binary64.exists_standsFor_iff.mpr hnan
    have hmem : v ∈ grid.levels := grid.mem_levels.mpr ⟨other, hother, hv⟩
    rw [hlevels, Set.mem_singleton_iff] at hmem
    subst hmem
    exact hv.valued

lemma levels_eq_singleton_iff {v : EReal} (hv : v ≠ ⊤) :
    grid.levels = {v} ↔ sInf grid.levels = v ∧ sSup grid.levels ≤ v := by
  constructor
  · intro h
    simp [h]
  · rintro ⟨hinf, hsup⟩
    have hne : grid.levels.Nonempty := by
      rw [Set.nonempty_iff_ne_empty]
      intro hempty
      rw [hempty, sInf_empty] at hinf
      exact hv hinf.symm
    refine hne.subset_singleton_iff.mp fun u hu => ?_
    exact le_antisymm ((le_sSup hu).trans hsup) (hinf ▸ sInf_le hu)

/-- A grid without an infinite height, whose heights are not all at one coarse number. -/
def IsRegular : Prop := grid.HasNoInfinity ∧ ¬ ∃ a, IsCoarse a ∧ grid.IsLevelAt a

lemma isRegular_iff : grid.IsRegular ↔ (sInf grid.levels ≠ ⊥ ∧ sSup grid.levels ≠ ⊤) ∧
    ¬ ∃ a, IsCoarse a ∧ sInf grid.levels = ((a : ℝ) : EReal) ∧
      sSup grid.levels ≤ ((a : ℝ) : EReal) := by
  rw [IsRegular, hasNoInfinity_iff, Ne, Ne, sInf_levels_eq_bot_iff, sSup_levels_eq_top_iff]
  simp only [isLevelAt_iff, levels_eq_singleton_iff _ (EReal.coe_ne_top _)]

/-! ## The heights of points -/

/-- A height that keeps a grid regular: a NaN, or a number that is not far below zero. -/
def IsOrdinary (z : Float) : Prop := z.isNaN = true ∨ ∃ a, Valued z a ∧ -2 ^ 53 ≤ a

lemma isOrdinary_zero : IsOrdinary 0 := by
  have hzero : Valued 0 0 := Binary64.valued_ofNat (by norm_num)
  exact .inr ⟨0, hzero, by norm_num⟩

/-- A height is that of a point, or of a cell without one. -/
lemma mem_foldl_place {width : ℕ} {points : List SurfacePoint} {cells : Array Float} {z : Float}
    (h : z ∈ points.foldl (place width) cells) : z ∈ cells ∨ ∃ point ∈ points, point.z = z := by
  induction points generalizing cells with
  | nil => exact .inl h
  | cons first points ih =>
    rcases ih h with hcells | ⟨point, hpoint, hz⟩
    · rcases Array.mem_or_eq_of_mem_setIfInBounds hcells with hcells | hz
      · exact .inl hcells
      · exact .inr ⟨first, List.mem_cons_self, hz.symm⟩
    · exact .inr ⟨point, List.mem_cons_of_mem _ hpoint, hz⟩

lemma isOrdinary_of_ofPoints {points : List SurfacePoint} {grid : SurfaceGrid}
    (h : ofPoints points = .ok (some grid)) (hpoints : ∀ point ∈ points, IsOrdinary point.z) :
    ∀ z ∈ grid.cells, IsOrdinary z := by
  rw [ofPoints] at h
  split_ifs at h
  · cases h
  dsimp only at h
  split at h
  · cases h
  · obtain rfl := Option.some.inj (Except.ok.inj h)
    intro z hz
    rcases mem_foldl_place hz with hzero | ⟨point, hpoint, rfl⟩
    · obtain rfl := (Array.mem_replicate.mp hzero).2
      exact isOrdinary_zero
    · exact hpoints point hpoint

lemma isRegular_of_isOrdinary (h : ∀ z ∈ grid.cells, IsOrdinary z) : grid.IsRegular := by
  constructor
  · intro z hz
    rcases h z hz with hnan | ⟨a, ha, -⟩
    · exact .inr hnan
    · exact .inl ha.isFinite
  · rintro ⟨a, ⟨n, rfl, hn, -⟩, ⟨z, hz, hnan⟩, hlevel⟩
    rcases h z hz with hnan' | ⟨b, hb, hlow⟩
    · rw [hnan'] at hnan
      cases hnan
    · obtain rfl : b = n := hb.unique (hlevel z hz hnan)
      exact hlow.not_gt (by exact_mod_cast hn)

/-! ## The axis -/

/-- Whether a range can be shown by an axis: its ends are finite, and it is not empty. -/
def IsUsable (range : Float × Float) : Prop :=
  range.1.isFinite = true ∧ range.2.isFinite = true ∧ range.1 < range.2

instance : DecidablePred IsUsable := fun range =>
  inferInstanceAs (Decidable (range.1.isFinite = true ∧ range.2.isFinite = true ∧ range.1 < range.2))

/-- Whether a height lies in a range. -/
def Holds (range : Float × Float) (z : Float) : Prop := range.1 ≤ z ∧ z ≤ range.2

/-- The lower end of the height axis. -/
lemma standsFor_axisRange_fst : StandsFor grid.axisRange.1 (min (sInf grid.levels) 0) :=
  grid.standsFor_heights.1.smaller Binary64.standsFor_zero

/-- The upper end of the height axis is that of the heights, if this is above the lower one. -/
lemma axisRange_snd : grid.axisRange.2 =
    if grid.axisRange.1 < grid.heights.2 then grid.heights.2 else grid.axisRange.1 + 1 := rfl

/-- A range of two numbers is usable if they are in order. -/
lemma isUsable_iff {range : Float × Float} {v w : EReal} (hlo : StandsFor range.1 v)
    (hhi : StandsFor range.2 w) : IsUsable range ↔ (v ≠ ⊥ ∧ v ≠ ⊤) ∧ (w ≠ ⊥ ∧ w ≠ ⊤) ∧ v < w := by
  rw [IsUsable, hlo.isFinite_iff, hhi.isFinite_iff, hlo.lt_iff hhi]

/-- A range holds the finite heights of a grid, if it spans all of them. -/
lemma holds_of_span {range : Float × Float} {v w : EReal} (hlo : StandsFor range.1 v)
    (hhi : StandsFor range.2 w)
    (hspan : ∀ a : ℚ, ((a : ℝ) : EReal) ∈ grid.levels → v ≤ ((a : ℝ) : EReal) ∧ ((a : ℝ) : EReal) ≤ w) :
    ∀ z ∈ grid.cells, z.isFinite = true → Holds range z := by
  intro z hz hfinite
  obtain ⟨a, ha⟩ := Binary64.exists_valued_iff.mpr hfinite
  obtain ⟨hlow, hhigh⟩ := hspan a (grid.mem_levels.mpr ⟨z, hz, .number ha⟩)
  exact ⟨(hlo.le_iff (.number ha)).mpr hlow, ((StandsFor.number ha).le_iff hhi).mpr hhigh⟩

/-- With heights above its lower end the axis reaches up to the highest one. -/
lemma isUsable_axisRange_of_lt (hlt : min (sInf grid.levels) 0 < sSup grid.levels) :
    (IsUsable grid.axisRange ↔ grid.IsRegular) ∧
      ∀ z ∈ grid.cells, z.isFinite = true → Holds grid.axisRange z := by
  have hlo := grid.standsFor_axisRange_fst
  have hhi : StandsFor grid.axisRange.2 (sSup grid.levels) := by
    rw [axisRange_snd, if_pos ((hlo.lt_iff grid.standsFor_heights.2).mpr hlt)]
    exact grid.standsFor_heights.2
  refine ⟨?_, grid.holds_of_span hlo hhi fun a ha => ⟨(min_le_left _ _).trans (sInf_le ha), le_sSup ha⟩⟩
  have hlevel : ¬ ∃ a, IsCoarse a ∧ sInf grid.levels = ((a : ℝ) : EReal) ∧
      sSup grid.levels ≤ ((a : ℝ) : EReal) := by
    rintro ⟨a, hcoarse, hinf, hsup⟩
    have hneg : ((a : ℝ) : EReal) ≤ 0 := by exact_mod_cast hcoarse.neg.le
    rw [hinf, min_eq_left hneg] at hlt
    exact hlt.not_ge hsup
  have hbot : min (sInf grid.levels) 0 ≠ ⊥ ↔ sInf grid.levels ≠ ⊥ := by
    simp [min_eq_bot]
  have htop : min (sInf grid.levels) 0 ≠ ⊤ := (hlt.trans_le le_top).ne
  rw [isUsable_iff hlo hhi, isRegular_iff, hbot]
  exact ⟨fun ⟨⟨hlow, _⟩, ⟨_, hhigh⟩, _⟩ => ⟨⟨hlow, hhigh⟩, hlevel⟩,
    fun ⟨⟨hlow, hhigh⟩, _⟩ => ⟨⟨hlow, htop⟩, ⟨hlt.bot_lt.ne', hhigh⟩, hlt⟩⟩

/-- With a height below all numbers the axis starts there, and there are no other heights if none is
above that. -/
lemma isUsable_axisRange_of_bot (hinf : sInf grid.levels = ⊥) (hsup : sSup grid.levels = ⊥) :
    (IsUsable grid.axisRange ↔ grid.IsRegular) ∧
      ∀ z ∈ grid.cells, z.isFinite = true → Holds grid.axisRange z := by
  constructor
  · have hlo := grid.standsFor_axisRange_fst
    refine iff_of_false (fun h => ?_) fun h => (grid.isRegular_iff.mp h).1.1 hinf
    simpa [hlo.isFinite_iff, hinf] using h.1
  · intro z hz hfinite
    obtain ⟨a, ha⟩ := Binary64.exists_valued_iff.mpr hfinite
    have hle := le_sSup (grid.mem_levels.mpr ⟨z, hz, .number ha⟩)
    simp [hsup] at hle

/-- Where no height is above the lower end, all are at a coarse number if this end is one. -/
lemma exists_coarse_level_iff {a : ℚ} (hinf : min (sInf grid.levels) 0 = ((a : ℝ) : EReal))
    (hsup : sSup grid.levels ≤ ((a : ℝ) : EReal)) :
    (∃ b, IsCoarse b ∧ sInf grid.levels = ((b : ℝ) : EReal) ∧
      sSup grid.levels ≤ ((b : ℝ) : EReal)) ↔ IsCoarse a := by
  constructor
  · rintro ⟨b, hcoarse, hb, -⟩
    have hneg : ((b : ℝ) : EReal) ≤ 0 := by exact_mod_cast hcoarse.neg.le
    rw [hb, min_eq_left hneg] at hinf
    obtain rfl : b = a := by exact_mod_cast hinf
    exact hcoarse
  · intro hcoarse
    have hne : ((a : ℝ) : EReal) ≠ 0 := by exact_mod_cast hcoarse.neg.ne
    refine ⟨a, hcoarse, ?_, hsup⟩
    rcases min_choice (sInf grid.levels) 0 with hmin | hmin
    · rwa [hmin] at hinf
    · exact absurd (hinf.symm.trans hmin) hne

/-- Without heights above its lower end the axis reaches up to one more than that. -/
lemma isUsable_axisRange_of_le (hle : sSup grid.levels ≤ min (sInf grid.levels) 0) :
    (IsUsable grid.axisRange ↔ grid.IsRegular) ∧
      ∀ z ∈ grid.cells, z.isFinite = true → Holds grid.axisRange z := by
  have hlo := grid.standsFor_axisRange_fst
  have hsnd : grid.axisRange.2 = grid.axisRange.1 + 1 := by
    rw [axisRange_snd, if_neg (mt (hlo.lt_iff grid.standsFor_heights.2).mp hle.not_gt)]
  have hzero : min (sInf grid.levels) 0 ≤ 0 := min_le_right _ _
  generalize hv : min (sInf grid.levels) 0 = v at hlo hle hzero
  cases hlo with
  | infinity => simp at hzero
  | negInfinity =>
    exact grid.isUsable_axisRange_of_bot (by simpa [min_eq_bot] using hv) (le_bot_iff.mp hle)
  | @number a ha =>
    obtain ⟨b, hb, hab, hlt⟩ := ha.add_one (by exact_mod_cast hzero)
    rw [← hsnd] at hb
    have hinf : ((a : ℝ) : EReal) ≤ sInf grid.levels := hv ▸ min_le_left _ _
    have hsup : sSup grid.levels ≤ ((b : ℝ) : EReal) := hle.trans (by exact_mod_cast hab)
    refine ⟨?_, grid.holds_of_span (.number ha) (.number hb) fun q hq =>
      ⟨hinf.trans (sInf_le hq), (le_sSup hq).trans hsup⟩⟩
    have hbot : sInf grid.levels ≠ ⊥ := ((EReal.bot_lt_coe _).trans_le hinf).ne'
    have htop : sSup grid.levels ≠ ⊤ := (hle.trans_lt (EReal.coe_lt_top _)).ne
    rw [isUsable_iff (.number ha) (.number hb), isRegular_iff, exists_coarse_level_iff grid hv hle,
      ← hlt]
    simp [hbot, htop]

/-- **The height axis** is usable for regular grids, and only for them, such as those of points whose
heights are ordinary.  It holds the finite heights of every grid. -/
theorem isUsable_axisRange_iff : (IsUsable grid.axisRange ↔ grid.IsRegular) ∧
    (∀ points, ofPoints points = .ok (some grid) → (∀ point ∈ points, IsOrdinary point.z) →
      IsUsable grid.axisRange) ∧
    ∀ z ∈ grid.cells, z.isFinite = true → Holds grid.axisRange z := by
  have hall : (IsUsable grid.axisRange ↔ grid.IsRegular) ∧
      ∀ z ∈ grid.cells, z.isFinite = true → Holds grid.axisRange z := by
    rcases lt_or_ge (min (sInf grid.levels) 0) (sSup grid.levels) with hlt | hle
    · exact grid.isUsable_axisRange_of_lt hlt
    · exact grid.isUsable_axisRange_of_le hle
  refine ⟨hall.1, fun points hgrid hpoints => ?_, hall.2⟩
  exact hall.1.mpr (grid.isRegular_of_isOrdinary (isOrdinary_of_ofPoints hgrid hpoints))

/-- Points above and below zero, with a NaN at the place of another one. -/
theorem isUsable_axisRange_iff_nan_point :
    let points : List SurfacePoint := [⟨0, 0, 7⟩, ⟨0, 0, Float.nan⟩, ⟨1, 0, Float.ofInt (-3)⟩, ⟨1, 1, 2⟩]
    (∀ point ∈ points, IsOrdinary point.z) ∧ ∃ grid, ofPoints points = .ok (some grid) ∧
      IsUsable grid.axisRange ∧ grid.IsRegular ∧
        2 ∈ grid.cells ∧ (2 : Float).isFinite = true ∧ Holds grid.axisRange 2 := by
  intro points
  have hordinary : ∀ point ∈ points, IsOrdinary point.z := by
    have hnumber : ∀ {z : Float} {a : ℚ}, Valued z a → -2 ^ 53 ≤ a → IsOrdinary z :=
      fun hz ha => .inr ⟨_, hz, ha⟩
    simp only [points, List.forall_mem_cons]
    refine ⟨hnumber (Binary64.valued_ofNat (by norm_num)) (by norm_num), .inl (by decide +kernel),
      hnumber (Binary64.valued_ofInt (by norm_num)) (by norm_num),
      hnumber (Binary64.valued_ofNat (by norm_num)) (by norm_num), by simp⟩
  obtain ⟨grid, hgrid, hcells⟩ : ∃ grid, ofPoints points = .ok (some grid) ∧ 2 ∈ grid.cells :=
    ⟨_, rfl, Array.mem_of_getElem? (i := 3) rfl⟩
  have hfinite : (2 : Float).isFinite = true := by decide +kernel
  obtain ⟨hiff, hpoints, hholds⟩ := isUsable_axisRange_iff grid
  have husable := hpoints points hgrid hordinary
  exact ⟨hordinary, grid, hgrid, husable, hiff.mp husable, hcells, hfinite, hholds 2 hcells hfinite⟩

/-- Points on a plane at `-10 ^ 17`, and a point at an infinite height. -/
theorem not_isUsable_axisRange_plane :
    let plane := Utf8.ofString "0 0 -1e17\n1 0 -1e17\n0 1 -1e17\n1 1 -1e17\n"
    let peak := Utf8.ofString "0 0 inf\n"
    (∃ points grid, Surface.points plane = .ok points ∧ ofPoints points = .ok (some grid) ∧
        grid.axisRange.1.isFinite = true ∧ grid.axisRange.2 = grid.axisRange.1 ∧
        ¬ IsUsable grid.axisRange) ∧
      ∃ points grid, Surface.points peak = .ok points ∧ ofPoints points = .ok (some grid) ∧
        grid.axisRange.2.isFinite = false ∧ ¬ IsUsable grid.axisRange := by
  intro plane peak
  constructor
  · exact ⟨_, _, rfl, rfl, by decide +kernel, by decide +kernel, by decide +kernel⟩
  · exact ⟨_, _, rfl, rfl, by decide +kernel, by decide +kernel⟩

end SurfaceGrid
end BenchReport
