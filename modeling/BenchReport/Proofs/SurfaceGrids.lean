import Mathlib
import BenchReport.Surface.Grid

/-!
# The grid of some points

A grid holds its heights in one row of cells, one row of the grid behind the other.  Here it is told
place by place: where a point lies the height is that of the last one there (`IsLast`), and everywhere
else, inside and outside of the grid, it is zero (`SurfaceGrid.IsGridOf`).

`SurfaceGrid.ofPoints_spec` says for all points what becomes of them.  There is no grid exactly if
there are no points, and no room for one exactly if the largest indices span more cells than there
may be.  The number of cells is meant in whole numbers without a bound, while the sides of a grid are
worked out in 64 bits with a check at each step: no check fails for a number of cells that is allowed
(`SurfaceGrid.sides?_eq`).

Points may be put in another order as long as those at one place stay in theirs (`SameByPlace`): the
last one of them counts.
-/

namespace BenchReport

variable {points others : List SurfacePoint}

/-! ## Places of points -/

/-- Whether a point lies at a place. -/
def SurfacePoint.LiesAt (point : SurfacePoint) (x y : ℕ) : Prop := point.x = x ∧ point.y = y

instance (point : SurfacePoint) (x y : ℕ) : Decidable (point.LiesAt x y) :=
  inferInstanceAs (Decidable (point.x = x ∧ point.y = y))

/-- Whether a point is the last one at its place. -/
def IsLast (points : List SurfacePoint) (point : SurfacePoint) : Prop :=
  ∃ before after, points = before ++ point :: after ∧
    ∀ other ∈ after, ¬ other.LiesAt point.x point.y

/-- Whether two lists have at each place the same points in the same order. -/
def SameByPlace (points others : List SurfacePoint) : Prop :=
  ∀ x y, (points.filter fun point => point.LiesAt x y) = others.filter fun point => point.LiesAt x y

/-- Two neighbours at different places can change places in the list. -/
lemma sameByPlace_exchange (before after : List SurfacePoint) {point other : SurfacePoint}
    (h : ¬ other.LiesAt point.x point.y) :
    SameByPlace (before ++ point :: other :: after) (before ++ other :: point :: after) := by
  intro x y
  simp only [List.filter_append, List.filter_cons, decide_eq_true_eq]
  by_cases hpoint : point.LiesAt x y
  · obtain ⟨rfl, rfl⟩ := hpoint
    simp [h]
  · simp [hpoint]

/-- Where all points lie at different places, any order will do. -/
lemma sameByPlace_of_perm (hperm : others.Perm points)
    (hplaces : points.Pairwise fun a b => ¬ b.LiesAt a.x a.y) : SameByPlace points others := by
  intro x y
  -- no two of the points at one place are different ones
  have hone : ∀ {items : List SurfacePoint}, (items.Pairwise fun a b => ¬ b.LiesAt a.x a.y) →
      (items.filter fun point => point.LiesAt x y).Pairwise fun _ _ => False := by
    intro items hitems
    refine List.pairwise_filter.mpr (hitems.imp fun {a b} hne ha hb => hne ?_)
    obtain ⟨rfl, rfl⟩ := of_decide_eq_true ha
    exact of_decide_eq_true hb
  have hothers : others.Pairwise fun a b => ¬ b.LiesAt a.x a.y :=
    hperm.symm.pairwise hplaces fun {a b} hne hba => hne ⟨hba.1.symm, hba.2.symm⟩
  exact List.Perm.eq_of_pairwise (fun _ _ _ _ hfalse => hfalse.elim) (hone hplaces) (hone hothers)
    (hperm.symm.filter _)

lemma SameByPlace.mem_iff (h : SameByPlace points others) (point : SurfacePoint) :
    point ∈ points ↔ point ∈ others := by
  have hplace : point ∈ (points.filter fun p => p.LiesAt point.x point.y) ↔
      point ∈ others.filter fun p => p.LiesAt point.x point.y := by
    rw [h point.x point.y]
  simpa [SurfacePoint.LiesAt] using hplace

/-! ## The height at a place -/

/-- The height of the last point at a place, and zero if there is none. -/
def heightAt (points : List SurfacePoint) (x y : ℕ) : Float :=
  ((points.filter fun point => point.LiesAt x y).getLast?.map SurfacePoint.z).getD 0

lemma heightAt_of_isLast {point : SurfacePoint} (h : IsLast points point) :
    heightAt points point.x point.y = point.z := by
  obtain ⟨before, after, rfl, hafter⟩ := h
  have hnone : (after.filter fun other => other.LiesAt point.x point.y) = [] := by
    simpa using hafter
  rw [heightAt, List.filter_append, List.filter_cons_of_pos (by simp [SurfacePoint.LiesAt]), hnone]
  simp

lemma heightAt_of_forall_not {x y : ℕ} (h : ∀ point ∈ points, ¬ point.LiesAt x y) :
    heightAt points x y = 0 := by
  have hnone : (points.filter fun point => point.LiesAt x y) = [] := by
    simpa using h
  rw [heightAt, hnone]
  rfl

namespace SurfaceGrid

/-! ## The largest indices -/

/-- Whether the largest indices of some points are these. -/
structure ReachesTo (points : List SurfacePoint) (maxX maxY : ℕ) : Prop where
  x : IsGreatest {x | ∃ point ∈ points, point.x = x} maxX
  y : IsGreatest {y | ∃ point ∈ points, point.y = y} maxY

lemma isGreatest_largest {index : SurfacePoint → ℕ} (h : points ≠ []) :
    IsGreatest {n | ∃ point ∈ points, index point = n} (largest (points.map index)) := by
  obtain ⟨n, hn⟩ : ∃ n, (points.map index).max? = some n :=
    Option.ne_none_iff_exists'.mp (by simpa using h)
  obtain ⟨hmem, hupper⟩ := List.max?_eq_some_iff.mp hn
  rw [largest, List.foldl_max, hn, Option.getD_some, Nat.zero_max]
  refine ⟨by simpa using hmem, ?_⟩
  rintro _ ⟨point, hpoint, rfl⟩
  exact hupper _ (List.mem_map_of_mem hpoint)

lemma reachesTo_largest (h : points ≠ []) :
    ReachesTo points (largest (points.map SurfacePoint.x)) (largest (points.map SurfacePoint.y)) :=
  ⟨isGreatest_largest h, isGreatest_largest h⟩

lemma ReachesTo.unique {maxX maxY otherX otherY : ℕ} (h : ReachesTo points maxX maxY)
    (hother : ReachesTo points otherX otherY) : maxX = otherX ∧ maxY = otherY :=
  ⟨h.x.unique hother.x, h.y.unique hother.y⟩

lemma ReachesTo.ne_nil {maxX maxY : ℕ} (h : ReachesTo points maxX maxY) : points ≠ [] := by
  obtain ⟨point, hpoint, -⟩ := h.x.1
  exact List.ne_nil_of_mem hpoint

lemma ReachesTo.lt {maxX maxY : ℕ} (h : ReachesTo points maxX maxY) {point : SurfacePoint}
    (hpoint : point ∈ points) : point.x < maxX + 1 ∧ point.y < maxY + 1 :=
  ⟨Nat.lt_succ_of_le (h.x.2 ⟨point, hpoint, rfl⟩), Nat.lt_succ_of_le (h.y.2 ⟨point, hpoint, rfl⟩)⟩

lemma ReachesTo.congr {maxX maxY : ℕ} (h : ReachesTo points maxX maxY)
    (hsame : SameByPlace points others) : ReachesTo others maxX maxY := by
  have hx := h.x
  have hy := h.y
  simp only [hsame.mem_iff] at hx hy
  exact ⟨hx, hy⟩

/-- The checks in 64 bits refuse nothing but what has too many cells. -/
lemma sides?_eq (maxX maxY : ℕ) :
    sides? maxX maxY =
      if (maxX + 1) * (maxY + 1) ≤ cellLimit then some (maxX + 1, maxY + 1) else none := by
  by_cases h : (maxX + 1) * (maxY + 1) ≤ cellLimit
  · have hlimit : cellLimit ≤ Numeral.maxU64 := by decide
    have hx : maxX + 1 ≤ Numeral.maxU64 :=
      (Nat.le_mul_of_pos_right _ (Nat.succ_pos maxY)).trans (h.trans hlimit)
    have hy : maxY + 1 ≤ Numeral.maxU64 :=
      (Nat.le_mul_of_pos_left _ (Nat.succ_pos maxX)).trans (h.trans hlimit)
    simp [sides?, word?, hx, hy, h, h.trans hlimit]
  · have hnone : ∀ sides, sides? maxX maxY ≠ some sides := by
      intro sides hsides
      simp only [sides?, word?, Option.bind_eq_bind, Option.bind_eq_some_iff,
        Option.ite_none_right_eq_some, Option.some.injEq] at hsides
      obtain ⟨width, ⟨-, rfl⟩, depth, ⟨-, rfl⟩, cells, ⟨-, rfl⟩, hcells, -⟩ := hsides
      exact h hcells
    rw [if_neg h]
    exact Option.eq_none_iff_forall_ne_some.mpr hnone

/-! ## The cells -/

/-- Different places inside of a grid have different cells. -/
lemma cell_inj {width x y otherX otherY : ℕ} (hx : x < width) (hother : otherX < width) :
    otherY * width + otherX = y * width + x ↔ otherX = x ∧ otherY = y := by
  constructor
  · intro h
    have hcolumn : otherX = x := by
      rw [← Nat.mul_add_mod_of_lt (a := otherY) hother, h, Nat.mul_add_mod_of_lt hx]
    subst hcolumn
    exact ⟨rfl, Nat.eq_of_mul_eq_mul_right (by omega) (Nat.add_right_cancel h)⟩
  · rintro ⟨rfl, rfl⟩
    rfl

/-- The cell of a place inside of a grid. -/
lemma cell_lt {width depth x y : ℕ} (hx : x < width) (hy : y < depth) :
    y * width + x < width * depth :=
  calc
    y * width + x < y * width + width := Nat.add_lt_add_left hx _
    _ = (y + 1) * width := by ring
    _ ≤ depth * width := Nat.mul_le_mul_right _ hy
    _ = width * depth := Nat.mul_comm _ _

/-- A cell that is zero at first holds the height of the last point at its place. -/
lemma getD_foldl_place {width x y : ℕ} {cells : Array Float} (hx : x < width)
    (hpoints : ∀ point ∈ points, point.x < width) (hcell : y * width + x < cells.size)
    (hzero : cells.getD (y * width + x) 0 = 0) :
    (points.foldl (place width) cells).getD (y * width + x) 0 = heightAt points x y := by
  induction points using List.reverseRecOn with
  | nil => exact hzero
  | append_singleton points point ih =>
    have hrest := ih fun other hother => hpoints other (List.mem_append_left _ hother)
    have hsame : point.y * width + point.x = y * width + x ↔ point.LiesAt x y :=
      cell_inj hx (hpoints point (by simp))
    rw [List.foldl_append, List.foldl_cons, List.foldl_nil, place, Array.getD_eq_getD_getElem?,
      Array.getElem?_setIfInBounds, size_foldl_place]
    by_cases hpoint : point.LiesAt x y
    · rw [if_pos (hsame.mpr hpoint), if_pos (by rwa [hsame.mpr hpoint])]
      simp [heightAt, hpoint]
    · rw [if_neg (mt hsame.mp hpoint), ← Array.getD_eq_getD_getElem?, hrest]
      simp [heightAt, hpoint]

lemma size_foldl_place_zeros (points : List SurfacePoint) (width depth : ℕ) :
    (points.foldl (place width) (Array.replicate (width * depth) 0)).size = width * depth := by
  rw [size_foldl_place, Array.size_replicate]

/-- The grid of some points with given sides. -/
def spanning (points : List SurfacePoint) (width depth : ℕ) : SurfaceGrid where
  width := width
  depth := depth
  cells := points.foldl (place width) (Array.replicate (width * depth) 0)
  size_eq := size_foldl_place_zeros points width depth

lemma get_spanning {maxX maxY : ℕ} (h : ReachesTo points maxX maxY) (x y : ℕ) :
    (spanning points (maxX + 1) (maxY + 1)).get x y = heightAt points x y := by
  rw [get]
  split_ifs with hinside
  · obtain ⟨hx, hy⟩ := hinside
    have hcell : y * (maxX + 1) + x < (maxX + 1) * (maxY + 1) := cell_lt hx hy
    exact getD_foldl_place hx (fun point hpoint => (h.lt hpoint).1) (by simpa using hcell)
      (by simp [hcell])
  · refine (heightAt_of_forall_not fun point hpoint hplace => hinside ?_).symm
    obtain ⟨rfl, rfl⟩ := hplace
    exact h.lt hpoint

/-- Inside of a grid the height is what the cell of the place holds. -/
lemma getElem?_cells (grid : SurfaceGrid) {x y : ℕ} (hx : x < grid.width) (hy : y < grid.depth) :
    grid.cells[y * grid.width + x]? = some (grid.get x y) := by
  have hcell : y * grid.width + x < grid.cells.size := by
    rw [grid.size_eq]
    exact cell_lt hx hy
  rw [get, if_pos ⟨hx, hy⟩, Array.getD_eq_getD_getElem?, Array.getElem?_eq_getElem hcell,
    Option.getD_some]

/-- Every cell is that of a place. -/
lemma exists_place_of_cell {width depth cell : ℕ} (h : cell < width * depth) :
    ∃ x y, x < width ∧ y < depth ∧ y * width + x = cell := by
  have hpositive : 0 < width := by
    by_contra hnone
    simp [Nat.eq_zero_of_not_pos hnone] at h
  exact ⟨cell % width, cell / width, Nat.mod_lt cell hpositive, Nat.div_lt_of_lt_mul h,
    Nat.div_add_mod' cell width⟩

/-- A grid is told by its sides and its heights. -/
lemma eq_of_get_eq {grid other : SurfaceGrid} (hwidth : grid.width = other.width)
    (hdepth : grid.depth = other.depth) (hget : ∀ x y, grid.get x y = other.get x y) :
    grid = other := by
  have hsize : grid.cells.size = other.cells.size := by
    rw [grid.size_eq, other.size_eq, hwidth, hdepth]
  have hcells : grid.cells = other.cells := by
    refine Array.ext hsize fun cell hcell hother => Option.some.inj ?_
    rw [← Array.getElem?_eq_getElem, ← Array.getElem?_eq_getElem]
    obtain ⟨x, y, hx, hy, rfl⟩ := exists_place_of_cell (grid.size_eq ▸ hcell)
    rw [grid.getElem?_cells hx hy, hwidth, other.getElem?_cells (hwidth ▸ hx) (hdepth ▸ hy), hget]
  cases grid
  cases other
  simp_all

lemma spanning_congr (hsame : SameByPlace points others) {maxX maxY : ℕ}
    (h : ReachesTo points maxX maxY) :
    spanning points (maxX + 1) (maxY + 1) = spanning others (maxX + 1) (maxY + 1) := by
  refine eq_of_get_eq rfl rfl fun x y => ?_
  rw [get_spanning h, get_spanning (h.congr hsame), heightAt, heightAt, hsame x y]

/-! ## What becomes of points -/

/-- What the grid of some points with these largest indices is. -/
structure IsGridOf (points : List SurfacePoint) (maxX maxY : ℕ) (grid : SurfaceGrid) : Prop where
  width : grid.width = maxX + 1
  depth : grid.depth = maxY + 1
  /-- It has one cell for each place. -/
  size : grid.cells.size = (maxX + 1) * (maxY + 1)
  /-- The height at a place inside is what the cell of that place holds, which is there. -/
  inside : ∀ x < grid.width, ∀ y < grid.depth, grid.cells[y * grid.width + x]? = some (grid.get x y)
  /-- Where a point lies, the height is that of the last one. -/
  last : ∀ point, IsLast points point → grid.get point.x point.y = point.z
  /-- Where no point lies, the height is zero. -/
  zero : ∀ x y, (∀ point ∈ points, ¬ point.LiesAt x y) → grid.get x y = 0

lemma isGridOf_spanning {maxX maxY : ℕ} (h : ReachesTo points maxX maxY) :
    IsGridOf points maxX maxY (spanning points (maxX + 1) (maxY + 1)) where
  width := rfl
  depth := rfl
  size := (spanning points (maxX + 1) (maxY + 1)).size_eq
  inside _ hx _ hy := getElem?_cells _ hx hy
  last _ hpoint := (get_spanning h _ _).trans (heightAt_of_isLast hpoint)
  zero x y hnone := (get_spanning h x y).trans (heightAt_of_forall_not hnone)

lemma ofPoints_eq {maxX maxY : ℕ} (h : ReachesTo points maxX maxY) :
    ofPoints points =
      if (maxX + 1) * (maxY + 1) ≤ cellLimit then
        .ok (some (spanning points (maxX + 1) (maxY + 1)))
      else .error ⟨maxX, maxY⟩ := by
  obtain ⟨hmaxX, hmaxY⟩ := (reachesTo_largest h.ne_nil).unique h
  rw [ofPoints, if_neg (by simpa using h.ne_nil)]
  simp only [hmaxX, hmaxY, sides?_eq]
  split_ifs <;> rfl

lemma ofPoints_eq_none_iff : ofPoints points = .ok none ↔ points = [] := by
  constructor
  · intro h
    by_contra hpoints
    rw [ofPoints_eq (reachesTo_largest hpoints)] at h
    split_ifs at h
    exact Option.some_ne_none _ (Except.ok.inj h)
  · rintro rfl
    rfl

lemma ofPoints_eq_error_iff {maxX maxY : ℕ} :
    ofPoints points = .error ⟨maxX, maxY⟩ ↔
      ReachesTo points maxX maxY ∧ cellLimit < (maxX + 1) * (maxY + 1) := by
  constructor
  · intro h
    have hpoints : points ≠ [] := by
      rintro rfl
      cases h
    have hreach := reachesTo_largest hpoints
    rw [ofPoints_eq hreach] at h
    split_ifs at h with hsize
    obtain ⟨rfl, rfl⟩ := GridTooLarge.mk.inj (Except.error.inj h)
    exact ⟨hreach, not_le.mp hsize⟩
  · rintro ⟨hreach, hsize⟩
    rw [ofPoints_eq hreach, if_neg (not_le.mpr hsize)]

lemma exists_isGridOf {grid : SurfaceGrid} (h : ofPoints points = .ok (some grid)) :
    ∃ maxX maxY, ReachesTo points maxX maxY ∧ (maxX + 1) * (maxY + 1) ≤ cellLimit ∧
      IsGridOf points maxX maxY grid := by
  have hpoints : points ≠ [] := by
    rintro rfl
    cases h
  have hreach := reachesTo_largest hpoints
  rw [ofPoints_eq hreach] at h
  split_ifs at h with hsize
  obtain rfl := Option.some.inj (Except.ok.inj h)
  exact ⟨_, _, hreach, hsize, isGridOf_spanning hreach⟩

/-- The order of points at different places does not matter. -/
lemma ofPoints_congr (hsame : SameByPlace points others) : ofPoints points = ofPoints others := by
  by_cases hpoints : points = []
  · subst hpoints
    have hothers : others = [] := List.eq_nil_iff_forall_not_mem.mpr fun point hpoint =>
      absurd ((hsame.mem_iff point).mpr hpoint) List.not_mem_nil
    rw [hothers]
  · have hreach := reachesTo_largest hpoints
    rw [ofPoints_eq hreach, ofPoints_eq (hreach.congr hsame), spanning_congr hsame hreach]

/-- **What becomes of points.**  There is no grid exactly if there are no points.  If the largest
indices span more cells than there may be, these indices are the error, and in no other case is
there one.  Otherwise there is a grid that reaches just up to them, with the height of the last point
at each place.  The order of points at different places does not matter. -/
theorem ofPoints_spec (points : List SurfacePoint) :
    (ofPoints points = .ok none ↔ points = []) ∧
    (∀ maxX maxY, ofPoints points = .error ⟨maxX, maxY⟩ ↔
      ReachesTo points maxX maxY ∧ 2 ^ 24 < (maxX + 1) * (maxY + 1)) ∧
    (∀ grid, ofPoints points = .ok (some grid) → ∃ maxX maxY,
      ReachesTo points maxX maxY ∧ (maxX + 1) * (maxY + 1) ≤ 2 ^ 24 ∧
        IsGridOf points maxX maxY grid) ∧
    (∀ others, SameByPlace points others → ofPoints others = ofPoints points) ∧
    ∀ others, others.Perm points → (points.Pairwise fun a b => ¬ b.LiesAt a.x a.y) →
      ofPoints others = ofPoints points := by
  have hlimit : cellLimit = 2 ^ 24 := by norm_num [cellLimit]
  rw [← hlimit]
  exact ⟨ofPoints_eq_none_iff, fun _ _ => ofPoints_eq_error_iff, fun _ => exists_isGridOf,
    fun _ hsame => (ofPoints_congr hsame).symm,
    fun _ hperm hplaces => (ofPoints_congr (sameByPlace_of_perm hperm hplaces)).symm⟩

/-- Two points at one place and a place without a point, in two orders; and a point whose width takes
more than 64 bits. -/
theorem ofPoints_spec_repeated_place :
    let first : SurfacePoint := ⟨2, 1, 4⟩
    let second : SurfacePoint := ⟨2, 1, 5⟩
    let origin : SurfacePoint := ⟨0, 0, 1⟩
    let far : SurfacePoint := ⟨18446744073709551615, 0, 1⟩
    (∃ grid, ofPoints [first, origin, second] = .ok (some grid) ∧
      IsGridOf [first, origin, second] 2 1 grid ∧ grid.get 2 1 = 5 ∧ grid.get 1 1 = 0) ∧
      SameByPlace [first, origin, second] [origin, first, second] ∧
      ofPoints [origin, first, second] = ofPoints [first, origin, second] ∧
      ofPoints [far] = .error ⟨18446744073709551615, 0⟩ := by
  intro first second origin far
  have hreach : ReachesTo [first, origin, second] 2 1 := by
    refine ⟨⟨⟨first, by simp, rfl⟩, ?_⟩, ⟨⟨first, by simp, rfl⟩, ?_⟩⟩ <;>
    · rintro _ ⟨point, hpoint, rfl⟩
      simp only [List.mem_cons, List.not_mem_nil, or_false] at hpoint
      rcases hpoint with rfl | rfl | rfl <;> decide
  have hfar : ReachesTo [far] 18446744073709551615 0 := by
    refine ⟨⟨⟨far, by simp, rfl⟩, ?_⟩, ⟨⟨far, by simp, rfl⟩, ?_⟩⟩ <;>
    · rintro _ ⟨point, hpoint, rfl⟩
      obtain rfl := List.mem_singleton.mp hpoint
      exact le_rfl
  have hsame : SameByPlace [first, origin, second] [origin, first, second] :=
    sameByPlace_exchange [] [second] (by decide)
  obtain ⟨hnone, herror, hgrid, horder, -⟩ := ofPoints_spec [first, origin, second]
  obtain ⟨-, hlarge, -, -, -⟩ := ofPoints_spec [far]
  refine ⟨?_, hsame, horder _ hsame, (hlarge _ _).mpr ⟨hfar, by norm_num⟩⟩
  cases houtcome : ofPoints [first, origin, second] with
  | error cause =>
    obtain ⟨hother, hsize⟩ := (herror cause.maxX cause.maxY).mp houtcome
    obtain ⟨hx, hy⟩ := hother.unique hreach
    rw [hx, hy] at hsize
    norm_num at hsize
  | ok found =>
    cases found with
    | none => exact absurd (hnone.mp houtcome) (List.cons_ne_nil _ _)
    | some grid =>
      obtain ⟨maxX, maxY, hother, -, hspans⟩ := hgrid grid houtcome
      obtain ⟨rfl, rfl⟩ := hother.unique hreach
      have hlast : IsLast [first, origin, second] second := ⟨[first, origin], [], rfl, by simp⟩
      refine ⟨grid, rfl, hspans, hspans.last second hlast, hspans.zero 1 1 ?_⟩
      simp [SurfacePoint.LiesAt, first, origin, second]

end SurfaceGrid
end BenchReport
