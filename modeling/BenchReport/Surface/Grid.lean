import BenchReport.Number.Binary64
import BenchReport.Surface.Points
/-!
# Surface grids

A surface is drawn over a grid that has a height at every place.  `SurfaceGrid.ofPoints` makes one
that just spans the points: no points make no grid, and points too far apart make none either, since
a grid has at most `cellLimit` cells.  Its sides and the number of its cells are worked out in 64
bits, and what leaves them is too large as well (`sides?`).  Where several points lie at one place the
last one counts, and where none lies the height is zero.

The cells stand row by row, the place `(x, y)` at `y * width + x`, and there are `width * depth` of
them (`size_eq`).  `get` is the height at a place, zero outside of the grid.

`heights` is the range of the heights, and `axisRange` the range that the height axis shows: it starts
at zero or below, and where that leaves nothing to show it ends one above its start.
-/

namespace BenchReport

/-- The heights above the places of a grid. -/
structure SurfaceGrid where
  width : Nat
  depth : Nat
  cells : Array Float
  size_eq : cells.size = width * depth

/-- Why points have no grid: their largest indices span too many cells. -/
structure GridTooLarge where
  maxX : Nat
  maxY : Nat
  deriving DecidableEq, Repr

namespace SurfaceGrid

/-- The largest number of cells. -/
def cellLimit : Nat := 16777216

/-- The cells with the height of a point put in its place. -/
def place (width : Nat) (cells : Array Float) (point : SurfacePoint) : Array Float :=
  cells.setIfInBounds (point.y * width + point.x) point.z

theorem size_foldl_place (width : Nat) (points : List SurfacePoint) (cells : Array Float) :
    (points.foldl (place width) cells).size = cells.size := by
  induction points generalizing cells with
  | nil => rfl
  | cons point rest ih => simp [ih, place]

/-- The largest of some numbers, zero if there are none. -/
def largest (numbers : List Nat) : Nat := numbers.foldl max 0

/-- A number, if 64 bits hold it. -/
def word? (n : Nat) : Option Nat := if n ≤ Numeral.maxU64 then some n else none

/-- The width and the depth of a grid that reaches up to some indices, if it has not too many cells. -/
def sides? (maxX maxY : Nat) : Option (Nat × Nat) := do
  let width ← word? (maxX + 1)
  let depth ← word? (maxY + 1)
  let cells ← word? (width * depth)
  if cells ≤ cellLimit then some (width, depth) else none

/-- The grid that spans the points. -/
def ofPoints (points : List SurfacePoint) : Except GridTooLarge (Option SurfaceGrid) :=
  if points.isEmpty then .ok none
  else
    let maxX := largest (points.map SurfacePoint.x)
    let maxY := largest (points.map SurfacePoint.y)
    match sides? maxX maxY with
    | none => .error ⟨maxX, maxY⟩
    | some (width, depth) =>
      .ok (some {
        width := width
        depth := depth
        cells := points.foldl (place width) (Array.replicate (width * depth) 0)
        size_eq := by simp [size_foldl_place] })

/-- The height at a place. -/
def get (grid : SurfaceGrid) (x y : Nat) : Float :=
  if x < grid.width ∧ y < grid.depth then grid.cells.getD (y * grid.width + x) 0 else 0

/-- The least and the largest height. -/
def heights (grid : SurfaceGrid) : Float × Float :=
  grid.cells.foldl (fun (lo, hi) z => (Binary64.smaller lo z, Binary64.larger hi z))
    (Binary64.infinity, -Binary64.infinity)

/-- The ends of the height axis. -/
def axisRange (grid : SurfaceGrid) : Float × Float :=
  let (least, largest) := grid.heights
  let lo := Binary64.smaller least 0
  (lo, if lo < largest then largest else lo + 1)

end SurfaceGrid

end BenchReport
