import BenchReport.Drawing.Projection
import BenchReport.Style
import BenchReport.Surface.Grid
/-!
# Drawing surfaces

The figure of a surface: one polygon for each square of the grid, projected onto the sheet and
coloured by the height at its first corner, from blue for low to red for high.  The squares are drawn
by `x` and then by `y`.
-/

namespace BenchReport

namespace SurfaceDrawing

/-! ## Colours -/

/-- A colour between others, channel by channel. -/
structure Tint where
  red : Float
  green : Float
  blue : Float

/-- The colour of low heights. -/
def cool : Tint := ⟨59, 76, 192⟩

/-- The colour of heights in the middle. -/
def pale : Tint := ⟨221, 221, 221⟩

/-- The colour of high heights. -/
def warm : Tint := ⟨180, 4, 38⟩

/-- The channel at the share `t` of the way from `a` to `b`. -/
def blendChannel (t a b : Float) : Nat :=
  (Binary64.clampWhole Binary64.nearest 0 255 (a + (b - a) * t)).toNat

/-- The colour at the share `t` of the way from one to another. -/
def blend (t : Float) (a b : Tint) : Colour :=
  ⟨blendChannel t a.red b.red, blendChannel t a.green b.green, blendChannel t a.blue b.blue⟩

/-- A share fitted into the range from zero to one; what is no finite number counts as the middle. -/
def fitShare (t : Float) : Float :=
  if t.isFinite then if t < 0 then 0 else if 1 < t then 1 else t else 0.5

/-- The colour of a height, by its share of the way from the lowest to the highest. -/
def colour (t : Float) : Colour :=
  let t := fitShare t
  if t < 0.5 then blend (t * 2) cool pale else blend ((t - 0.5) * 2) pale warm

/-! ## Squares -/

/-- A grid on a sheet: the three axes of the cube that it is drawn in, and the view of the cube. -/
structure Stage where
  area : Area
  x : Axis
  height : Axis
  y : Axis
  view : Matrix

/-- The stage of a grid on a sheet of the given size. -/
def stageOf (grid : SurfaceGrid) (width height : Nat) : Stage :=
  let sheet := Area.sheet width height
  let area := sheet.inside 20 20
  let edge := (Pixel.wrap (min area.width area.height * 4)).tdiv 5
  let (lo, hi) := grid.axisRange
  { area := area
    x := ⟨0, Float.ofNat (max (grid.width - 1) 1), 0, edge⟩
    height := ⟨lo, hi, 0, edge⟩
    y := ⟨0, Float.ofNat (max (grid.depth - 1) 1), 0, edge⟩
    view := .view edge ⟨sheet.right.tdiv 2, sheet.bottom.tdiv 2⟩ }

variable (grid : SurfaceGrid) (stage : Stage)

/-- The pixel of a corner of the grid. -/
def corner (x y : Nat) : Pixel :=
  stage.area.clamp (stage.view.project (stage.x.pixel (Float.ofNat x))
    (stage.height.pixel (grid.get x y)) (stage.y.pixel (Float.ofNat y)))

/-- The share of a height of the way from the lowest to the highest. -/
def share (z : Float) : Float := (z - stage.height.lo) / (stage.height.hi - stage.height.lo)

/-- The polygon of the square whose first corner is `(x, y)`. -/
def square (x y : Nat) : Shape :=
  .polygon (colour (share stage (grid.get x y)))
    [corner grid stage x y, corner grid stage x (y + 1), corner grid stage (x + 1) (y + 1),
      corner grid stage (x + 1) y]

/-- The figure of a grid. -/
def figure (style : Style) : Figure :=
  let width := style.width.toNat
  let height := style.height.toNat
  let stage := stageOf grid width height
  { width := width
    height := height
    shapes := (List.range (grid.width - 1)).flatMap fun x =>
      (List.range (grid.depth - 1)).map fun y => square grid stage x y }

end SurfaceDrawing

end BenchReport
