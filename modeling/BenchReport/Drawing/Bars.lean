import BenchReport.Chart.Bar
import BenchReport.Drawing.Axis
import BenchReport.Style
/-!
# Drawing bar charts

The figure of a bar chart.  Two lines down and two lines across the sheet leave room beside the plotting
area for the titles and the labels of the axes (`Strips`).  The groups share its width, and its height
is the vertical axis from zero to the upper end.  On a sheet that is too small for all this the lines
are still taken in order, so that the plotting area may shrink to nothing or come to lie elsewhere; a
side that has no room then has no title.

Each series in turn is drawn as its bars, the lines around them, and the error bars on them with a
marker at the value itself.  Bars and error bars are cut off at the upper end of the axis, and no
error bar goes below zero.  The labels of the groups follow, and the legend.
-/

namespace BenchReport

namespace BarDrawing

/-- The colours of the series: nine classes from brown to purple. -/
def palette : List Colour :=
  [⟨179, 88, 6⟩, ⟨224, 130, 20⟩, ⟨253, 184, 99⟩, ⟨254, 224, 182⟩, ⟨247, 247, 247⟩,
   ⟨216, 218, 235⟩, ⟨178, 171, 210⟩, ⟨128, 115, 172⟩, ⟨84, 39, 136⟩]

/-- The colour of series `n`; they come round after the last one. -/
def colour (n : Nat) : Colour := palette.getD (n % palette.length) ⟨0, 0, 0⟩

/-- Three strips side by side, by their ends. -/
structure Strips where
  first : Int
  second : Int
  third : Int
  fourth : Int
  deriving DecidableEq, Repr

namespace Strips

/-- The strips between four ends, which may come in any order. -/
def between (a b c d : Int) : Strips :=
  let least := max (min a b) (min c d)
  let most := min (max a b) (max c d)
  ⟨min (min a b) (min c d), min least most, max least most, max (max a b) (max c d)⟩

theorem between_ordered (a b c d : Int) :
    (between a b c d).first ≤ (between a b c d).second ∧
      (between a b c d).second ≤ (between a b c d).third ∧
      (between a b c d).third ≤ (between a b c d).fourth := by
  simp only [between]; omega

end Strips

/-- A chart on a sheet: the columns and rows into which the sheet is cut, and its two axes.  The middle
ones hold the plotting area. -/
structure Frame where
  sheet : Area
  columns : Strips
  rows : Strips
  x : Axis
  y : Axis

/-- The area in which the chart is plotted. -/
def Frame.plot (frame : Frame) : Area :=
  ⟨frame.columns.second, frame.rows.second, frame.columns.third, frame.rows.third⟩

/-- How much room the labels of the vertical axis take. -/
def labelWidth : Int := 70

/-- How much room the labels of the horizontal axis take. -/
def labelHeight : Int := 60

/-- The frame of a chart on a sheet of the given size.  The last pixels of the plotting area are not part
of the axes. -/
def frameOf (chart : BarChart) (width height : Nat) : Frame :=
  let sheet := Area.sheet width height
  let area := sheet.inside 40 10
  let columns := Strips.between area.left (Pixel.wrap (area.left + labelWidth)) area.right area.right
  let rows := Strips.between area.top area.top
    (Pixel.wrap (area.top + Pixel.wrap (area.height - labelHeight))) area.bottom
  { sheet := sheet
    columns := columns
    rows := rows
    x := ⟨0, Float.ofNat (max chart.groups.length 1), columns.second, Pixel.wrap (columns.third - 1)⟩
    y := ⟨0, chart.yUpper, Pixel.wrap (rows.third - 1), rows.second⟩ }

/-- Whether there is room at a side of the plotting area. -/
def Frame.hasRoom (frame : Frame) (side : Side) : Bool :=
  match side with
  | .top =>
    frame.rows.first != frame.rows.second && frame.columns.second != frame.columns.third
  | .left =>
    frame.columns.first != frame.columns.second && frame.rows.second != frame.rows.third
  | .bottom =>
    frame.rows.third != frame.rows.fourth && frame.columns.second != frame.columns.third
  | .right =>
    frame.columns.third != frame.columns.fourth && frame.rows.second != frame.rows.third

/-- The pixel of a point of the chart. -/
def Frame.pixel (frame : Frame) (x y : Float) : Pixel := ⟨frame.x.pixel x, frame.y.pixel y⟩

/-- The pixel of a point of the chart, moved into the plotting area. -/
def Frame.plotted (frame : Frame) (x y : Float) : Pixel := frame.plot.clamp (frame.pixel x y)

/-- The rectangle between two opposite corners. -/
def rectangle (fill : Colour) (a b : Pixel) : Shape :=
  .rectangle fill ⟨min a.x b.x, min a.y b.y⟩ (Pixel.wrap (max a.x b.x - min a.x b.x))
    (Pixel.wrap (max a.y b.y - min a.y b.y))

/-- Half the width of a cap. -/
def capReach : Int := 3

/-- The cap of an error bar at a pixel. -/
def cap (p : Pixel) : Segment :=
  ⟨⟨Pixel.wrap (p.x - capReach), p.y⟩, ⟨Pixel.wrap (p.x + capReach), p.y⟩⟩

variable (chart : BarChart) (frame : Frame)

/-- What stands at a side of the plotting area.  The horizontal axis has the labels of the groups apart
from it; its own are blank, and one of them stands here for all. -/
def captionsAt (side : Side) : List Shape :=
  if frame.hasRoom side then
    match side with
    | .top | .bottom => [.caption side "", .caption side chart.xTitle]
    | .left | .right => [.caption side chart.yTitle]
  else []

/-- What stands around the plotting area. -/
def captions : List Shape :=
  [Side.top, Side.left, Side.bottom, Side.right].flatMap (captionsAt chart frame)

/-- The height of a bar, cut off at the upper end of the axis. -/
def barTop (bar : Bar) : Float := Binary64.smaller bar.value chart.yUpper

/-- The bar of series `n`. -/
def barShape (n : Nat) (bar : Bar) : Shape :=
  let left := chart.barLeft bar.group n
  rectangle (colour n) (frame.plotted left 0)
    (frame.plotted (left + chart.barWidth) (barTop chart bar))

/-- The line around a bar of series `n`. -/
def outlineShape (n : Nat) (bar : Bar) : Shape :=
  let left := chart.barLeft bar.group n
  let right := left + chart.barWidth
  let top := barTop chart bar
  .outline [frame.plotted left 0, frame.plotted left top, frame.plotted right top,
    frame.plotted right 0]

/-- The error bar on a bar of series `n`, and the marker at its value. -/
def errorShapes (n : Nat) (bar : Bar) : List Shape :=
  let centre := chart.barLeft bar.group n + chart.barWidth / 2
  let lower := frame.plotted centre (Binary64.larger (bar.value - bar.error) 0)
  let value := frame.plotted centre bar.value
  let upper := frame.plotted centre (Binary64.smaller (bar.value + bar.error) chart.yUpper)
  [.errorBar (cap lower) (cap upper) ⟨lower, upper⟩, .marker value 3]

/-- The shapes of series `n`. -/
def seriesShapes (n : Nat) (series : BarSeries) : List Shape :=
  series.bars.map (barShape chart frame n) ++ series.bars.map (outlineShape chart frame n) ++
    series.bars.flatMap (errorShapes chart frame n)

/-- How far below its mark on the axis a label stands. -/
def labelGap : Int := 6

/-- The label of group `n`. -/
def tickShape (n : Nat) (label : String) : Shape :=
  let mark := frame.pixel (Float.ofNat n + chart.labelOffset) 0
  .tick label (frame.sheet.clamp ⟨mark.x, Pixel.wrap (mark.y + labelGap)⟩)

/-- The figure of a chart. -/
def figure (style : Style) : Figure :=
  let width := style.width.toNat
  let height := style.height.toNat
  let frame := frameOf chart width height
  { width := width
    height := height
    shapes := captions chart frame ++
      chart.series.zipIdx.flatMap (fun (series, n) => seriesShapes chart frame n series) ++
      chart.groups.zipIdx.map (fun (label, n) => tickShape chart frame n label) ++
      chart.series.zipIdx.map (fun (series, n) => .legend (colour n) series.label) }

end BarDrawing

end BenchReport
