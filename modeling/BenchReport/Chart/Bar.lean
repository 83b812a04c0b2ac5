import BenchReport.Number.Binary64
/-!
# Grouped bar charts

A bar chart has one group for each key on the horizontal axis and in each group one bar for each
series.  `BarChart.ofSeries` builds it from series of points with keys:

* series without points are left out;
* the groups are the keys of all series, each once, in ascending order (`sortedKeys`);
* of the points of a series with the same key, only the first one has a bar (`firstPoints`), in the
  group that a search for its key among those of the groups finds (`search`);
* the bars of a series stand in the order of their groups (`barsOf`).

The rest of the module is the layout in the units of the axes: groups have the width one, the bars of
a group leave the room of one bar free, and the vertical axis ends at the cap of the chart or a tenth
above its highest error bar.
-/

namespace BenchReport

/-- A bar with its error, in the group with the given index. -/
structure Bar where
  group : Nat
  value : Float
  error : Float

/-- The bars of one colour. -/
structure BarSeries where
  label : String
  bars : List Bar

/-- A grouped bar chart. -/
structure BarChart where
  groups : List String
  series : List BarSeries
  xTitle : String
  yTitle : String
  /-- The upper end of the vertical axis, if it does not follow the data. -/
  yMax : Option Float

/-- A point of a series: its key, its value and the error of the value. -/
structure ChartPoint (κ : Type) where
  key : κ
  value : Float
  error : Float

/-- A series before it is laid out. -/
structure PointSeries (κ : Type) where
  label : String
  points : List (ChartPoint κ)

namespace BarChart

section Keys

variable {κ : Type} [DecidableEq κ] [LT κ] [DecidableLT κ]

/-- Puts a key into its place among ascending keys, unless it is there. -/
def insertKey (key : κ) : List κ → List κ
  | [] => [key]
  | first :: rest =>
    if key < first then key :: first :: rest
    else if key = first then first :: rest
    else first :: insertKey key rest

/-- The keys in ascending order, each once. -/
def sortedKeys (keys : List κ) : List κ := keys.foldl (fun sorted key => insertKey key sorted) []

/-- The keys of the points of all series. -/
def allKeys (series : List (PointSeries κ)) : List κ :=
  series.flatMap fun s => s.points.map ChartPoint.key

/-- The points whose keys are not among those seen before them. -/
def firstPoints (seen : List κ) : List (ChartPoint κ) → List (ChartPoint κ)
  | [] => []
  | point :: rest =>
    if point.key ∈ seen then firstPoints seen rest
    else point :: firstPoints (point.key :: seen) rest

/-- The place of a key among ascending keys, if it is there: the key in the middle tells in which half to
look on. -/
def search (key : κ) (keys : List κ) : Option Nat :=
  match h : keys.drop (keys.length / 2) with
  | [] => none
  | middle :: above =>
    if key = middle then some (keys.length / 2)
    else if key < middle then search key (keys.take (keys.length / 2))
    else (search key above).map (keys.length / 2 + 1 + ·)
termination_by keys.length
decreasing_by
  · have hlength := congrArg List.length h
    simp only [List.length_drop, List.length_cons, List.length_take] at hlength ⊢
    omega
  · have hlength := congrArg List.length h
    simp only [List.length_drop, List.length_cons] at hlength ⊢
    omega

/-- The bar of a point, in the group of its key, if there is one. -/
def bar? (keys : List κ) (point : ChartPoint κ) : Option Bar :=
  (search point.key keys).map fun group => ⟨group, point.value, point.error⟩

/-- The bars of a series, by their groups.  A point has no bar if its key occurs before. -/
def barsOf (points : List (ChartPoint κ)) (keys : List κ) : List Bar :=
  ((firstPoints [] points).filterMap (bar? keys)).mergeSort fun a b => a.group ≤ b.group

/-- The chart of some series.  A key is shown as `text` writes it. -/
def ofSeries (text : κ → String) (series : List (PointSeries κ)) (xTitle yTitle : String)
    (yMax : Option Float) : BarChart :=
  let present := series.filter fun s => !s.points.isEmpty
  let keys := sortedKeys (allKeys present)
  { groups := keys.map text
    series := present.map fun s => ⟨s.label, barsOf s.points keys⟩
    xTitle := xTitle
    yTitle := yTitle
    yMax := yMax }

end Keys

/-- Whether a chart has no bars. -/
def isEmpty (chart : BarChart) : Bool := chart.series.all fun s => s.bars.isEmpty

/-! ## Layout -/

/-- The width of a bar. -/
def barWidth (chart : BarChart) : Float := 1 / (Float.ofNat chart.series.length + 1)

/-- The left edge of the bar of series `n` in a group. -/
def barLeft (chart : BarChart) (group n : Nat) : Float :=
  Float.ofNat group + Float.ofNat n * chart.barWidth

/-- How far the label of a group stands to the right of the edge of the group. -/
def labelOffset (chart : BarChart) : Float :=
  Float.ofNat chart.series.length / 2 * chart.barWidth

/-- The upper ends of all error bars. -/
def tops (chart : BarChart) : List Float :=
  chart.series.flatMap fun s => s.bars.map fun bar => bar.value + bar.error

/-- The highest of the upper ends, or zero if none is above. -/
def highest (chart : BarChart) : Float := chart.tops.foldl Binary64.larger 0

/-- The upper end of the vertical axis. -/
def yUpper (chart : BarChart) : Float :=
  match chart.yMax with
  | some cap => cap
  | none => Binary64.larger (chart.highest * 1.1) 1

end BarChart

end BenchReport
