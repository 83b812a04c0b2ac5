import BenchReport.Chart.Bar
import BenchReport.Report.Row
/-!
# Charts of key-value store runs

The writes and the reads of a report have a chart each, which compares the sequential variant with the
tree library over the number of clients.  The vertical axis follows the data.
-/

namespace BenchReport

/-- What clients of the store do. -/
inductive Operation where
  | write
  | read
  deriving DecidableEq, Repr

namespace Operation

/-- Both operations, in the order of their charts. -/
def all : List Operation := [write, read]

/-- The mark of the operation in the name of a chart. -/
def tag : Operation → String
  | write => "w"
  | read => "r"

/-- The figures of the operation in a row. -/
def stats (row : StoreRow) : Operation → MeanSpread
  | write => row.write
  | read => row.read

end Operation

namespace StoreChart

/-- The title of the vertical axis. -/
def yTitle : Operation → Metric → String
  | .write, .throughput => "Set throughput [x1000 sets/s]"
  | .read, .throughput => "Get throughput [x1000 gets/s]"
  | .write, .responseTime => "Set time [x1000 cycles]"
  | .read, .responseTime => "Get time [x1000 cycles]"

/-- What the bars of a group show, from left to right. -/
def bars : List Variant := [.sequential, .smelt]

/-- The points of one variant. -/
def points (rows : List StoreRow) (operation : Operation) (variant : Variant) :
    List (ChartPoint UInt32) :=
  (rows.filter fun row => row.variant = variant).map fun row =>
    let stats := operation.stats row
    ⟨row.clients, stats.mean, stats.spread⟩

/-- The chart of one operation in some rows. -/
def ofRows (rows : List StoreRow) (operation : Operation) (metric : Metric) : BarChart :=
  BarChart.ofSeries countText
    (bars.map fun variant => ⟨variant.label, points rows operation variant⟩)
    "Number of clients" (yTitle operation metric) none

end StoreChart

end BenchReport
