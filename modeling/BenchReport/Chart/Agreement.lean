import BenchReport.Chart.Bar
import BenchReport.Report.Row
import BenchReport.Style
/-!
# Charts of agreement runs

A chart of agreement runs compares three protocols, each in its sequential and in its tree library
variant, over the number of replicas.  Rows of any other protocol or variant are not shown.
-/

namespace BenchReport

namespace AgreementChart

/-- What the bars of a group show, from left to right. -/
def bars : List (Protocol × Variant) :=
  [(.onePaxos, .sequential), (.broadcast, .sequential), (.twoPhaseCommit, .sequential),
   (.onePaxos, .smelt), (.broadcast, .smelt), (.twoPhaseCommit, .smelt)]

/-- The label of a series. -/
def label (protocol : Protocol) (variant : Variant) : String :=
  protocol.legend ++ " " ++ variant.label

/-- The title of the vertical axis. -/
def yTitle : Metric → String
  | .responseTime => "Response time [x1000 cycles]"
  | .throughput => "Throughput [x1000 agreements/s]"

/-- The upper end of the vertical axis that a style sets. -/
def yMax (style : Style) : Metric → Option Float
  | .responseTime => style.responseTimeMax
  | .throughput => style.throughputMax

/-- The points of one protocol and variant. -/
def points (rows : List AgreementRow) (protocol : Protocol) (variant : Variant) :
    List (ChartPoint UInt32) :=
  (rows.filter fun row => row.protocol = protocol ∧ row.variant = variant).map fun row =>
    ⟨row.replicas, row.stats.mean, row.stats.spread⟩

/-- The chart of some rows. -/
def ofRows (rows : List AgreementRow) (metric : Metric) (style : Style) : BarChart :=
  BarChart.ofSeries countText
    (bars.map fun (protocol, variant) =>
      ⟨label protocol variant, points rows protocol variant⟩)
    "Number of replicas" (yTitle metric) (yMax style metric)

end AgreementChart

end BenchReport
