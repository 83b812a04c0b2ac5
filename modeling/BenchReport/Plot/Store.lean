import BenchReport.Chart.Store
import BenchReport.Drawing.Bars
import BenchReport.Plot.Error
/-!
# Plotting store reports

The reports of a directory for one number of clients are charted each on their own, throughput before
response times, and in each of them the writes before the reads.  A report that does not exist is
passed over, and so is one without rows to show; a report that is broken ends the run.
-/

namespace BenchReport

/-- What to plot: the reports of a directory for a number of clients, in a style, under a name. -/
structure StorePlot where
  directory : Path
  name : String
  maxClients : UInt32
  style : Style

namespace StorePlot

variable (plot : StorePlot)

/-- The path of the report on a metric. -/
def reportPath (metric : Metric) : Path :=
  plot.directory.join (Report.storeName metric plot.maxClients)

/-- The path of the chart of an operation. -/
def chartPath (operation : Operation) (metric : Metric) : Path :=
  ⟨plot.name ++ "-" ++ operation.tag ++ "-" ++ metric.tag ++ ".svg"⟩

/-- Draws the chart of an operation and returns its path, unless no row has a bar. -/
def drawChart (rows : List StoreRow) (metric : Metric) (operation : Operation) :
    Run PlotError (List Path) := do
  let chart := StoreChart.ofRows rows operation metric
  if chart.isEmpty then
    Run.note .warn .storeChart
      ("No " ++ metric.title ++ " rows in " ++ (plot.reportPath metric).text)
    pure []
  else
    let path := plot.chartPath operation metric
    Plot.draw path (BarDrawing.figure chart plot.style)
    Run.note .info .storeChart ("Wrote " ++ path.text)
    pure [path]

/-- Draws the charts of the report on a metric, if there is one. -/
def drawReport (metric : Metric) : Run PlotError (List Path) := fun files =>
  let path := plot.reportPath metric
  if files.isFile path then
    (do
      let rows ← Run.look fun files =>
        Noted.ofOutcome ((StoreRow.readReport files path).mapError PlotError.report)
      Run.gather (plot.drawChart rows metric) Operation.all : Run PlotError (List Path)) files
  else
    (do
      Run.note .warn .storeChart ("Report " ++ path.text ++ " not found, skipping")
      pure [] : Run PlotError (List Path)) files

/-- The metrics in the order of their charts. -/
def metrics : List Metric := [.throughput, .responseTime]

/-- Draws all charts and returns their paths. -/
def run : Run PlotError (List Path) := Run.gather plot.drawReport metrics

end StorePlot

end BenchReport
