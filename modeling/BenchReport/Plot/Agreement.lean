import BenchReport.Chart.Agreement
import BenchReport.Drawing.Bars
import BenchReport.Plot.Error
/-!
# Plotting agreement reports

All agreement reports of a directory on one metric are charted together, whatever number of replicas
they were made for.  `AgreementPlot.load` reads them in the order of that number, and a report that
is broken ends the reading.  `AgreementPlot.run` draws the chart, unless there is nothing to show.
-/

namespace BenchReport

/-- What to plot: the reports of a directory on a metric, in a style, under a name. -/
structure AgreementPlot where
  directory : Path
  name : String
  metric : Metric
  style : Style

namespace AgreementPlot

/-- The numbers of replicas for which reports are looked for. -/
def scanned : List UInt32 := (List.range 100).map UInt32.ofNat

/-- The rows of the report for a number of replicas, if there is one. -/
def loadOne (directory : Path) (metric : Metric) (files : FileTree) (replicas : UInt32) :
    Noted PlotError (List AgreementRow) :=
  let path := directory.join (Report.agreementName metric replicas)
  if files.isFile path then do
    Noted.note .info .agreementChart ("Loading " ++ path.text)
    Noted.ofOutcome ((AgreementRow.readReport files path).mapError .report)
  else pure []

/-- The rows of all reports of a directory on a metric. -/
def load (directory : Path) (metric : Metric) (files : FileTree) :
    Noted PlotError (List AgreementRow) :=
  Noted.gather (loadOne directory metric files) scanned

/-- The path of the chart. -/
def chartPath (plot : AgreementPlot) : Path := ⟨plot.name ++ "-" ++ plot.metric.tag ++ ".svg"⟩

/-- Draws the chart and returns its path, or nothing if no row has a bar. -/
def run (plot : AgreementPlot) : Run PlotError (Option Path) := do
  let rows ← Run.look (load plot.directory plot.metric)
  Run.note .debug .agreementChart
    ("Loaded " ++ toString rows.length ++ " " ++ plot.metric.title ++ " rows")
  let chart := AgreementChart.ofRows rows plot.metric plot.style
  if chart.isEmpty then
    Run.note .warn .agreementChart
      ("No " ++ plot.metric.title ++ " data to plot in " ++ plot.directory.text)
    pure none
  else
    Plot.draw plot.chartPath (BarDrawing.figure chart plot.style)
    Run.note .info .agreementChart ("Wrote " ++ plot.chartPath.text)
    pure (some plot.chartPath)

end AgreementPlot

end BenchReport
