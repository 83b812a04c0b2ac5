import BenchReport.Chart.Agreement
import BenchReport.Chart.Bar
import BenchReport.Chart.Store
import BenchReport.Collection.Agreement
import BenchReport.Collection.Error
import BenchReport.Collection.Store
import BenchReport.Command.Arguments
import BenchReport.Command.Failure
import BenchReport.Command.Footprint
import BenchReport.Command.Interface
import BenchReport.Command.Run
import BenchReport.Drawing.Axis
import BenchReport.Drawing.Bars
import BenchReport.Drawing.Figure
import BenchReport.Drawing.Projection
import BenchReport.Drawing.Surface
import BenchReport.Drawing.Svg
import BenchReport.Experiment
import BenchReport.Files.Access
import BenchReport.Files.Path
import BenchReport.Files.Tree
import BenchReport.Journal.Filter
import BenchReport.Journal.Note
import BenchReport.Journal.Noted
import BenchReport.Journal.Pattern
import BenchReport.Log.Clients
import BenchReport.Log.Name
import BenchReport.Log.Summary
import BenchReport.Main
import BenchReport.Number.Binary64
import BenchReport.Number.Numeral
import BenchReport.Number.Shortest
import BenchReport.Plot.Agreement
import BenchReport.Plot.Error
import BenchReport.Plot.Store
import BenchReport.Proofs.AgreementCharts
import BenchReport.Proofs.AgreementPlots
import BenchReport.Proofs.AgreementRows
import BenchReport.Proofs.AxisEnds
import BenchReport.Proofs.BarCharts
import BenchReport.Proofs.ChangedFile
import BenchReport.Proofs.ChangedLogs
import BenchReport.Proofs.ChartedRuns
import BenchReport.Proofs.ChartedSeries
import BenchReport.Proofs.ChartedStoreRuns
import BenchReport.Proofs.ClientLogs
import BenchReport.Proofs.CollectedLogs
import BenchReport.Proofs.Decimals
import BenchReport.Proofs.Directories
import BenchReport.Proofs.Doubles
import BenchReport.Proofs.Files
import BenchReport.Proofs.LargerScans
import BenchReport.Proofs.LogNames
import BenchReport.Proofs.Magnitudes
import BenchReport.Proofs.OverlappingReports
import BenchReport.Proofs.Records
import BenchReport.Proofs.RepeatedRuns
import BenchReport.Proofs.ReportJobs
import BenchReport.Proofs.ReportNames
import BenchReport.Proofs.ReportRuns
import BenchReport.Proofs.ReportedMeans
import BenchReport.Proofs.ResponseTimes
import BenchReport.Proofs.RoundTrip
import BenchReport.Proofs.Rounding
import BenchReport.Proofs.RunningMean
import BenchReport.Proofs.Runs
import BenchReport.Proofs.Scans
import BenchReport.Proofs.SeriesBars
import BenchReport.Proofs.Siblings
import BenchReport.Proofs.StoreCharts
import BenchReport.Proofs.StorePlots
import BenchReport.Proofs.StoreRows
import BenchReport.Proofs.StoreTotals
import BenchReport.Proofs.SummaryRow
import BenchReport.Proofs.Throughput
import BenchReport.Proofs.Trails
import BenchReport.Proofs.UnreadFields
import BenchReport.Proofs.Utf8
import BenchReport.Proofs.Words
import BenchReport.Record
import BenchReport.Report.File
import BenchReport.Report.Row
import BenchReport.Sample
import BenchReport.Settings.Environment
import BenchReport.Settings.EnvironmentFile
import BenchReport.Settings.ScanDefaults
import BenchReport.Style
import BenchReport.Style.Source
import BenchReport.Surface.Grid
import BenchReport.Surface.Points
import BenchReport.Text.Blank
import BenchReport.Text.Quoted
import BenchReport.Text.Unshown
import BenchReport.Text.Utf8
import BenchReport.Text.Word
import BenchReport.Toml.Document
import BenchReport.Toml.Layout
import BenchReport.Toml.Moment
import BenchReport.Toml.Number
import BenchReport.Toml.Quoted
import BenchReport.Toml.Value
import BenchReport.Proofs.SurfaceGrids
import BenchReport.Proofs.Numerals
import BenchReport.Proofs.SurfacePoints
import BenchReport.Proofs.AggregatedLogs
import BenchReport.Proofs.ReportFields
import BenchReport.Proofs.ReportGrammar
import BenchReport.Proofs.QuotedRows
import BenchReport.Proofs.HeaderLines
import BenchReport.Proofs.ReportLines
import BenchReport.Proofs.ExtendedDoubles
import BenchReport.Proofs.HeightAxes
