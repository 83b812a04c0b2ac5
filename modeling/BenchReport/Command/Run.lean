import BenchReport.Collection.Agreement
import BenchReport.Collection.Store
import BenchReport.Command.Failure
import BenchReport.Command.Interface
import BenchReport.Drawing.Surface
import BenchReport.Journal.Filter
import BenchReport.Plot.Agreement
import BenchReport.Plot.Store
import BenchReport.Settings.EnvironmentFile
import BenchReport.Settings.ScanDefaults
/-!
# Running commands

`CommandName.run` is what a command does: given its arguments, the environment and the standard input,
it changes the file tree and ends with an `Outcome`, which is what its caller sees.

The environment file is read first, because it may decide which notes are printed.  A command line that
makes no sense ends with exit code 2 and one that asks for a text with that text; neither changes the
tree.  All else is the work of the command (`CommandName.perform`), which ends with exit code 0, or
with exit code 1 and a report on its failure.  The notes taken until then are printed in either case,
as far as the filter admits them.
-/

namespace BenchReport

/-- What the caller of a command sees. -/
structure Outcome where
  exitCode : UInt8
  /-- The lines of the standard output. -/
  output : List String
  /-- The lines of the standard error. -/
  complaints : List String
  deriving DecidableEq, Repr

/-- What a command has to work with. -/
structure Call where
  given : Given
  environment : Environment
  /-- The bytes of the standard input. -/
  input : List UInt8
  deriving DecidableEq, Repr

namespace Call

variable (call : Call)

/-! ## Arguments with their defaults -/

/-- The path that an argument gives, or another one. -/
def path (name default : String) : Path := (call.given.path? name).getD ⟨default⟩

/-- The text that an argument gives, or another one. -/
def text (name default : String) : String := (call.given.text? name).getD default

/-- The count that an argument gives; arguments without which a command does not run always do. -/
def count (name : String) : UInt32 := (call.given.count? name).getD 0

/-- The defaults of scans. -/
def defaults : ScanDefaults := .ofEnvironment call.environment

/-- The tree of the library runs. -/
def tree : String := call.text "tree" call.defaults.tree

/-- The directory of the reports that are written. -/
def outputDirectory : Path :=
  (call.given.path? "output-dir").getD call.defaults.outputDirectory

/-- The scan that is asked for, of agreement logs. -/
def agreementScan : AgreementScan where
  directory := call.path "fpath" "."
  maxReplicas := call.count "max-replicas"
  clients := (call.given.count? "clients").getD call.defaults.clients
  tree := call.tree

/-- The scan that is asked for, of store logs. -/
def storeScan : StoreScan where
  directory := call.path "fpath" "."
  maxClients := call.count "max-clients"
  tree := call.tree
  totalThroughput := call.given.has "sum-throughput" || call.defaults.totalThroughput

/-- Loads the style of charts. -/
def style : Run Failure Style :=
  Run.look fun files =>
    (Noted.ofOutcome (Style.load files call.environment (call.given.path? "style"))).mapError
      Failure.ofStyle

/-! ## Making reports -/

/-- The metrics in the order of their reports. -/
def reportMetrics : List Metric := [.throughput, .responseTime]

/-- Makes the directory of the reports. -/
def makeOutputDirectory (directory : Path) : Run Failure Unit :=
  (Run.attempt fun files => files.ensureDirectories directory).mapError fun cause =>
    (Failure.ofAccess cause).during ("Failed to create output dir: " ++ directory.text)

/-- Makes the report on a metric. -/
def report (command : CommandName) (make : Metric → Run CollectionError Path) (metric : Metric) :
    Run Failure (List Path) := do
  let path ← (make metric).mapError fun error =>
    (Failure.ofCollection error).during ("Failed to build " ++ metric.title ++ " report")
  Run.note .info (.command command) (metric.title ++ " report: " ++ path.text)
  pure [path]

/-- Makes the reports on all metrics. -/
def reports (command : CommandName) (make : Metric → Run CollectionError Path) :
    Run Failure Unit := do
  let _ ← Run.gather (report command make) reportMetrics
  pure ()

/-- Makes the reports of agreement runs. -/
def parseAgreement : Run Failure Unit := do
  makeOutputDirectory call.outputDirectory
  reports .parseAgree fun metric => call.agreementScan.run metric call.outputDirectory

/-- Makes the reports of store runs. -/
def parseStore : Run Failure Unit := do
  makeOutputDirectory call.outputDirectory
  reports .parseKvs fun metric => call.storeScan.run metric call.outputDirectory

/-! ## Drawing charts -/

/-- The metrics in the order of the charts of agreement runs. -/
def chartMetrics : List Metric := [.responseTime, .throughput]

/-- The plot that is asked for, of agreement reports on a metric. -/
def agreementPlot (style : Style) (metric : Metric) : AgreementPlot where
  directory := call.path "input" "."
  name := call.text "plotname" "plot"
  metric := metric
  style := style

/-- The plot that is asked for, of store reports. -/
def storePlot (style : Style) : StorePlot where
  directory := call.path "input" "."
  name := call.text "plotname" "plot"
  maxClients := call.count "max-clients"
  style := style

/-- Draws the chart of agreement runs on a metric. -/
def agreementChart (style : Style) (metric : Metric) : Run Failure (List Path) := do
  let path ← (call.agreementPlot style metric).run.mapError fun error =>
    (Failure.ofPlot error).during ("Failed to plot " ++ metric.title)
  if path.isNone then
    Run.note .warn (.command .plotAgree) ("Skipped " ++ metric.title ++ " chart")
  pure path.toList

/-- Draws the charts of agreement runs. -/
def plotAgreement : Run Failure Unit := do
  let style ← call.style
  let _ ← Run.gather (call.agreementChart style) chartMetrics
  pure ()

/-- Draws the charts of store runs. -/
def plotStore : Run Failure Unit := do
  let style ← call.style
  let plot := call.storePlot style
  let paths ← plot.run.mapError fun error =>
    (Failure.ofPlot error).during "Failed to plot key-value store reports"
  if paths.isEmpty then
    Run.fail ⟨"No reports for " ++ countText plot.maxClients ++ " clients in " ++
      plot.directory.text, []⟩
  else
    Run.note .info (.command .plotKvs) ("Wrote " ++ toString paths.length ++ " charts")

/-- The bytes of a file with samples.  A directory can be opened, but not read. -/
def sampleBytes (files : FileTree) (path : Path) : Except Failure (List UInt8) :=
  match files.lookup path with
  | .error cause =>
    .error ((Failure.ofAccess cause).during ("Failed to open samples: " ++ path.text))
  | .ok entry =>
    (FileTree.bytesOf entry).mapError fun cause => Failure.ofPlot (.points (.unreadable cause))

/-- The samples of the surface. -/
def samples : Run Failure (List SurfacePoint) := do
  let bytes ← Run.look fun files =>
    match call.given.path? "input" with
    | none => pure call.input
    | some path => Noted.ofOutcome (sampleBytes files path)
  Run.look fun _ =>
    (Surface.readPoints bytes).mapError fun error => Failure.ofPlot (.points error)

/-- The path of the figure of the surface. -/
def surfacePath : Path := call.path "output" "surface.svg"

/-- Draws a surface. -/
def plotSurface : Run Failure Unit := do
  let style ← call.style
  let points ← call.samples
  match SurfaceGrid.ofPoints points with
  | .error error => Run.fail (Failure.ofPlot (.tooLarge error))
  | .ok none => Run.fail ⟨"No surface points in input", []⟩
  | .ok (some grid) => do
    Run.note .info (.command .plotSurface)
      ("Grid " ++ toString grid.width ++ " x " ++ toString grid.depth)
    (Plot.draw call.surfacePath (SurfaceDrawing.figure grid style)).mapError Failure.ofPlot
    Run.note .info (.command .plotSurface) ("Wrote " ++ call.surfacePath.text)

end Call

namespace CommandName

/-- The work of a command. -/
def perform (command : CommandName) (call : Call) : Run Failure Unit :=
  match command with
  | parseAgree => call.parseAgreement
  | parseKvs => call.parseStore
  | plotAgree => call.plotAgreement
  | plotKvs => call.plotStore
  | plotSurface => call.plotSurface

/-- The variable that chooses the notes that are printed. -/
def filterVariable : String := "RUST_LOG"

/-- The lines that the notes are printed as. -/
def printed (environment : Environment) (notes : List Note) : List String :=
  let filter := Filter.ofText (environment.get? filterVariable)
  (notes.filter filter.admits).flatMap fun note => Failure.linesOf note.print

/-- The outcome of the work of a command. -/
def conclude (environment : Environment) (result : Noted Failure Unit) : Outcome :=
  let output := printed environment result.notes
  match result.outcome with
  | .ok () => ⟨0, output, []⟩
  | .error failure => ⟨1, output, failure.lines⟩

/-- Runs a command in a file tree. -/
def run (command : CommandName) (words : List String) (environment : Environment)
    (input : List UInt8) (files : FileTree) : FileTree × Outcome :=
  match Invocation.read command.arguments words with
  | .error error => (files, ⟨2, [], [error.message]⟩)
  | .ok .help => (files, ⟨0, command.helpLines, []⟩)
  | .ok .version => (files, ⟨0, [version], []⟩)
  | .ok (.run given) =>
    let environment := environment.withFile files
    let (changed, result) := command.perform ⟨given, environment, input⟩ files
    (changed, conclude environment result)

end CommandName

end BenchReport
