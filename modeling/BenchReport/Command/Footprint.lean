import BenchReport.Command.Run
/-!
# What a command looks at

The places of the file tree on which the outcome of a command depends.  `Call.footprint` lists the paths
that a command may read or write, and `FileTree.trail` the locations that are met on the way along a
path.  A tree that agrees with another one at all these locations gives the same outcome, so nothing
else of a disk has to be known to run a command.
-/

namespace BenchReport

namespace AgreementScan

variable (scan : AgreementScan)

/-- The paths of the logs with a number of replicas. -/
def logPathsFor (replicas : UInt32) : List Path :=
  Protocol.all.flatMap fun protocol =>
    scan.clientPaths replicas protocol .direct .smelt ++
      (LogName.treeReplica replicas protocol scan.tree scan.clients).path scan.directory ::
      Layer.all.flatMap fun layer =>
        (LogName.replica replicas protocol layer scan.clients).path scan.directory ::
          scan.clientPaths replicas protocol layer .sequential

/-- The paths of all logs that the scan looks for. -/
def logPaths : List Path := (countsUpTo scan.maxReplicas).flatMap scan.logPathsFor

end AgreementScan

namespace StoreScan

/-- The paths of all logs that the scan looks for. -/
def logPaths (scan : StoreScan) : List Path :=
  variants.flatMap fun variant => (countsUpTo scan.maxClients).flatMap (scan.clientPaths variant)

end StoreScan

namespace Call

variable (call : Call)

/-- The paths of the reports that are made. -/
def reportPaths (name : Metric → String) : List Path :=
  reportMetrics.map fun metric => call.outputDirectory.join (name metric)

/-- The paths of the reports and charts of agreement runs. -/
def agreementChartPaths : List Path :=
  let directory := call.path "input" "."
  chartMetrics.flatMap fun metric =>
    (call.agreementPlot .standard metric).chartPath ::
      AgreementPlot.scanned.map fun replicas =>
        directory.join (Report.agreementName metric replicas)

/-- The paths of the reports and charts of store runs. -/
def storeChartPaths : List Path :=
  let plot := call.storePlot .standard
  StorePlot.metrics.flatMap fun metric =>
    plot.reportPath metric :: Operation.all.map fun operation => plot.chartPath operation metric

/-- The paths that a command may read or write. -/
def footprint (command : CommandName) : List Path :=
  (call.given.path? "style").toList ++
    match command with
    | .parseAgree =>
      call.outputDirectory ::
        call.reportPaths (Report.agreementName · call.agreementScan.maxReplicas) ++
        call.agreementScan.logPaths
    | .parseKvs =>
      call.outputDirectory ::
        call.reportPaths (Report.storeName · call.storeScan.maxClients) ++ call.storeScan.logPaths
    | .plotAgree => call.agreementChartPaths
    | .plotKvs => call.storeChartPaths
    | .plotSurface => (call.given.path? "input").toList ++ [call.surfacePath]

end Call

namespace FileTree

/-- The locations that are met from `here` on. -/
def trailFrom (here : Location) : List String → List Location
  | [] => [here]
  | step :: rest =>
    let next :=
      if step == "." then here else if step == ".." then here.dropLast else here ++ [step]
    here :: trailFrom next rest

/-- The locations that are met on the way along a path. -/
def trail (home : Location) (path : Path) : List Location :=
  trailFrom (if path.isAbsolute then [] else home) path.steps

end FileTree

end BenchReport
