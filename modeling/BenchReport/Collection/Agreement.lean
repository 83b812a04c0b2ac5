import BenchReport.Collection.Error
import BenchReport.Log.Clients
import BenchReport.Log.Name
/-!
# Collecting agreement rows

`AgreementScan.collect` looks for the logs of every configuration up to a number of replicas and makes
a row of each configuration that has any.

*Response times* come from the logs of all clients of a configuration.  First the sequential runs, by
protocol, layer and replicas, then the runs on the tree library, by protocol and replicas; the latter
always run directly.

*Throughput* comes from one replica log per configuration.  On shared memory it is that of a hybrid
run, directly that of a sequential run.  The log of the tree library is looked for only where the
sequential run has a row, and its row follows that one.

The first log that is broken ends the collection.  `AgreementScan.run` writes what was collected as a
report.
-/

namespace BenchReport

/-- Where to look for agreement logs, and for which. -/
structure AgreementScan where
  directory : Path
  maxReplicas : UInt32
  clients : UInt32
  tree : String
  deriving DecidableEq, Repr

namespace AgreementScan

variable (scan : AgreementScan)

/-- The row that an aggregate makes. -/
def rowOf (replicas : UInt32) (protocol : Protocol) (variant : Variant) (aggregate : Aggregate) :
    Option AgreementRow :=
  aggregate.pairs.head?.map fun stats => ⟨replicas, protocol, variant, stats⟩

/-- The row of the logs at the paths, or none if they have no sample. -/
def rowFrom (files : FileTree) (paths : List Path) (replicas : UInt32) (protocol : Protocol)
    (variant : Variant) : Noted SampleError (List AgreementRow) := do
  let aggregate ← Clients.aggregate ⟨.agreement, []⟩ files paths
  pure (aggregate.bind (rowOf replicas protocol variant)).toList

/-! ## Response times -/

/-- The tree in the names of the client logs of a variant. -/
def treeOf (variant : Variant) : Option String :=
  if variant = .smelt then some scan.tree else none

/-- The paths of the logs of all clients of a configuration. -/
def clientPaths (replicas : UInt32) (protocol : Protocol) (layer : Layer) (variant : Variant) :
    List Path :=
  (countsBelow scan.clients).map fun client =>
    (LogName.agreementClient replicas client protocol layer scan.clients (scan.treeOf variant)).path
      scan.directory

/-- The row of the client logs of a configuration. -/
def clientRow (files : FileTree) (protocol : Protocol) (layer : Layer) (variant : Variant)
    (replicas : UInt32) : Noted SampleError (List AgreementRow) :=
  rowFrom files (scan.clientPaths replicas protocol layer variant) replicas protocol variant

/-- The rows of one protocol on one layer, by replicas. -/
def clientRows (files : FileTree) (protocol : Protocol) (layer : Layer) (variant : Variant) :
    Noted SampleError (List AgreementRow) :=
  Noted.gather (scan.clientRow files protocol layer variant) (countsUpTo scan.maxReplicas)

/-- The rows of the sequential runs, and behind them those of the tree library. -/
def responseTimes (files : FileTree) : Noted SampleError (List AgreementRow) := do
  let sequential ← Noted.gather (fun protocol =>
    Noted.gather (fun layer => scan.clientRows files protocol layer .sequential) Layer.all)
    Protocol.all
  let smelt ← Noted.gather (fun protocol => scan.clientRows files protocol .direct .smelt)
    Protocol.all
  pure (sequential ++ smelt)

/-! ## Throughput -/

/-- The row of one replica log, or none if there is no such log. -/
def replicaRow (files : FileTree) (log : LogName) (replicas : UInt32) (protocol : Protocol)
    (variant : Variant) : Noted SampleError (List AgreementRow) :=
  match log.locate files scan.directory with
  | none => do
    Noted.note .debug .agreementCollection ("Skipping missing log " ++ log.fileName)
    pure []
  | some path => rowFrom files [path] replicas protocol variant

/-- The variant whose throughput stands in the replica logs of a layer. -/
def replicaVariant : Layer → Variant
  | .sharedMemory => .hybrid
  | .direct => .sequential

/-- The rows of the replica logs of a configuration: that of the run itself, and behind a sequential
one that of the tree library. -/
def replicaRows (files : FileTree) (protocol : Protocol) (layer : Layer) (replicas : UInt32) :
    Noted SampleError (List AgreementRow) := do
  let variant := replicaVariant layer
  let rows ← scan.replicaRow files (.replica replicas protocol layer scan.clients) replicas protocol
    variant
  if rows.isEmpty || variant ≠ .sequential then pure rows
  else do
    let treeRows ← scan.replicaRow files (.treeReplica replicas protocol scan.tree scan.clients)
      replicas protocol .smelt
    pure (rows ++ treeRows)

/-- The rows of all replica logs. -/
def throughput (files : FileTree) : Noted SampleError (List AgreementRow) :=
  Noted.gather (fun protocol =>
    Noted.gather (fun layer =>
      Noted.gather (scan.replicaRows files protocol layer) (countsUpTo scan.maxReplicas))
      Layer.all)
    Protocol.all

/-! ## Collecting and reporting -/

/-- The rows for a metric. -/
def collect (metric : Metric) (files : FileTree) : Noted SampleError (List AgreementRow) := do
  Noted.note .info .agreementCollection
    ("Parsing raw output from directory " ++ scan.directory.text)
  match metric with
  | .responseTime => scan.responseTimes files
  | .throughput => scan.throughput files

/-- Collects the rows for a metric, writes them as a report into a directory, and returns its path. -/
def run (metric : Metric) (out : Path) : Run CollectionError Path := do
  let rows ← Run.look fun files => (scan.collect metric files).mapError .sample
  if rows.isEmpty then
    Run.note .warn .agreementCollection (emptyReportText metric)
  Run.note .debug .agreementCollection (Report.dumpList (rows.map AgreementRow.dump))
  let path := out.join (Report.agreementName metric scan.maxReplicas)
  (Report.write path (rows.map AgreementRow.toLine)).mapError .report
  pure path

end AgreementScan

end BenchReport
