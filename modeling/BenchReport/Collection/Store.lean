import BenchReport.Collection.Error
import BenchReport.Log.Clients
import BenchReport.Log.Name
/-!
# Collecting key-value store rows

`StoreScan.collect` looks for the client logs of every number of clients up to a maximum, first those
of sequential runs and then those of runs on the tree library, and makes a row of each number of
clients that has any.  A row holds the figures of writes and of reads.

Throughput is the mean over the clients, or their total if so wanted (`totalThroughput`).  The spreads
and the response times are means in either case.

The first log that is broken ends the collection.  `StoreScan.run` writes what was collected as a
report.
-/

namespace BenchReport

/-- Where to look for store logs, and for which. -/
structure StoreScan where
  directory : Path
  maxClients : UInt32
  tree : String
  /-- Whether throughput is the total over the clients. -/
  totalThroughput : Bool
  deriving DecidableEq, Repr

namespace StoreScan

variable (scan : StoreScan)

/-- The places of the throughput means among the figures of a row. -/
def throughputMeans : List Nat := [0, 2]

/-- What is taken from the logs for a metric. -/
def clientsOf (metric : Metric) : Clients where
  columns := .store metric
  totals := if metric = .throughput ∧ scan.totalThroughput = true then throughputMeans else []

/-- The tree in the names of the logs of a variant. -/
def treeOf (variant : Variant) : Option String :=
  if variant = .smelt then some scan.tree else none

/-- The paths of the logs of all clients of a run. -/
def clientPaths (variant : Variant) (clients : UInt32) : List Path :=
  (countsBelow clients).map fun client =>
    (LogName.storeClient client clients (scan.treeOf variant)).path scan.directory

/-- The row that an aggregate makes. -/
def rowOf (clients : UInt32) (variant : Variant) (aggregate : Aggregate) : Option StoreRow :=
  match aggregate.pairs with
  | [write, read] => some ⟨clients, variant, write, read⟩
  | _ => none

/-- The row of the logs of a run. -/
def clientRow (metric : Metric) (files : FileTree) (variant : Variant) (clients : UInt32) :
    Noted SampleError (List StoreRow) := do
  let aggregate ← (scan.clientsOf metric).aggregate files (scan.clientPaths variant clients)
  pure (aggregate.bind (rowOf clients variant)).toList

/-- The variants that have logs, in the order of their rows. -/
def variants : List Variant := [.sequential, .smelt]

/-- The rows for a metric. -/
def collect (metric : Metric) (files : FileTree) : Noted SampleError (List StoreRow) :=
  Noted.gather (fun variant =>
    Noted.gather (scan.clientRow metric files variant) (countsUpTo scan.maxClients)) variants

/-- Collects the rows for a metric, writes them as a report into a directory, and returns its path. -/
def run (metric : Metric) (out : Path) : Run CollectionError Path := do
  Run.note .info .storeCollection
    ("Parsing " ++ metric.title ++ " from directory " ++ scan.directory.text)
  let rows ← Run.look fun files => (scan.collect metric files).mapError .sample
  if rows.isEmpty then
    Run.note .warn .storeCollection (emptyReportText metric)
  Run.note .debug .storeCollection (Report.dumpList (rows.map StoreRow.dump))
  let path := out.join (Report.storeName metric scan.maxClients)
  (Report.write path (rows.map StoreRow.toLine)).mapError .report
  pure path

end StoreScan

end BenchReport
