import BenchReport.Experiment
import BenchReport.Files.Tree
/-!
# Names of logs

The harness writes every log under a name that tells what was run: which protocol on which layer, how
many replicas and clients, which client of them, and for the runs on the tree library, the name of
the tree.  `LogName` holds these parameters, one constructor for each kind of log, and `fileName`
spells the name out.  Client logs of agreement runs stand in a directory of their own for each
number of replicas (`directory`), all others stand in the results directory itself.

`LogName.locate` finds the path of a log only if there is a file.
-/

namespace BenchReport

/-- What identifies a log of the harness. -/
inductive LogName where
  /-- The response times that one client saw in an agreement run; with a tree, the run was one of the
  tree library. -/
  | agreementClient (replicas client : UInt32) (protocol : Protocol) (layer : Layer)
      (clients : UInt32) (tree : Option String)
  /-- The throughput that a replica saw in an agreement run. -/
  | replica (replicas : UInt32) (protocol : Protocol) (layer : Layer) (clients : UInt32)
  /-- The throughput that a replica saw in an agreement run on the tree library. -/
  | treeReplica (replicas : UInt32) (protocol : Protocol) (tree : String) (clients : UInt32)
  /-- The figures of one client of the key-value store. -/
  | storeClient (client clients : UInt32) (tree : Option String)
  deriving DecidableEq, Repr

/-- A count as it stands in names and reports. -/
def countText (n : UInt32) : String := toString n.toNat

namespace LogName

/-- The directory of the log below the results directory, if it has one. -/
def directory : LogName → Option String
  | agreementClient replicas _ _ _ _ _ => some ("rep_" ++ countText replicas)
  | _ => none

/-- The name of a tree between the parts of a file name. -/
def treePart : Option String → String
  | some tree => tree ++ "_"
  | none => ""

/-- The name of the file. -/
def fileName : LogName → String
  | agreementClient _ client protocol layer clients tree =>
    "client_id_" ++ countText client ++ "_algo_" ++ toString protocol.harnessId ++ "_below_" ++
      toString layer.harnessId ++ "_" ++ treePart tree ++ "num_" ++ countText clients
  | replica replicas protocol layer clients =>
    "tp_" ++ protocol.stem ++ "_below_" ++ toString layer.harnessId ++ "_num_" ++
      countText replicas ++ "_numc_" ++ countText clients
  | treeReplica replicas protocol tree clients =>
    "tp_" ++ tree ++ "_" ++ protocol.stem ++ "_num_" ++ countText replicas ++ "_numc_" ++
      countText clients
  | storeClient client clients tree =>
    "client_kvs_" ++ treePart tree ++ "id_" ++ countText client ++ "_num_" ++ countText clients

/-- The path of the log below the results directory. -/
def path (dir : Path) (log : LogName) : Path :=
  match log.directory with
  | some sub => (dir.join sub).join log.fileName
  | none => dir.join log.fileName

/-- The path of the log, if the harness wrote it. -/
def locate (tree : FileTree) (dir : Path) (log : LogName) : Option Path :=
  if tree.isFile (log.path dir) then some (log.path dir) else none

end LogName

/-- The counts from `0` up to and including `last`. -/
def countsUpTo (last : UInt32) : List UInt32 :=
  (List.range (last.toNat + 1)).map UInt32.ofNat

/-- The counts below `n`: the numbers of `n` clients. -/
def countsBelow (n : UInt32) : List UInt32 := (List.range n.toNat).map UInt32.ofNat

end BenchReport
