import BenchReport.Journal.Noted
import BenchReport.Log.Summary
/-!
# The logs of the clients of one configuration

Every client of a run writes its own log.  `Log.read` reads the sample of one of them from the file
tree, and `Clients.aggregate` reduces the samples of all of them.  A log that does not exist, or that
has no summary row, is left out, as if the client had not taken part; a log that cannot be read, or
whose summary row is broken, is an error of the whole configuration.
-/

namespace BenchReport

namespace Log

/-- The sample of the log at a path, if there is a log with a summary row. -/
def read (tree : FileTree) (columns : Columns) (path : Path) : Noted SampleError (Option Sample) :=
  match tree.lookup path with
  | .error .notFound => do
    Noted.note .debug .logScan ("Skipping missing log " ++ path.text)
    pure none
  | .error cause => Noted.fail (.unreadable path cause)
  | .ok entry => do
    Noted.note .info .logScan path.text
    match FileTree.bytesOf entry with
    | .error cause => Noted.fail (.badRecord path (.unreadable cause))
    | .ok bytes => do
      let found ← Noted.ofOutcome (sample path columns bytes)
      match found with
      | none => do
        Noted.note .debug .logScan ("No sentinel row in " ++ path.text)
        pure none
      | some sample => pure (some sample)

end Log

/-- What is taken from the logs of a configuration: some columns, and which of them are summed up
instead of averaged. -/
structure Clients where
  columns : Columns
  totals : List Nat
  deriving DecidableEq, Repr

namespace Clients

/-- The samples of the logs at the paths, in order. -/
def samples (clients : Clients) (tree : FileTree) (paths : List Path) :
    Noted SampleError (List Sample) :=
  Noted.gather (fun path => do
    let found ← Log.read tree clients.columns path
    pure found.toList) paths

/-- The aggregate of the samples of the logs at the paths; none if there is no sample. -/
def aggregate (clients : Clients) (tree : FileTree) (paths : List Path) :
    Noted SampleError (Option Aggregate) := do
  let samples ← clients.samples tree paths
  Noted.note .debug .aggregation
    ("Parsed " ++ toString samples.length ++ " of " ++ toString paths.length ++ " client logs")
  pure (Aggregate.withTotals clients.totals samples)

end Clients

end BenchReport
