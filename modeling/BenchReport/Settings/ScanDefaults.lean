import BenchReport.Files.Path
import BenchReport.Number.Numeral
import BenchReport.Settings.Environment
import BenchReport.Text.Blank
/-!
# Defaults of scans

What a scan of logs uses where its arguments leave something open.  Each default has a variable of the
environment, and a fixed value where that variable is not set, or is set to something that makes no
sense: a blank tree, a number of clients that is no count, a truth value other than `true` and
`false`.
-/

namespace BenchReport

/-- What a scan uses where its arguments leave something open. -/
structure ScanDefaults where
  tree : String
  /-- The number of clients of an agreement run. -/
  clients : UInt32
  /-- Where reports are written. -/
  outputDirectory : Path
  /-- Whether the throughput of a store run is the total over its clients. -/
  totalThroughput : Bool
  deriving DecidableEq, Repr

namespace ScanDefaults

/-- The defaults of an empty environment. -/
def standard : ScanDefaults where
  tree := "adaptivetree"
  clients := 4
  outputDirectory := ⟨"."⟩
  totalThroughput := false

/-- The variables that hold the defaults. -/
def variableNames : List String :=
  ["SMELT_TREE", "SMELT_AGREE_CLIENTS", "SMELT_OUTPUT_DIR", "SMELT_KVS_SUM_THROUGHPUT"]

/-- The truth value that a text names. -/
def truth? (text : String) : Option Bool :=
  if text = "true" then some true else if text = "false" then some false else none

/-- The defaults of an environment. -/
def ofEnvironment (env : Environment) : ScanDefaults where
  tree := ((env.get? "SMELT_TREE").filter fun tree => !Text.isBlankText tree).getD standard.tree
  clients :=
    (((env.get? "SMELT_AGREE_CLIENTS").bind Numeral.u32?).map UInt32.ofNat).getD standard.clients
  outputDirectory := ((env.get? "SMELT_OUTPUT_DIR").map Path.mk).getD standard.outputDirectory
  totalThroughput :=
    ((env.get? "SMELT_KVS_SUM_THROUGHPUT").bind truth?).getD standard.totalThroughput

end ScanDefaults

end BenchReport
