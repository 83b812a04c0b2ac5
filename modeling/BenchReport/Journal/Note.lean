/-!
# The journal

While it works, a run keeps a journal of what it reads, writes and leaves out.  A `Note` has a level,
which says how much it matters, a topic, which says what part of the run it is about, and a text.

Topics have names of their own, in parts joined by `::`, by which the notes that are printed can be
chosen (`Topic.name`).
-/

namespace BenchReport

/-- How much a note matters. -/
inductive Level where
  | error
  | warn
  | info
  | debug
  | trace
  deriving DecidableEq, Repr

namespace Level

/-- The place of a level, from the ones that matter most to the most detailed ones. -/
def rank : Level → Nat
  | error => 1
  | warn => 2
  | info => 3
  | debug => 4
  | trace => 5

/-- The name of a level as a printed note shows it. -/
def label : Level → String
  | error => "ERROR"
  | warn => "WARN"
  | info => "INFO"
  | debug => "DEBUG"
  | trace => "TRACE"

end Level

/-- The five commands. -/
inductive CommandName where
  | parseAgree
  | parseKvs
  | plotAgree
  | plotKvs
  | plotSurface
  deriving DecidableEq, Repr

/-- What a note is about. -/
inductive Topic where
  | logScan
  | reportFile
  | aggregation
  | agreementCollection
  | storeCollection
  | agreementChart
  | storeChart
  | surface
  | command (name : CommandName)
  deriving DecidableEq, Repr

/-- The name by which the notes on a topic are chosen. -/
def Topic.name : Topic → String
  | logScan => "smeltbench::infrastructure::log_reader"
  | reportFile => "smeltbench::infrastructure::report_store"
  | aggregation => "smeltbench::application::aggregator"
  | agreementCollection => "smeltbench::application::agree"
  | storeCollection => "smeltbench::application::kvs"
  | agreementChart => "smeltbench::application::plotting::agree_chart"
  | storeChart => "smeltbench::application::plotting::kvs_chart"
  | surface => "smeltbench::application::plotting::surface"
  | command .parseAgree => "parse_agree"
  | command .parseKvs => "parse_kvs"
  | command .plotAgree => "plot_agree"
  | command .plotKvs => "plot_kvs"
  | command .plotSurface => "plot_surface"

/-- An entry of the journal. -/
structure Note where
  level : Level
  topic : Topic
  text : String
  deriving DecidableEq, Repr

namespace Note

/-- Characters that would steer a terminal are printed as escapes. -/
def shown (c : Char) : List Char :=
  let n := c.toNat
  let hexPair := [Nat.digitChar (n / 16), Nat.digitChar (n % 16)]
  if n == 0x1b || n == 0x07 || n == 0x08 || n == 0x0c || n == 0x7f then '\\' :: 'x' :: hexPair
  else if 0x80 ≤ n && n ≤ 0x9f then '\\' :: 'u' :: '\x7b' :: hexPair ++ ['\x7d']
  else [c]

/-- The note as it is printed. -/
def print (note : Note) : String :=
  note.level.label ++ " " ++ String.ofList (note.text.toList.flatMap shown)

end Note

end BenchReport
