/-!
# Experiments

What one benchmark run was: the agreement `Protocol`, the `Layer` it was stacked on, the
`Variant` of the program that executed it, and the `Metric` that was measured.

Each of these has a fixed set of names.  A protocol is known to the benchmark harness by a number
and a file stem, to a report by its label, and to a chart by its legend name.  Reading a label back
(`Protocol.ofLabel`, `Variant.ofLabel`) accepts every one of those names, and nothing else.

The order of `Protocol.all` and `Layer.all` is the order of the harness numbers.  Every scan over
configurations follows it, so it is the order of the rows of a report.
-/

namespace BenchReport

/-- Why a label in a report names nothing. -/
inductive LabelError where
  /-- The text is no name of a protocol. -/
  | unknownProtocol (text : String)
  /-- The text, without the quotes around it, is no name of a variant. -/
  | invalidVariant (text : String)
  deriving DecidableEq, Repr

/-- The wording of a label error. -/
def LabelError.message : LabelError → String
  | .unknownProtocol text => "Unknown protocol label: " ++ text
  | .invalidVariant text =>
    "Invalid variant: " ++ text ++ ". Must be 'sequential', 'smelt' or 'hybrid'"

/-! ## Protocols -/

/-- The agreement protocols that the harness can run. -/
inductive Protocol where
  | onePaxos
  | twoPhaseCommit
  | broadcast
  | chain
  deriving DecidableEq, Repr

namespace Protocol

/-- Every protocol, in the order of the harness numbers. -/
def all : List Protocol := [onePaxos, twoPhaseCommit, broadcast, chain]

/-- The number of the protocol in the names of client logs. -/
def harnessId : Protocol → Nat
  | onePaxos => 0
  | twoPhaseCommit => 1
  | broadcast => 2
  | chain => 3

/-- The label that a report carries. -/
def label : Protocol → String
  | onePaxos => "1Paxos"
  | twoPhaseCommit => "TPC"
  | broadcast => "Broad"
  | chain => "Chain"

/-- The short name in the names of replica logs. -/
def stem : Protocol → String
  | onePaxos => "one"
  | twoPhaseCommit => "tpc"
  | broadcast => "broad"
  | chain => "chain"

/-- The name in the legend of a chart. -/
def legend : Protocol → String
  | twoPhaseCommit => "2PC"
  | other => other.label

/-- The name in the dump of a row. -/
def name : Protocol → String
  | onePaxos => "OnePaxos"
  | twoPhaseCommit => "TwoPhaseCommit"
  | broadcast => "Broadcast"
  | chain => "Chain"

/-- A protocol answers to its label, its stem and its legend name. -/
def answersTo (protocol : Protocol) (text : String) : Bool :=
  protocol.label == text || protocol.stem == text || protocol.legend == text

/-- The protocol that answers to `text`. -/
def ofLabel (text : String) : Except LabelError Protocol :=
  match all.find? (·.answersTo text) with
  | some protocol => .ok protocol
  | none => .error (.unknownProtocol text)

theorem mem_all (protocol : Protocol) : protocol ∈ all := by
  cases protocol <;> simp [all]

theorem ofLabel_label (protocol : Protocol) : ofLabel protocol.label = .ok protocol := by
  cases protocol <;> rfl

end Protocol

/-! ## Layers -/

/-- What an agreement protocol is stacked on. -/
inductive Layer where
  /-- A broadcast in shared memory. -/
  | sharedMemory
  /-- Nothing: the protocol runs directly. -/
  | direct
  deriving DecidableEq, Repr

namespace Layer

/-- Every layer, in the order of the harness numbers. -/
def all : List Layer := [sharedMemory, direct]

/-- The number of the layer in the names of logs. -/
def harnessId : Layer → Nat
  | sharedMemory => 4
  | direct => 5

/-- The label of the layer. -/
def label : Layer → String
  | sharedMemory => "SHM"
  | direct => "NONE"

theorem mem_all (layer : Layer) : layer ∈ all := by
  cases layer <;> simp [all]

end Layer

/-! ## Variants -/

/-- Which build of the benchmarked program produced a log. -/
inductive Variant where
  | sequential
  | smelt
  | hybrid
  deriving DecidableEq, Repr

namespace Variant

/-- Every variant. -/
def all : List Variant := [sequential, smelt, hybrid]

/-- The label that a report and a legend carry. -/
def label : Variant → String
  | sequential => "sequential"
  | smelt => "smelt"
  | hybrid => "hybrid"

/-- The name in the dump of a row. -/
def name : Variant → String
  | sequential => "Sequential"
  | smelt => "Smelt"
  | hybrid => "Hybrid"

/-- The text without the double quotes at its two ends. -/
def unquote (text : String) : String :=
  let inner := text.toList.dropWhile (· == '\"')
  String.ofList (inner.reverse.dropWhile (· == '\"')).reverse

/-- The variant whose label stands in `text`, between any number of double quotes. -/
def ofLabel (text : String) : Except LabelError Variant :=
  let inner := unquote text
  match all.find? (·.label == inner) with
  | some variant => .ok variant
  | none => .error (.invalidVariant inner)

end Variant

/-! ## Metrics -/

/-- What a report is about. -/
inductive Metric where
  | responseTime
  | throughput
  deriving DecidableEq, Repr

namespace Metric

/-- The start of the name of a report. -/
def tag : Metric → String
  | responseTime => "rt"
  | throughput => "tp"

/-- The metric as it is named in messages. -/
def title : Metric → String
  | responseTime => "response time"
  | throughput => "throughput"

end Metric

end BenchReport
