import BenchReport.Experiment
import BenchReport.Number.Binary64
/-!
# Samples and their aggregates

A client log summarises its run in one row of figures.  A `Sample` is what a report needs of that row:
the figures of some columns (`Columns`), in thousands and without fractions (`thousands`).

`Aggregate.reduce` turns the samples of all clients of one configuration into one number per column,
by the running mean or by the sum.  There is no aggregate of no samples, so a configuration without
logs shows as absent and never as zero.

The mean is `runningMean`: every value moves the mean by its difference to it, divided by the number
of values so far.  It is not the sum divided by the count, and the two differ in the last bits.

Figures come in pairs, a mean and its spread.  The spread of an aggregate is the mean of the spreads
that the clients report.
-/

namespace BenchReport

/-! ## Columns -/

/-- The columns of a summary row that make a sample, in the order of its values. -/
structure Columns where
  indices : List Nat
  deriving DecidableEq, Repr

namespace Columns

/-- The columns of an agreement log: the mean and its spread. -/
def agreement : Columns := ⟨[1, 2]⟩

/-- The columns of a key-value store log: for writes and then for reads, the mean and its spread. -/
def store : Metric → Columns
  | .responseTime => ⟨[1, 2, 5, 6]⟩
  | .throughput => ⟨[3, 4, 7, 8]⟩

end Columns

/-! ## Samples -/

/-- How many units of a log make one unit of a report. -/
def unitDivisor : Float := 1000

/-- A figure of a log in thousands, without its fraction. -/
def thousands (raw : Float) : Int := Binary64.toWord (raw / unitDivisor)

/-- The figures of one client. -/
structure Sample where
  values : List Int
  deriving DecidableEq, Repr

/-- A mean and its spread. -/
structure MeanSpread where
  mean : Float
  spread : Float

/-! ## Aggregates -/

/-- How the values of one column become one number. -/
inductive Reduction where
  | mean
  | sum
  deriving DecidableEq, Repr

/-- Continues a running mean of `count` values with more of them. -/
def continueMean (count mean : Float) : List Float → Float
  | [] => mean
  | x :: rest => continueMean (count + 1) (mean + (x - mean) / (count + 1)) rest

/-- The running mean of values. -/
def runningMean (values : List Float) : Float := continueMean 0 0 values

/-- The sum of values, from the first to the last. -/
def sumInOrder (values : List Float) : Float := values.foldl (· + ·) 0

/-- The number that a reduction makes of values. -/
def Reduction.apply : Reduction → List Float → Float
  | mean => runningMean
  | sum => sumInOrder

/-- One number per column, and how many samples they were made of. -/
structure Aggregate where
  fields : List Float
  samples : Nat

namespace Aggregate

/-- The values of one column in all samples; a sample that is too short counts as zero. -/
def column (samples : List Sample) (index : Nat) : List Float :=
  samples.map fun sample => Float.ofInt (sample.values.getD index 0)

/-- Reduces the samples column by column, column `i` by `reduction i`.  The first sample says how
many columns there are. -/
def reduce (reduction : Nat → Reduction) : List Sample → Option Aggregate
  | [] => none
  | first :: rest =>
    let samples := first :: rest
    some {
      fields := (List.range first.values.length).map fun index =>
        (reduction index).apply (column samples index)
      samples := samples.length }

/-- The mean of every column. -/
def meanOf : List Sample → Option Aggregate := reduce fun _ => .mean

/-- The sum of the columns in `totals` and the mean of all others. -/
def withTotals (totals : List Nat) : List Sample → Option Aggregate :=
  reduce fun index => if totals.contains index then .sum else .mean

/-- The pairs of neighbours; a last one without a partner is left out. -/
def pairUp : List Float → List MeanSpread
  | mean :: spread :: rest => ⟨mean, spread⟩ :: pairUp rest
  | _ => []

/-- The means of an aggregate with their spreads. -/
def pairs (aggregate : Aggregate) : List MeanSpread := pairUp aggregate.fields

theorem length_pairUp : ∀ fields : List Float, (pairUp fields).length = fields.length / 2
  | [] => by simp [pairUp]
  | [_] => by simp [pairUp]
  | _ :: _ :: rest => by simp only [pairUp, List.length_cons, length_pairUp rest]; omega

theorem reduce_eq_none_iff {reduction : Nat → Reduction} {samples : List Sample} :
    reduce reduction samples = none ↔ samples = [] := by
  cases samples <;> simp [reduce]

end Aggregate

end BenchReport
