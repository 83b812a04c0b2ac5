import BenchReport.Collection.Agreement
import BenchReport.Proofs.ClientLogs

/-!
# Rows of agreement runs

What all collections of agreement rows share: what a row is about (`AgreementRow.key`), the figures
that some samples are reduced to (`AgreementScan.statsOf`), and what reading the logs of a row comes
to (`AgreementScan.outcome_rowFrom`).
-/

namespace BenchReport

/-- What a row is about. -/
structure AgreementKey where
  replicas : UInt32
  protocol : Protocol
  variant : Variant
  deriving DecidableEq, Repr

/-- What the row is about. -/
def AgreementRow.key (row : AgreementRow) : AgreementKey :=
  ⟨row.replicas, row.protocol, row.variant⟩

/-- The row about a key with some figures. -/
def AgreementKey.row (key : AgreementKey) (stats : MeanSpread) : AgreementRow :=
  ⟨key.replicas, key.protocol, key.variant, stats⟩

@[simp] lemma AgreementKey.key_row (key : AgreementKey) (stats : MeanSpread) :
    (key.row stats).key = key := rfl

@[simp] lemma AgreementKey.stats_row (key : AgreementKey) (stats : MeanSpread) :
    (key.row stats).stats = stats := rfl

namespace AgreementScan

/-- The mean and its spread that the samples of a configuration are reduced to. -/
def statsOf (samples : List Sample) : Option MeanSpread :=
  (Aggregate.meanOf samples).bind fun aggregate => aggregate.pairs.head?

/-- The samples of the logs at some paths, in order. -/
def samplesAt (files : FileTree) (paths : List Path) : List Sample :=
  paths.filterMap (Log.sampleAt files .agreement)

/-- Agreement logs are reduced to one pair of figures, so there are figures as soon as there is a
sample. -/
lemma isSome_statsOf (files : FileTree) (paths : List Path) :
    (statsOf (samplesAt files paths)).isSome = true ↔ samplesAt files paths ≠ [] := by
  have hwidth : ∀ sample ∈ samplesAt files paths, sample.values.length = 2 := by
    intro sample hsample
    obtain ⟨path, -, hpath⟩ := List.mem_filterMap.mp hsample
    exact Log.length_of_sampleAt hpath
  have hnil : samplesAt files paths = [] ↔
      Aggregate.reduce (fun _ => .mean) (samplesAt files paths) = none :=
    Aggregate.reduce_eq_none_iff.symm
  rw [← not_iff_not, not_not, hnil]
  cases hreduce : Aggregate.reduce (fun _ => .mean) (samplesAt files paths) with
  | none => simp [statsOf, Aggregate.meanOf, hreduce]
  | some aggregate =>
    have hpairs : aggregate.pairs.length = 1 := Aggregate.length_pairs_of_reduce hwidth hreduce
    obtain ⟨stats, hstats⟩ := List.length_eq_one_iff.mp hpairs
    simp [statsOf, Aggregate.meanOf, hreduce, hstats]

/-- The row of some logs, unless one of them is broken. -/
lemma outcome_rowFrom (files : FileTree) (paths : List Path) (key : AgreementKey) :
    (rowFrom files paths key.replicas key.protocol key.variant).outcome =
      unlessFault (paths.findSome? (Log.faultAt files .agreement))
        ((statsOf (samplesAt files paths)).map key.row).toList := by
  have hmean : ∀ samples, Aggregate.withTotals [] samples = Aggregate.meanOf samples := by
    simp [Aggregate.withTotals, Aggregate.meanOf]
  rw [rowFrom, Clients.outcome_row, hmean, statsOf, Option.map_bind]
  rfl

end AgreementScan

end BenchReport
