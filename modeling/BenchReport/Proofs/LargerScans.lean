import BenchReport.Proofs.ResponseTimes
import BenchReport.Proofs.StoreRows
import BenchReport.Proofs.Throughput

/-!
# Scans up to different counts

A scan looks for runs up to a largest count (`AgreementScan.upTo`, `StoreScan.upTo`).  The count stands
in the innermost of several loops, so a larger one puts rows between the old ones and not only behind
them.  It changes nothing else: the runs that a scan looks for are those of the larger scan up to its
own count, in the same order (`AgreementScan.clientRuns_upTo`, `AgreementScan.throughputKeys_upTo`,
`StoreScan.runs_upTo`), and what is found of a run does not depend on the count.

`collect_upTo_of_le` says what follows for the rows that are collected, and `AgreementScan.found`
names the rows themselves, so that those of two scans can be compared without the scans.
-/

namespace BenchReport

/-! ## Scans of some of the places -/

section

variable {ε β κ : Type} {fault : κ → Option ε} {found : κ → Option β} {places : List κ}
  {wanted : κ → Bool} {kept : β → Bool}

/-- What is found at some of the places are the findings that tell such a place. -/
lemma filterMap_filter_of_key (h : ∀ place row, found place = some row → kept row = wanted place) :
    (places.filter wanted).filterMap found = (places.filterMap found).filter kept := by
  rw [List.filterMap_filter, List.filter_filterMap]
  refine List.filterMap_congr fun place _ => ?_
  cases hfound : found place with
  | none => simp
  | some row => simp [Option.filter, h place row hfound]

/-- A scan of some of the places succeeds if that of all of them does. -/
lemma Scans.outcome_filter_eq_ok {step part : Noted ε (List β)} (hstep : Scans fault found step places)
    (hpart : Scans fault found part (places.filter wanted))
    (h : ∀ place row, found place = some row → kept row = wanted place) {rows : List β}
    (hrows : step.outcome = .ok rows) : part.outcome = .ok (rows.filter kept) := by
  obtain ⟨hfault, rfl⟩ := hstep.eq_ok_iff.mp hrows
  refine hpart.eq_ok_iff.mpr ⟨fun place hplace => ?_, (filterMap_filter_of_key h).symm⟩
  exact hfault place (List.mem_filter.mp hplace).1

end

/-! ## Agreement runs -/

namespace AgreementScan

variable (scan : AgreementScan) {last larger : UInt32} (files : FileTree)

/-- The scan that looks for up to another number of replicas. -/
def upTo (scan : AgreementScan) (last : UInt32) : AgreementScan := { scan with maxReplicas := last }

@[simp] lemma maxReplicas_upTo (last : UInt32) : (scan.upTo last).maxReplicas = last := rfl

lemma clientRuns_upTo (h : last ≤ larger) : (scan.upTo last).clientRuns =
    (scan.upTo larger).clientRuns.filter fun run => run.replicas ≤ last := by
  refine eq_of_ascending (scan.upTo last).ascending_clientRuns
    ((scan.upTo larger).ascending_clientRuns.filter _) fun run => ?_
  simp only [List.mem_filter, mem_clientRuns, Covers, maxReplicas_upTo, decide_eq_true_eq]
  constructor
  · rintro ⟨hle, hlayer⟩
    exact ⟨⟨UInt32.le_trans hle h, hlayer⟩, hle⟩
  · rintro ⟨⟨-, hlayer⟩, hle⟩
    exact ⟨hle, hlayer⟩

lemma throughputKeys_upTo (h : last ≤ larger) : (scan.upTo last).throughputKeys files =
    ((scan.upTo larger).throughputKeys files).filter fun key => key.replicas ≤ last := by
  refine eq_of_ascending ((scan.upTo last).ascending_throughputKeys files)
    (((scan.upTo larger).ascending_throughputKeys files).filter _) fun key => ?_
  simp only [List.mem_filter, mem_throughputKeys, Consults, maxReplicas_upTo, decide_eq_true_eq]
  constructor
  · rintro ⟨hle, hsmelt⟩
    exact ⟨⟨UInt32.le_trans hle h, hsmelt⟩, hle⟩
  · rintro ⟨⟨-, hsmelt⟩, hle⟩
    exact ⟨hle, hsmelt⟩

/-- A row of response times tells the number of replicas of its run. -/
lemma replicas_clientRunRow (run : ClientRun) (row : AgreementRow)
    (h : scan.clientRunRow files run = some row) : row.replicas = run.replicas :=
  congrArg AgreementKey.replicas ((scan.clientRunRow_eq_some files).mp h).1

/-- A row of throughput tells the number of replicas of its run. -/
lemma replicas_throughputRow (key : AgreementKey) (row : AgreementRow)
    (h : scan.throughputRow files key = some row) : row.replicas = key.replicas :=
  congrArg AgreementKey.replicas (scan.key_throughputRow files key row h)

lemma collect_upTo (metric : Metric) (h : last ≤ larger) {rows : List AgreementRow}
    (hrows : ((scan.upTo larger).collect metric files).outcome = .ok rows) :
    ((scan.upTo last).collect metric files).outcome =
      .ok (rows.filter fun row => row.replicas ≤ last) := by
  cases metric with
  | responseTime =>
    have hpart := (scan.upTo last).scans_responseTimes files
    rw [scan.clientRuns_upTo h] at hpart
    refine ((scan.upTo larger).scans_responseTimes files).outcome_filter_eq_ok hpart ?_ hrows
    intro run row hrow
    rw [scan.replicas_clientRunRow files run row hrow]
  | throughput =>
    have hpart := (scan.upTo last).scans_throughput files
    rw [scan.throughputKeys_upTo files h] at hpart
    refine ((scan.upTo larger).scans_throughput files).outcome_filter_eq_ok hpart ?_ hrows
    intro key row hrow
    rw [scan.replicas_throughputRow files key row hrow]

/-! ### The rows by themselves -/

/-- The rows of a collection that meets no fault. -/
def found (metric : Metric) : List AgreementRow :=
  match metric with
  | .responseTime => scan.clientRuns.filterMap (scan.clientRunRow files)
  | .throughput => (scan.throughputKeys files).filterMap (scan.throughputRow files)

lemma eq_found_of_collect {metric : Metric} {rows : List AgreementRow}
    (h : (scan.collect metric files).outcome = .ok rows) : rows = scan.found files metric := by
  cases metric with
  | responseTime => exact ((scan.scans_responseTimes files).eq_ok_iff.mp h).2
  | throughput => exact ((scan.scans_throughput files).eq_ok_iff.mp h).2

lemma found_upTo (metric : Metric) (h : last ≤ larger) : (scan.upTo last).found files metric =
    ((scan.upTo larger).found files metric).filter fun row => row.replicas ≤ last := by
  cases metric with
  | responseTime =>
    rw [found, scan.clientRuns_upTo h]
    refine filterMap_filter_of_key fun run row hrow => ?_
    rw [scan.replicas_clientRunRow files run row hrow]
  | throughput =>
    rw [found, scan.throughputKeys_upTo files h]
    refine filterMap_filter_of_key fun key row hrow => ?_
    rw [scan.replicas_throughputRow files key row hrow]

end AgreementScan

/-! ## Store runs -/

namespace StoreScan

variable (scan : StoreScan) {last larger : UInt32} (files : FileTree)

/-- The scan that looks for up to another number of clients. -/
def upTo (scan : StoreScan) (last : UInt32) : StoreScan := { scan with maxClients := last }

@[simp] lemma maxClients_upTo (last : UInt32) : (scan.upTo last).maxClients = last := rfl

lemma runs_upTo (h : last ≤ larger) : (scan.upTo last).runs =
    (scan.upTo larger).runs.filter fun key => key.clients ≤ last := by
  refine eq_of_ascending (scan.upTo last).ascending_runs
    ((scan.upTo larger).ascending_runs.filter _) fun key => ?_
  simp only [List.mem_filter, mem_runs, Covers, maxClients_upTo, decide_eq_true_eq]
  constructor
  · rintro ⟨hvariant, hle⟩
    exact ⟨⟨hvariant, UInt32.le_trans hle h⟩, hle⟩
  · rintro ⟨⟨hvariant, -⟩, hle⟩
    exact ⟨hvariant, hle⟩

lemma collect_upTo (metric : Metric) (h : last ≤ larger) {rows : List StoreRow}
    (hrows : ((scan.upTo larger).collect metric files).outcome = .ok rows) :
    ((scan.upTo last).collect metric files).outcome =
      .ok (rows.filter fun row => row.clients ≤ last) := by
  have hpart := (scan.upTo last).scans_collect metric files
  rw [scan.runs_upTo h] at hpart
  refine ((scan.upTo larger).scans_collect metric files).outcome_filter_eq_ok hpart ?_ hrows
  intro key row hrow
  rw [← (scan.upTo larger).key_runRow metric files key row hrow]
  rfl

end StoreScan

/-! ## A larger scan extends a smaller one -/

/-- **A larger scan extends a smaller one.**  If a collection up to some count succeeds, so does that up
to a smaller one, and it gives those of the rows that are about no larger count, in the same order. -/
theorem collect_upTo_of_le (metric : Metric) (files : FileTree) {last larger : UInt32}
    (h : last ≤ larger) :
    (∀ (scan : AgreementScan) (rows : List AgreementRow),
      ((scan.upTo larger).collect metric files).outcome = .ok rows →
        ((scan.upTo last).collect metric files).outcome =
          .ok (rows.filter fun row => row.replicas ≤ last)) ∧
    (∀ (scan : StoreScan) (rows : List StoreRow),
      ((scan.upTo larger).collect metric files).outcome = .ok rows →
        ((scan.upTo last).collect metric files).outcome =
          .ok (rows.filter fun row => row.clients ≤ last)) :=
  ⟨fun scan _ hrows => scan.collect_upTo files metric h hrows,
    fun scan _ hrows => scan.collect_upTo files metric h hrows⟩

/-- The rows that the larger scans add stand before rows of the smaller ones; of the runs on the tree
library, the one that is broken has no sequential run next to it. -/
theorem collect_upTo_of_le_between :
    let agreement : AgreementScan := ⟨⟨"logs"⟩, 0, 2, "mst"⟩
    let store : StoreScan := ⟨⟨"logs"⟩, 0, "mst", false⟩
    let log : String → String → Location × Entry := fun name text =>
      (["w", "logs", name], .file (.bytes (Utf8.ofString text)))
    let files : FileTree := ⟨["w"], [(["w"], .directory), (["w", "logs"], .directory),
      log "tp_one_below_5_num_0_numc_2" "||\t9000\t1000\n",
      log "tp_one_below_5_num_1_numc_2" "||\t8000\t1000\n",
      log "tp_mst_one_num_1_numc_2" "||\t7000\t1000\n",
      log "tp_chain_below_4_num_0_numc_2" "||\t6000\t1000\n",
      log "tp_mst_chain_num_0_numc_2" "||\tnone\n",
      log "client_kvs_id_0_num_2" "||\t0\t0\t5000\t1000\t0\t0\t9000\t2000\n",
      log "client_kvs_mst_id_0_num_1" "||\t0\t0\t3000\t1000\t0\t0\t7000\t2000\n"]⟩
    (∃ rows, ((agreement.upTo 1).collect .throughput files).outcome = .ok rows ∧
      rows.map AgreementRow.key = [⟨0, .onePaxos, .sequential⟩, ⟨1, .onePaxos, .sequential⟩,
        ⟨1, .onePaxos, .smelt⟩, ⟨0, .chain, .hybrid⟩] ∧
      ∃ kept, ((agreement.upTo 0).collect .throughput files).outcome = .ok kept ∧
        kept.map AgreementRow.key = [⟨0, .onePaxos, .sequential⟩, ⟨0, .chain, .hybrid⟩]) ∧
    (∃ rows, ((store.upTo 2).collect .throughput files).outcome = .ok rows ∧
      rows.map StoreRow.key = [⟨.sequential, 2⟩, ⟨.smelt, 1⟩] ∧
      ∃ kept, ((store.upTo 1).collect .throughput files).outcome = .ok kept ∧
        kept.map StoreRow.key = [⟨.smelt, 1⟩]) := by
  intro agreement store log files
  have hagreement : ((agreement.upTo 1).collect .throughput files).outcome.map
      (·.map AgreementRow.key) = .ok [⟨0, .onePaxos, .sequential⟩, ⟨1, .onePaxos, .sequential⟩,
        ⟨1, .onePaxos, .smelt⟩, ⟨0, .chain, .hybrid⟩] := by
    decide +kernel
  have hstore : ((store.upTo 2).collect .throughput files).outcome.map (·.map StoreRow.key) =
      .ok [⟨.sequential, 2⟩, ⟨.smelt, 1⟩] := by
    decide +kernel
  constructor
  · obtain ⟨rows, hrows, hkeys⟩ := Log.map_eq_ok.mp hagreement
    refine ⟨rows, hrows, hkeys, _,
      (collect_upTo_of_le .throughput files (by decide : (0 : UInt32) ≤ 1)).1 agreement rows hrows, ?_⟩
    have hfilter : (rows.filter fun row => row.replicas ≤ 0).map AgreementRow.key =
        (rows.map AgreementRow.key).filter fun key => key.replicas ≤ 0 := by
      rw [List.filter_map]
      rfl
    rw [hfilter, hkeys]
    decide
  · obtain ⟨rows, hrows, hkeys⟩ := Log.map_eq_ok.mp hstore
    refine ⟨rows, hrows, hkeys, _,
      (collect_upTo_of_le .throughput files (by decide : (1 : UInt32) ≤ 2)).2 store rows hrows, ?_⟩
    have hfilter : (rows.filter fun row => row.clients ≤ 1).map StoreRow.key =
        (rows.map StoreRow.key).filter fun key => key.clients ≤ 1 := by
      rw [List.filter_map]
      rfl
    rw [hfilter, hkeys]
    decide

end BenchReport
