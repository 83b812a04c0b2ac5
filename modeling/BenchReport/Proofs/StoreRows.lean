import BenchReport.Collection.Store
import BenchReport.Proofs.ClientLogs

/-!
# Rows of store runs

A row of store runs is made of the logs of all clients of one run, which is told by its variant and
its number of clients (`StoreKey`).  The logs are reduced to two pairs of figures, for writes and for
reads, since a metric has four columns (`StoreScan.exists_pairs`), so every run of which there are
figures has a row.
-/

namespace BenchReport

/-- What a row is about: a run of the store. -/
structure StoreKey where
  variant : Variant
  clients : UInt32
  deriving DecidableEq, Repr

/-- Where a row stands in a report: sequential runs first, then by the number of clients. -/
def StoreKey.height (key : StoreKey) : List ℕ :=
  [if key.variant = .smelt then 1 else 0, key.clients.toNat]

/-- What the row is about. -/
def StoreRow.key (row : StoreRow) : StoreKey := ⟨row.variant, row.clients⟩

namespace StoreScan

variable (scan : StoreScan) (metric : Metric) (files : FileTree)

/-- Whether a run is looked for. -/
def Covers (key : StoreKey) : Prop := key.variant ∈ variants ∧ key.clients ≤ scan.maxClients

/-- The path of the log of a client. -/
def clientPath (key : StoreKey) (client : UInt32) : Path :=
  (LogName.storeClient client key.clients (scan.treeOf key.variant)).path scan.directory

/-- The figures of a run: its samples, by the numbers of the clients, reduced as the metric asks. -/
def figuresOf (key : StoreKey) : Option Aggregate :=
  Aggregate.withTotals (scan.clientsOf metric).totals
    (((countsBelow key.clients).map (scan.clientPath key)).filterMap
      (Log.sampleAt files (.store metric)))

/-- The row of a run. -/
def runRow (key : StoreKey) : Option StoreRow :=
  (scan.figuresOf metric files key).bind (rowOf key.clients key.variant)

/-- The error of the first log of a run that is broken. -/
def runFault (key : StoreKey) : Option SampleError :=
  (countsBelow key.clients).findSome? fun client =>
    Log.faultAt files (.store metric) (scan.clientPath key client)

/-! ## All runs -/

/-- The runs that are looked for, in order. -/
def runs : List StoreKey :=
  variants.flatMap fun variant =>
    (countsUpTo scan.maxClients).flatMap fun clients => [⟨variant, clients⟩]

lemma scans_collect :
    Scans (scan.runFault metric files) (scan.runRow metric files) (scan.collect metric files)
      scan.runs := by
  refine Scans.gather (fun variant => Scans.gather (fun clients => Scans.single ?_) _) _
  rw [runFault, ← Function.comp_def (Log.faultAt files (.store metric)), ← List.findSome?_map]
  exact Clients.outcome_row _ _ _ _

lemma mem_runs {key : StoreKey} : key ∈ scan.runs ↔ scan.Covers key := by
  obtain ⟨variant, clients⟩ := key
  simp [runs, Covers, mem_countsUpTo]

/-- The runs are looked for in the order of the report. -/
lemma ascending_runs : scan.runs.Pairwise fun a b => a.height < b.height := by
  let rank : Variant → ℕ := fun variant => if variant = .smelt then 1 else 0
  have hvariants : variants.Pairwise fun a b => rank a < rank b := by decide
  refine ascending_flatMap StoreKey.height [] hvariants (fun variant => ?_) ?_
  · refine ascending_flatMap StoreKey.height [rank variant] (ascending_countsUpTo _)
      (fun clients => List.pairwise_singleton _ _) ?_
    intro clients key hkey
    obtain rfl := List.mem_singleton.mp hkey
    exact ⟨[], rfl⟩
  · intro variant key hkey
    obtain ⟨clients, -, hkey⟩ := List.mem_flatMap.mp hkey
    obtain rfl := List.mem_singleton.mp hkey
    exact ⟨_, rfl⟩

/-! ## Two pairs of figures -/

/-- The figures of a run are two pairs. -/
lemma exists_pairs {key : StoreKey} {aggregate : Aggregate}
    (h : scan.figuresOf metric files key = some aggregate) :
    ∃ write read, aggregate.pairs = [write, read] := by
  have hlength : aggregate.pairs.length = (Columns.store metric).indices.length / 2 := by
    refine Aggregate.length_pairs_of_reduce (fun sample hsample => ?_) h
    obtain ⟨path, -, hpath⟩ := List.mem_filterMap.mp hsample
    exact Log.length_of_sampleAt hpath
  have htwo : (Columns.store metric).indices.length / 2 = 2 := by cases metric <;> rfl
  exact List.length_eq_two.mp (hlength.trans htwo)

lemma runRow_eq_some {key : StoreKey} {row : StoreRow} :
    scan.runRow metric files key = some row ↔ row.key = key ∧
      ∃ aggregate, scan.figuresOf metric files key = some aggregate ∧
        aggregate.pairs = [row.write, row.read] := by
  rw [runRow, Option.bind_eq_some_iff]
  constructor
  · rintro ⟨aggregate, haggregate, hrow⟩
    obtain ⟨write, read, hpairs⟩ := scan.exists_pairs metric files haggregate
    rw [rowOf, hpairs] at hrow
    obtain rfl := Option.some.inj hrow
    exact ⟨rfl, aggregate, haggregate, hpairs⟩
  · rintro ⟨rfl, aggregate, haggregate, hpairs⟩
    refine ⟨aggregate, haggregate, ?_⟩
    rw [rowOf, hpairs]
    rfl

lemma key_runRow (key : StoreKey) (row : StoreRow) (h : scan.runRow metric files key = some row) :
    row.key = key :=
  ((scan.runRow_eq_some metric files).mp h).1

/-- Where no log is broken, a run has a row exactly if a log of it has a summary row. -/
lemma isSome_runRow {key : StoreKey} (h : scan.runFault metric files key = none) :
    (scan.runRow metric files key).isSome = true ↔
      ∃ client < key.clients, Log.HasSummaryAt files (scan.clientPath key client) := by
  rw [← Log.samples_ne_nil_iff h, Option.isSome_iff_exists]
  constructor
  · rintro ⟨row, hrow⟩ hnil
    obtain ⟨-, aggregate, haggregate, -⟩ := (scan.runRow_eq_some metric files).mp hrow
    rw [figuresOf, hnil] at haggregate
    cases haggregate
  · intro hsamples
    have hsome : scan.figuresOf metric files key ≠ none :=
      mt Aggregate.reduce_eq_none_iff.mp hsamples
    obtain ⟨aggregate, haggregate⟩ := Option.ne_none_iff_exists'.mp hsome
    obtain ⟨write, read, hpairs⟩ := scan.exists_pairs metric files haggregate
    exact ⟨⟨key.clients, key.variant, write, read⟩,
      (scan.runRow_eq_some metric files).mpr ⟨rfl, aggregate, haggregate, hpairs⟩⟩

/-! ## The report -/

/-- Clients that are numbered below a count are at least one. -/
lemma one_le_of_lt {client clients : UInt32} (h : client < clients) : 1 ≤ clients := by
  rw [UInt32.lt_iff_toNat_lt] at h
  rw [UInt32.le_iff_toNat_le]
  exact Nat.one_le_of_lt h

/-- What a report on store runs has to be. -/
structure IsStoreReport (rows : List StoreRow) : Prop where
  /-- There is a row exactly if a client of the run has left a log with a summary row. -/
  present : ∀ variant clients, (∃ row ∈ rows, row.key = ⟨variant, clients⟩) ↔
    variant ≠ .hybrid ∧ 1 ≤ clients ∧ clients ≤ scan.maxClients ∧ ∃ client < clients,
      Log.HasSummaryAt files
        ((LogName.storeClient client clients (scan.treeOf variant)).path scan.directory)
  /-- No two rows are about the same. -/
  distinct : (rows.map StoreRow.key).Nodup
  /-- The rows stand in order. -/
  ascending : rows.Pairwise fun a b => a.key.height < b.key.height
  /-- The figures of a row are the two pairs of the reduced samples of its run. -/
  stats : ∀ row ∈ rows, ∃ aggregate, scan.figuresOf metric files row.key = some aggregate ∧
    aggregate.pairs = [row.write, row.read]
  /-- The samples of a run are those of its logs with a summary row. -/
  sampled : ∀ key, scan.Covers key → ∀ client < key.clients,
    ((Log.sampleAt files (.store metric) (scan.clientPath key client)).isSome = true ↔
      Log.HasSummaryAt files (scan.clientPath key client))
  /-- Nothing that samples are reduced to is left out. -/
  complete : ∀ key aggregate, scan.Covers key → scan.figuresOf metric files key = some aggregate →
    ∃ row ∈ rows, row.key = key ∧ aggregate.pairs = [row.write, row.read]

lemma covers_iff {variant : Variant} {clients : UInt32} :
    scan.Covers ⟨variant, clients⟩ ↔ variant ≠ .hybrid ∧ clients ≤ scan.maxClients := by
  cases variant <;> simp [Covers, variants]

section Succeeds

variable {rows : List StoreRow} (h : (scan.collect metric files).outcome = .ok rows)

include h

lemma mem_rows {row : StoreRow} :
    row ∈ rows ↔ scan.Covers row.key ∧ scan.runRow metric files row.key = some row := by
  obtain ⟨-, rfl⟩ := (scan.scans_collect metric files).eq_ok_iff.mp h
  rw [Scans.mem_filterMap (scan.key_runRow metric files), mem_runs]

/-- The rows are about the runs that were looked for and have a log with a summary row. -/
lemma exists_row_iff (key : StoreKey) :
    (∃ row ∈ rows, row.key = key) ↔ scan.Covers key ∧
      ∃ client < key.clients, Log.HasSummaryAt files (scan.clientPath key client) := by
  obtain ⟨hfault, rfl⟩ := (scan.scans_collect metric files).eq_ok_iff.mp h
  rw [Scans.exists_mem_filterMap (scan.key_runRow metric files), mem_runs]
  refine and_congr_right fun hcovers => ?_
  exact scan.isSome_runRow metric files (hfault key (scan.mem_runs.mpr hcovers))

lemma ascending_rows : rows.Pairwise fun a b => a.key.height < b.key.height := by
  obtain ⟨-, rfl⟩ := (scan.scans_collect metric files).eq_ok_iff.mp h
  exact Scans.ascending_filterMap (scan.key_runRow metric files) scan.ascending_runs

lemma isStoreReport_of_ok : scan.IsStoreReport metric files rows where
  present variant clients := by
    rw [scan.exists_row_iff metric files h, covers_iff]
    constructor
    · rintro ⟨⟨hvariant, hmax⟩, client, hclient, hsummary⟩
      exact ⟨hvariant, one_le_of_lt hclient, hmax, client, hclient, hsummary⟩
    · rintro ⟨hvariant, -, hmax, hsummary⟩
      exact ⟨⟨hvariant, hmax⟩, hsummary⟩
  distinct := nodup_map_of_ascending (scan.ascending_rows metric files h)
  ascending := scan.ascending_rows metric files h
  stats _ hrow := ((scan.runRow_eq_some metric files).mp
    ((scan.mem_rows metric files h).mp hrow).2).2
  sampled key hkey client hclient := by
    obtain ⟨hfault, -⟩ := (scan.scans_collect metric files).eq_ok_iff.mp h
    have hsound := List.findSome?_eq_none_iff.mp (hfault key (scan.mem_runs.mpr hkey))
    exact Log.isSome_sampleAt (hsound client (mem_countsBelow.mpr hclient))
  complete key aggregate hkey haggregate := by
    obtain ⟨write, read, hpairs⟩ := scan.exists_pairs metric files haggregate
    let row : StoreRow := ⟨key.clients, key.variant, write, read⟩
    have hfound : scan.runRow metric files row.key = some row :=
      (scan.runRow_eq_some metric files).mpr ⟨rfl, aggregate, haggregate, hpairs⟩
    exact ⟨row, (scan.mem_rows metric files h).mpr ⟨hkey, hfound⟩, rfl, hpairs⟩

end Succeeds

/-- **What is collected of the store.**  A collection that succeeds gives one row for each variant and
number of clients of which a client has left a log with a summary row, in order and with both pairs of
figures of all these logs.  It fails exactly if a log of a run that is looked for is broken, and then
with the error of the first such log. -/
theorem collect_spec :
    (∀ rows, (scan.collect metric files).outcome = .ok rows →
      scan.IsStoreReport metric files rows) ∧
    (∀ error, (scan.collect metric files).outcome = .error error ↔
      FirstFault (fun log : StoreKey × UInt32 => scan.Covers log.1 ∧ log.2 < log.1.clients)
        (fun log => log.1.height ++ [log.2.toNat])
        (fun log => Log.Broken files (.store metric) (scan.clientPath log.1 log.2)) error) := by
  refine ⟨fun rows h => scan.isStoreReport_of_ok metric files h, fun error => ?_⟩
  rw [(scan.scans_collect metric files).eq_error_iff_items scan.ascending_runs
    (show ∀ key : StoreKey, key.height.length = 2 from fun _ => rfl)
    (fun _ => ascending_countsBelow _)]
  simp only [FirstFault, mem_runs, mem_countsBelow, Log.faultAt_eq_some]

/-- A run of which only the second client has left figures, one of which none has, and a malformed log
of more clients than are looked for. -/
theorem collect_spec_later_client :
    let scan : StoreScan := ⟨⟨"logs"⟩, 2, "mst", true⟩
    let log : String → String → Location × Entry := fun name text =>
      (["w", "logs", name], .file (.bytes (Utf8.ofString text)))
    let files : FileTree := ⟨["w"], [(["w"], .directory), (["w", "logs"], .directory),
      log "client_kvs_id_0_num_1" "||\t1000\t1\t2000\t1\t3000\t1\t4000\t1\n",
      log "client_kvs_id_0_num_2" "no figures\n",
      log "client_kvs_id_0_num_3" "||\tnone\n",
      log "client_kvs_mst_id_1_num_2" "||\t1000\t1\t2000\t1\t3000\t1\t4000\t1"]⟩
    ∃ rows, (scan.collect .throughput files).outcome = .ok rows ∧
      rows.map StoreRow.key = [⟨.sequential, 1⟩, ⟨.smelt, 2⟩] ∧
      scan.IsStoreReport .throughput files rows := by
  intro scan log files
  have hkeys : (scan.collect .throughput files).outcome.map (·.map StoreRow.key) =
      .ok [⟨.sequential, 1⟩, ⟨.smelt, 2⟩] := by
    decide +kernel
  obtain ⟨rows, hrows, hkeys⟩ := Log.map_eq_ok.mp hkeys
  exact ⟨rows, hrows, hkeys, (scan.collect_spec .throughput files).1 rows hrows⟩

end StoreScan

end BenchReport
