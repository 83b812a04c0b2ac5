import BenchReport.Proofs.AgreementRows

/-!
# The response times of agreement runs

Each row of the response times of agreement runs is made of the logs of all clients of one run
(`ClientRun`).  Sequential runs are looked for on both layers and runs on the tree library only
directly (`layersOf`), and the order of the report is that of the runs (`ClientRun.height`).

The rows do not tell the layer, so two of them may be about the same: the two sequential ones on the
two layers, of which the one in shared memory comes first.  That is why the rows are compared with
runs, one by one, and not with what they are about.
-/

namespace BenchReport

/-- A run whose response times are looked for. -/
structure ClientRun where
  variant : Variant
  protocol : Protocol
  layer : Layer
  replicas : UInt32
  deriving DecidableEq, Repr

namespace ClientRun

/-- What the row of the run is about. -/
def key (run : ClientRun) : AgreementKey := ⟨run.replicas, run.protocol, run.variant⟩

/-- Where the row of the run stands in a report: runs on the tree library last, then by protocol, by
layer and by replicas. -/
def height (run : ClientRun) : List ℕ :=
  [if run.variant = .smelt then 1 else 0, run.protocol.harnessId, run.layer.harnessId,
    run.replicas.toNat]

end ClientRun

/-- The layers on which a variant is looked for. -/
def layersOf : Variant → List Layer
  | .sequential => Layer.all
  | .smelt => [.direct]
  | .hybrid => []

lemma ascending_layersOf (variant : Variant) :
    (layersOf variant).Pairwise fun a b => a.harnessId < b.harnessId := by
  cases variant <;> decide

namespace AgreementScan

variable (scan : AgreementScan) (files : FileTree)

/-- Whether the response times of a run are looked for. -/
def Covers (run : ClientRun) : Prop :=
  run.replicas ≤ scan.maxReplicas ∧ run.layer ∈ layersOf run.variant

/-- The path of the log of a client. -/
def clientPath (run : ClientRun) (client : UInt32) : Path :=
  (LogName.agreementClient run.replicas client run.protocol run.layer scan.clients
    (scan.treeOf run.variant)).path scan.directory

/-- The figures of a run: its samples, by the numbers of the clients, reduced to their means. -/
def clientStats (run : ClientRun) : Option MeanSpread :=
  statsOf (samplesAt files ((countsBelow scan.clients).map (scan.clientPath run)))

/-- The row of a run. -/
def clientRunRow (run : ClientRun) : Option AgreementRow :=
  (scan.clientStats files run).map run.key.row

/-- The error of the first log of a run that is broken. -/
def clientFault (run : ClientRun) : Option SampleError :=
  (countsBelow scan.clients).findSome? fun client =>
    Log.faultAt files .agreement (scan.clientPath run client)

/-! ## All runs -/

/-- The runs that are looked for, in order. -/
def clientRuns : List ClientRun :=
  [Variant.sequential, .smelt].flatMap fun variant =>
    Protocol.all.flatMap fun protocol => (layersOf variant).flatMap fun layer =>
      (countsUpTo scan.maxReplicas).flatMap fun replicas => [⟨variant, protocol, layer, replicas⟩]

lemma scans_clientRows (variant : Variant) (protocol : Protocol) (layer : Layer) :
    Scans (scan.clientFault files) (scan.clientRunRow files)
      (scan.clientRows files protocol layer variant)
      ((countsUpTo scan.maxReplicas).flatMap fun replicas =>
        [⟨variant, protocol, layer, replicas⟩]) := by
  refine Scans.gather (fun replicas => Scans.single ?_) _
  rw [clientFault, ← Function.comp_def (Log.faultAt files .agreement), ← List.findSome?_map]
  exact outcome_rowFrom files _ ⟨replicas, protocol, variant⟩

lemma scans_responseTimes :
    Scans (scan.clientFault files) (scan.clientRunRow files) (scan.responseTimes files)
      scan.clientRuns := by
  have hsequential := Scans.gather (fun protocol => Scans.gather (fun layer =>
    scan.scans_clientRows files .sequential protocol layer) Layer.all) Protocol.all
  have hsmelt := Scans.gather (fun protocol =>
    scan.scans_clientRows files .smelt protocol .direct) Protocol.all
  simp only [clientRuns, layersOf, List.flatMap_cons, List.flatMap_nil, List.append_nil]
  exact hsequential.append hsmelt

lemma mem_clientRuns {run : ClientRun} : run ∈ scan.clientRuns ↔ scan.Covers run := by
  obtain ⟨variant, protocol, layer, replicas⟩ := run
  simp only [clientRuns, List.mem_flatMap, mem_countsUpTo, List.mem_singleton, Covers,
    ClientRun.mk.injEq]
  constructor
  · rintro ⟨_, -, _, -, _, hlayer, _, hreplicas, rfl, rfl, rfl, rfl⟩
    exact ⟨hreplicas, hlayer⟩
  · rintro ⟨hreplicas, hlayer⟩
    have hvariant : variant ∈ [Variant.sequential, .smelt] := by
      cases variant with
      | hybrid => cases hlayer
      | sequential => simp
      | smelt => simp
    exact ⟨variant, hvariant, protocol, protocol.mem_all, layer, hlayer, replicas, hreplicas, rfl,
      rfl, rfl, rfl⟩

/-- The runs are looked for in the order of the report. -/
lemma ascending_clientRuns :
    scan.clientRuns.Pairwise fun a b => a.height < b.height := by
  -- what the outermost loop contributes to the height
  let rank : Variant → ℕ := fun variant => if variant = .smelt then 1 else 0
  have hvariants : [Variant.sequential, .smelt].Pairwise fun a b => rank a < rank b := by decide
  refine ascending_flatMap ClientRun.height [] hvariants (fun variant => ?_) ?_
  · refine ascending_flatMap ClientRun.height [rank variant] ascending_protocols
      (fun protocol => ?_) ?_
    · refine ascending_flatMap ClientRun.height [rank variant, protocol.harnessId]
        (ascending_layersOf variant) (fun layer => ?_) ?_
      · refine ascending_flatMap ClientRun.height
          [rank variant, protocol.harnessId, layer.harnessId] (ascending_countsUpTo _)
          (fun replicas => List.pairwise_singleton _ _) ?_
        intro replicas run hrun
        obtain rfl := List.mem_singleton.mp hrun
        exact ⟨[], rfl⟩
      · intro layer run hrun
        obtain ⟨replicas, -, hrun⟩ := List.mem_flatMap.mp hrun
        obtain rfl := List.mem_singleton.mp hrun
        exact ⟨_, rfl⟩
    · intro protocol run hrun
      simp only [List.mem_flatMap, List.mem_singleton] at hrun
      obtain ⟨_, -, _, -, rfl⟩ := hrun
      exact ⟨_, rfl⟩
  · intro variant run hrun
    simp only [List.mem_flatMap, List.mem_singleton] at hrun
    obtain ⟨_, -, _, -, _, -, rfl⟩ := hrun
    exact ⟨_, rfl⟩

/-! ## The report -/

/-- What a report on response times has to be: there are runs to which its rows correspond one by
one. -/
structure IsResponseTimes (runs : List ClientRun) (rows : List AgreementRow) : Prop where
  /-- The runs are those of which a client has left a log with a summary row. -/
  covered : ∀ run, run ∈ runs ↔ scan.Covers run ∧
    ∃ client < scan.clients, Log.HasSummaryAt files (scan.clientPath run client)
  /-- The runs stand in the order of the report, each once. -/
  ascending : runs.Pairwise fun a b => a.height < b.height
  /-- Each row is about its run, and its figures are those of the samples of the run. -/
  stats : List.Forall₂ (fun run row => row.key = run.key ∧
    scan.clientStats files run = some row.stats) runs rows
  /-- The samples of a run are those of its logs with a summary row. -/
  sampled : ∀ run, scan.Covers run → ∀ client < scan.clients,
    ((Log.sampleAt files .agreement (scan.clientPath run client)).isSome = true ↔
      Log.HasSummaryAt files (scan.clientPath run client))
  /-- No row is hybrid. -/
  nonhybrid : ∀ row ∈ rows, row.variant ≠ .hybrid
  /-- The rows of the tree library stand behind all sequential ones. -/
  parted : rows.Pairwise fun a b => a.variant = .smelt → b.variant = .smelt
  /-- There is at most one row of the tree library about the same. -/
  smelt : ∀ replicas protocol,
    (rows.filter fun row => row.key = ⟨replicas, protocol, .smelt⟩).length ≤ 1
  /-- The sequential rows about the same are that of the run in shared memory and that of the direct
  run, in this order, as far as there are logs of them. -/
  sequential : ∀ replicas protocol, replicas ≤ scan.maxReplicas →
    (rows.filter fun row => row.key = ⟨replicas, protocol, .sequential⟩).map AgreementRow.stats =
      [.sharedMemory, .direct].filterMap fun layer =>
        scan.clientStats files ⟨.sequential, protocol, layer, replicas⟩

lemma clientRunRow_eq_some {run : ClientRun} {row : AgreementRow} :
    scan.clientRunRow files run = some row ↔
      row.key = run.key ∧ scan.clientStats files run = some row.stats := by
  rw [clientRunRow, Option.map_eq_some_iff]
  constructor
  · rintro ⟨stats, hstats, rfl⟩
    exact ⟨rfl, hstats⟩
  · rintro ⟨hkey, hstats⟩
    exact ⟨row.stats, hstats, by rw [← hkey]; rfl⟩

/-- Where no log is broken, a run has a row exactly if a log of it has a summary row. -/
lemma isSome_clientRunRow {run : ClientRun} (h : scan.clientFault files run = none) :
    (scan.clientRunRow files run).isSome = true ↔
      ∃ client < scan.clients, Log.HasSummaryAt files (scan.clientPath run client) := by
  rw [clientRunRow, Option.isSome_map, clientStats, isSome_statsOf]
  exact Log.samples_ne_nil_iff h

/-- The runs about a key, one for each layer on which its variant is looked for. -/
lemma filter_clientRuns (key : AgreementKey) (h : key.replicas ≤ scan.maxReplicas) :
    (scan.clientRuns.filter fun run => run.key = key) =
      (layersOf key.variant).map fun layer => ⟨key.variant, key.protocol, layer, key.replicas⟩ := by
  refine eq_of_ascending (scan.ascending_clientRuns.filter _) ?_ ?_
  · refine List.pairwise_map.mpr ((ascending_layersOf key.variant).imp ?_)
    intro a b hab
    simpa [ClientRun.height, List.cons_lt_cons_iff] using hab
  · rintro ⟨variant, protocol, layer, replicas⟩
    simp only [List.mem_filter, mem_clientRuns, Covers, decide_eq_true_eq, List.mem_map,
      ClientRun.mk.injEq]
    constructor
    · rintro ⟨⟨-, hlayer⟩, rfl⟩
      exact ⟨layer, hlayer, rfl, rfl, rfl, rfl⟩
    · rintro ⟨_, hlayer, rfl, rfl, rfl, rfl⟩
      exact ⟨⟨h, hlayer⟩, rfl⟩

/-- The figures of the rows about a key are those of the runs about it. -/
lemma filter_rows (key : AgreementKey) (h : key.replicas ≤ scan.maxReplicas) :
    ((scan.clientRuns.filterMap (scan.clientRunRow files)).filter fun row => row.key = key).map
        AgreementRow.stats =
      (layersOf key.variant).filterMap fun layer =>
        scan.clientStats files ⟨key.variant, key.protocol, layer, key.replicas⟩ := by
  have hstep : ∀ run, ((scan.clientRunRow files run).filter fun row => row.key = key).map
        AgreementRow.stats =
      if decide (run.key = key) = true then scan.clientStats files run else none := by
    intro run
    rw [clientRunRow]
    cases scan.clientStats files run with
    | none => simp
    | some stats => by_cases hkey : run.key = key <;> simp [hkey]
  rw [List.filter_filterMap, List.map_filterMap]
  simp only [hstep]
  rw [← List.filterMap_filter, filter_clientRuns scan key h, List.filterMap_map]
  rfl

/-- Behind a run on the tree library there are only such runs. -/
lemma height_parted {run other : ClientRun} (h : run.height < other.height)
    (hsmelt : run.variant = .smelt) : other.variant = .smelt := by
  by_contra hother
  simp [ClientRun.height, List.cons_lt_cons_iff, hsmelt, hother] at h

section Succeeds

variable {rows : List AgreementRow} (h : (scan.responseTimes files).outcome = .ok rows)

include h

/-- A row is about a run that was looked for. -/
lemma exists_run_of_mem {row : AgreementRow} (hrow : row ∈ rows) :
    ∃ run, scan.Covers run ∧ row.key = run.key := by
  obtain ⟨-, rfl⟩ := (scan.scans_responseTimes files).eq_ok_iff.mp h
  obtain ⟨run, hrun, hfound⟩ := List.mem_filterMap.mp hrow
  exact ⟨run, scan.mem_clientRuns.mp hrun, ((scan.clientRunRow_eq_some files).mp hfound).1⟩

lemma ne_hybrid_of_mem {row : AgreementRow} (hrow : row ∈ rows) : row.variant ≠ .hybrid := by
  obtain ⟨run, ⟨-, hlayer⟩, hkey⟩ := scan.exists_run_of_mem files h hrow
  have hvariant : row.variant = run.variant := congrArg AgreementKey.variant hkey
  rw [hvariant]
  intro hhybrid
  rw [hhybrid] at hlayer
  cases hlayer

/-- The rows of the tree library stand behind all others. -/
lemma parted_of_ok : rows.Pairwise fun a b => a.variant = .smelt → b.variant = .smelt := by
  obtain ⟨-, rfl⟩ := (scan.scans_responseTimes files).eq_ok_iff.mp h
  refine scan.ascending_clientRuns.filterMap _ ?_
  intro run other hlt row hrow row' hrow' hsmelt
  have hvariant : row.variant = run.variant :=
    congrArg AgreementKey.variant ((scan.clientRunRow_eq_some files).mp hrow).1
  have hvariant' : row'.variant = other.variant :=
    congrArg AgreementKey.variant ((scan.clientRunRow_eq_some files).mp hrow').1
  rw [hvariant']
  exact height_parted hlt (hvariant.symm.trans hsmelt)

lemma length_filter_smelt_le_one (replicas : UInt32) (protocol : Protocol) :
    (rows.filter fun row => row.key = ⟨replicas, protocol, .smelt⟩).length ≤ 1 := by
  by_cases hreplicas : replicas ≤ scan.maxReplicas
  · obtain ⟨-, rfl⟩ := (scan.scans_responseTimes files).eq_ok_iff.mp h
    have hfilter := scan.filter_rows files ⟨replicas, protocol, .smelt⟩ hreplicas
    have hlength := congrArg List.length hfilter
    rw [List.length_map] at hlength
    rw [hlength]
    exact List.length_filterMap_le _ _
  · have hnone : (rows.filter fun row => row.key = ⟨replicas, protocol, .smelt⟩) = [] := by
      refine List.filter_eq_nil_iff.mpr fun row hrow heq => hreplicas ?_
      obtain ⟨run, ⟨hle, -⟩, hkey⟩ := scan.exists_run_of_mem files h hrow
      have hcount : run.replicas = replicas :=
        congrArg AgreementKey.replicas (hkey.symm.trans (of_decide_eq_true heq))
      rwa [← hcount]
    rw [hnone]
    exact Nat.zero_le 1

/-- The rows are those of the runs of which a client has left a log with a summary row. -/
lemma isResponseTimes_of_ok :
    scan.IsResponseTimes files
      (scan.clientRuns.filter fun run => (scan.clientRunRow files run).isSome) rows where
  covered run := by
    obtain ⟨hfault, -⟩ := (scan.scans_responseTimes files).eq_ok_iff.mp h
    rw [List.mem_filter, mem_clientRuns]
    refine and_congr_right fun hrun => ?_
    exact scan.isSome_clientRunRow files (hfault run (scan.mem_clientRuns.mpr hrun))
  ascending := scan.ascending_clientRuns.filter _
  stats := by
    obtain ⟨-, rfl⟩ := (scan.scans_responseTimes files).eq_ok_iff.mp h
    simp only [← clientRunRow_eq_some]
    exact Scans.forall₂_filterMap _ _
  sampled run hrun client hclient := by
    obtain ⟨hfault, -⟩ := (scan.scans_responseTimes files).eq_ok_iff.mp h
    have hsound := List.findSome?_eq_none_iff.mp (hfault run (scan.mem_clientRuns.mpr hrun))
    exact Log.isSome_sampleAt (hsound client (mem_countsBelow.mpr hclient))
  nonhybrid _ := scan.ne_hybrid_of_mem files h
  parted := scan.parted_of_ok files h
  smelt := scan.length_filter_smelt_le_one files h
  sequential replicas protocol hreplicas := by
    obtain ⟨-, rfl⟩ := (scan.scans_responseTimes files).eq_ok_iff.mp h
    exact scan.filter_rows files ⟨replicas, protocol, .sequential⟩ hreplicas

end Succeeds

/-- **What is collected on response times.**  A collection that succeeds gives one row for each run of
which a client has left a log with a summary row, in order and with the figures of all these logs.  It
fails exactly if a log of a run that is looked for is broken, and then with the error of the first such
log. -/
theorem responseTimes_spec :
    (∀ rows, (scan.collect .responseTime files).outcome = .ok rows →
      ∃ runs, scan.IsResponseTimes files runs rows) ∧
    (∀ error, (scan.collect .responseTime files).outcome = .error error ↔
      FirstFault (fun log : ClientRun × UInt32 => scan.Covers log.1 ∧ log.2 < scan.clients)
        (fun log => log.1.height ++ [log.2.toNat])
        (fun log => Log.Broken files .agreement (scan.clientPath log.1 log.2)) error) := by
  have hcollect : (scan.collect .responseTime files).outcome =
    (scan.responseTimes files).outcome := rfl
  rw [hcollect]
  refine ⟨fun rows h => ⟨_, scan.isResponseTimes_of_ok files h⟩, fun error => ?_⟩
  rw [(scan.scans_responseTimes files).eq_error_iff_items scan.ascending_clientRuns
    (show ∀ run : ClientRun, run.height.length = 4 from fun _ => rfl)
    (fun _ => ascending_countsBelow _)]
  simp only [FirstFault, mem_clientRuns, mem_countsBelow, Log.faultAt_eq_some]

/-- There are two sequential rows about the same, the first one from one client only. -/
theorem responseTimes_spec_two_layers :
    let scan : AgreementScan := ⟨⟨"logs"⟩, 0, 2, "mst"⟩
    let log : String → String → Location × Entry := fun name text =>
      (["w", "logs", "rep_0", name], .file (.bytes (Utf8.ofString text)))
    let files : FileTree := ⟨["w"], [(["w"], .directory), (["w", "logs"], .directory),
      (["w", "logs", "rep_0"], .directory),
      log "client_id_0_algo_1_below_4_num_2" "||\t3000\t1000\n",
      log "client_id_1_algo_1_below_4_num_2" "Algo 1\n",
      log "client_id_1_algo_1_below_5_num_2" "Algo 1\n||\t5000\t1000\n",
      log "client_id_0_algo_3_below_5_mst_num_2" "||\t7000\t1000\n"]⟩
    ∃ rows, (scan.collect .responseTime files).outcome = .ok rows ∧
      rows.map AgreementRow.key = [⟨0, .twoPhaseCommit, .sequential⟩,
        ⟨0, .twoPhaseCommit, .sequential⟩, ⟨0, .chain, .smelt⟩] ∧
      ∃ runs, scan.IsResponseTimes files runs rows := by
  intro scan log files
  have hkeys : (scan.collect .responseTime files).outcome.map (·.map AgreementRow.key) =
      .ok [⟨0, .twoPhaseCommit, .sequential⟩, ⟨0, .twoPhaseCommit, .sequential⟩,
        ⟨0, .chain, .smelt⟩] := by
    decide +kernel
  obtain ⟨rows, hrows, hkeys⟩ := Log.map_eq_ok.mp hkeys
  exact ⟨rows, hrows, hkeys, (scan.responseTimes_spec files).1 rows hrows⟩

end AgreementScan

end BenchReport
