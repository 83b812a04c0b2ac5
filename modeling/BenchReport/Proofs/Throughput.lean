import BenchReport.Proofs.AgreementRows

/-!
# The throughput of agreement runs

Each row of the throughput of agreement runs is taken from one log (`AgreementScan.throughputLog`).
The log of a hybrid or of a sequential run is looked for up to the maximum of replicas, and that of a
run on the tree library only next to a sequential log that gives a sample (`AgreementScan.Consults`).
What is read of a log that is looked for is a sample, nothing, or an error.

`AgreementScan.scans_throughput` brings the nested loops into one list of rows to look for
(`AgreementScan.throughputKeys`).  The list depends on the file tree, because of the runs on the tree
library.  It ascends in `throughputHeight`, which tells where a row stands in the report.
-/

namespace BenchReport

/-- Where a row stands in a report on throughput: by protocol, hybrid runs first, by replicas, and the
run on the tree library behind the sequential one. -/
def throughputHeight (key : AgreementKey) : List ℕ :=
  [key.protocol.harnessId, if key.variant = .hybrid then 0 else 1, key.replicas.toNat,
    if key.variant = .smelt then 1 else 0]

namespace AgreementScan

variable (scan : AgreementScan) (files : FileTree)

/-- The log that has the throughput of a run. -/
def throughputLog (key : AgreementKey) : LogName :=
  match key.variant with
  | .hybrid => .replica key.replicas key.protocol .sharedMemory scan.clients
  | .sequential => .replica key.replicas key.protocol .direct scan.clients
  | .smelt => .treeReplica key.replicas key.protocol scan.tree scan.clients

/-- The path of the log that has the throughput of a run. -/
def throughputPath (key : AgreementKey) : Path := (scan.throughputLog key).path scan.directory

/-- Whether the throughput of a run is looked for. -/
def Consults (key : AgreementKey) : Prop :=
  key.replicas ≤ scan.maxReplicas ∧
    (key.variant = .smelt → (Log.sampleAt files .agreement
      (scan.throughputPath ⟨key.replicas, key.protocol, .sequential⟩)).isSome = true)

/-! ## One log -/

/-- The error of the log of a run.  What is no file is passed over. -/
def throughputFault (key : AgreementKey) : Option SampleError :=
  if files.isFile (scan.throughputPath key) then
    Log.faultAt files .agreement (scan.throughputPath key)
  else none

/-- The row of a run. -/
def throughputRow (key : AgreementKey) : Option AgreementRow :=
  (statsOf (samplesAt files [scan.throughputPath key])).map key.row

lemma throughputFault_eq_some {key : AgreementKey} {error : SampleError} :
    scan.throughputFault files key = some error ↔
      Log.Malformed files .agreement (scan.throughputPath key) error := by
  rw [throughputFault]
  constructor
  · intro h
    split_ifs at h with hfile
    rcases Log.faultAt_eq_some.mp h with ⟨hlookup, -⟩ | hlookup | hmalformed
    · simp [FileTree.isFile, hlookup] at hfile
    · simp [FileTree.isFile, hlookup] at hfile
    · exact hmalformed
  · rintro ⟨content, hlookup, hsample⟩
    rw [if_pos (by simp [FileTree.isFile, hlookup])]
    exact Log.faultAt_eq_some.mpr (.malformed ⟨content, hlookup, hsample⟩)

lemma isSome_throughputRow (key : AgreementKey) :
    (scan.throughputRow files key).isSome = true ↔
      (Log.sampleAt files .agreement (scan.throughputPath key)).isSome = true := by
  rw [throughputRow, Option.isSome_map, isSome_statsOf, samplesAt, ne_eq,
    List.filterMap_eq_nil_iff, Option.isSome_iff_ne_none]
  simp

lemma throughputRow_of_not_isFile {key : AgreementKey}
    (h : files.isFile (scan.throughputPath key) = false) : scan.throughputRow files key = none := by
  rw [← Option.not_isSome_iff_eq_none, isSome_throughputRow, Option.isSome_iff_exists]
  rintro ⟨sample, hsample⟩
  rw [Log.isFile_of_sampleAt hsample] at h
  cases h

lemma outcome_replicaRow (key : AgreementKey) :
    (scan.replicaRow files (scan.throughputLog key) key.replicas key.protocol key.variant).outcome =
      unlessFault (scan.throughputFault files key) (scan.throughputRow files key).toList := by
  have hpath : (scan.throughputLog key).path scan.directory = scan.throughputPath key := rfl
  rw [replicaRow, LogName.locate, throughputFault, hpath]
  split_ifs with hfile
  · have hone : [scan.throughputPath key].findSome? (Log.faultAt files .agreement) =
        Log.faultAt files .agreement (scan.throughputPath key) := List.findSome?_singleton
    rw [outcome_rowFrom, hone, throughputRow]
  · rw [throughputRow_of_not_isFile scan files (by simpa using hfile)]
    rfl

/-! ## All logs -/

/-- The rows that are looked for with some replicas of a protocol on a layer. -/
def layerKeys (protocol : Protocol) (layer : Layer) (replicas : UInt32) : List AgreementKey :=
  let own : AgreementKey := ⟨replicas, protocol, replicaVariant layer⟩
  if own.variant = .sequential ∧ (scan.throughputRow files own).isSome = true then
    [own, ⟨replicas, protocol, .smelt⟩]
  else [own]

/-- The rows that are looked for, in order. -/
def throughputKeys : List AgreementKey :=
  Protocol.all.flatMap fun protocol => Layer.all.flatMap fun layer =>
    (countsUpTo scan.maxReplicas).flatMap (scan.layerKeys files protocol layer)

/-- The rows of a configuration: its own one, and behind a sequential one that of the tree library. -/
lemma scans_replicaRows (protocol : Protocol) (layer : Layer) (replicas : UInt32) :
    Scans (scan.throughputFault files) (scan.throughputRow files)
      (scan.replicaRows files protocol layer replicas)
      (scan.layerKeys files protocol layer replicas) := by
  have hlog : scan.throughputLog ⟨replicas, protocol, replicaVariant layer⟩ =
      .replica replicas protocol layer scan.clients := by
    cases layer <;> rfl
  have hown := scan.outcome_replicaRow files ⟨replicas, protocol, replicaVariant layer⟩
  have htree : Scans (scan.throughputFault files) (scan.throughputRow files)
      (scan.replicaRow files (.treeReplica replicas protocol scan.tree scan.clients) replicas protocol
        .smelt) [⟨replicas, protocol, .smelt⟩] :=
    Scans.single (scan.outcome_replicaRow files ⟨replicas, protocol, .smelt⟩)
  rw [hlog] at hown
  unfold Scans at htree ⊢
  rw [layerKeys, replicaRows, Noted.outcome_bind, hown]
  cases hfault : scan.throughputFault files ⟨replicas, protocol, replicaVariant layer⟩ with
  | some error => split_ifs <;> simp [hfault, unlessFault, Except.bind]
  | none =>
    cases hrow : scan.throughputRow files ⟨replicas, protocol, replicaVariant layer⟩ with
    | none => simp [hfault, hrow, unlessFault, Except.bind]
    | some row =>
      by_cases hvariant : replicaVariant layer = .sequential
      · simp only [hvariant] at hfault hrow
        simp only [hvariant, hfault, hrow, unlessFault, Except.bind, Option.toList_some,
          List.isEmpty_cons, ne_eq, not_true_eq_false, decide_false, Bool.or_false,
          Bool.false_eq_true, if_false, Noted.outcome_bind, htree, Option.isSome_some, and_self,
          if_true, List.findSome?_cons, List.filterMap_cons]
        cases scan.throughputFault files ⟨replicas, protocol, .smelt⟩ <;> rfl
      · simp [hvariant, hfault, hrow, unlessFault, Except.bind]

lemma scans_throughput :
    Scans (scan.throughputFault files) (scan.throughputRow files) (scan.throughput files)
      (scan.throughputKeys files) :=
  Scans.gather (fun protocol => Scans.gather (fun layer =>
    Scans.gather (scan.scans_replicaRows files protocol layer) _) _) _

lemma mem_layerKeys {protocol : Protocol} {layer : Layer} {replicas : UInt32} {key : AgreementKey} :
    key ∈ scan.layerKeys files protocol layer replicas ↔
      key = ⟨replicas, protocol, replicaVariant layer⟩ ∨
        key = ⟨replicas, protocol, .smelt⟩ ∧ layer = .direct ∧
          (scan.throughputRow files ⟨replicas, protocol, .sequential⟩).isSome = true := by
  rw [layerKeys]
  cases layer with
  | sharedMemory => simp [replicaVariant]
  | direct =>
    dsimp only [replicaVariant]
    split_ifs with h
    · simp [h.2]
    · have hnone : ¬ (scan.throughputRow files ⟨replicas, protocol, .sequential⟩).isSome = true :=
        fun hsome => h ⟨rfl, hsome⟩
      simp [hnone]

/-- The rows that are looked for. -/
lemma mem_throughputKeys {key : AgreementKey} :
    key ∈ scan.throughputKeys files ↔ scan.Consults files key := by
  obtain ⟨replicas, protocol, variant⟩ := key
  simp only [throughputKeys, List.mem_flatMap, mem_countsUpTo, mem_layerKeys, Consults,
    isSome_throughputRow, AgreementKey.mk.injEq]
  constructor
  · rintro ⟨p, -, layer, -, r, hr, ⟨rfl, rfl, rfl⟩ | ⟨⟨rfl, rfl, rfl⟩, -, hsample⟩⟩
    · exact ⟨hr, fun hsmelt => by cases layer <;> cases hsmelt⟩
    · exact ⟨hr, fun _ => hsample⟩
  · rintro ⟨hr, hsmelt⟩
    obtain ⟨layer, hlayer⟩ : ∃ layer, variant = replicaVariant layer ∨
        variant = .smelt ∧ layer = .direct := by
      cases variant with
      | hybrid => exact ⟨.sharedMemory, .inl rfl⟩
      | sequential => exact ⟨.direct, .inl rfl⟩
      | smelt => exact ⟨.direct, .inr ⟨rfl, rfl⟩⟩
    refine ⟨protocol, protocol.mem_all, layer, layer.mem_all, replicas, hr, ?_⟩
    rcases hlayer with rfl | ⟨rfl, rfl⟩
    · exact .inl ⟨rfl, rfl, rfl⟩
    · exact .inr ⟨⟨rfl, rfl, rfl⟩, rfl, hsmelt rfl⟩

/-- The rows are looked for in the order of the report. -/
lemma ascending_throughputKeys :
    (scan.throughputKeys files).Pairwise fun a b => throughputHeight a < throughputHeight b := by
  -- what the loop over layers contributes to the height
  let rank : Layer → ℕ := fun layer => if replicaVariant layer = .hybrid then 0 else 1
  have hheight : ∀ protocol layer replicas, ∀ key ∈ scan.layerKeys files protocol layer replicas,
      ∃ back, throughputHeight key =
        [protocol.harnessId, rank layer] ++ replicas.toNat :: back := by
    intro protocol layer replicas key hkey
    rcases (scan.mem_layerKeys files).mp hkey with rfl | ⟨rfl, rfl, -⟩
    · exact ⟨_, rfl⟩
    · exact ⟨_, rfl⟩
  have hlayers : Layer.all.Pairwise fun a b => rank a < rank b := by decide
  refine ascending_flatMap throughputHeight [] ascending_protocols ?_ ?_
  · intro protocol
    refine ascending_flatMap throughputHeight [protocol.harnessId] hlayers ?_ ?_
    · intro layer
      refine ascending_flatMap throughputHeight _ (ascending_countsUpTo _) ?_
        (hheight protocol layer)
      intro replicas
      rw [layerKeys]
      split_ifs with h
      · have hvariant : replicaVariant layer = .sequential := h.1
        simp [hvariant, throughputHeight, List.cons_lt_cons_iff]
      · exact List.pairwise_singleton _ _
    · intro layer key hkey
      obtain ⟨replicas, -, hkey⟩ := List.mem_flatMap.mp hkey
      obtain ⟨back, hback⟩ := hheight protocol layer replicas key hkey
      exact ⟨_, hback⟩
  · intro protocol key hkey
    obtain ⟨layer, -, hkey⟩ := List.mem_flatMap.mp hkey
    obtain ⟨replicas, -, hkey⟩ := List.mem_flatMap.mp hkey
    obtain ⟨back, hback⟩ := hheight protocol layer replicas key hkey
    exact ⟨_, hback⟩

/-! ## The report -/

/-- What a report on throughput has to be. -/
structure IsThroughput (rows : List AgreementRow) : Prop where
  /-- There is a hybrid row exactly if there is a log of the run on shared memory. -/
  hybrid : ∀ replicas protocol, (∃ row ∈ rows, row.key = ⟨replicas, protocol, .hybrid⟩) ↔
    replicas ≤ scan.maxReplicas ∧ Log.HasSummaryAt files
      ((LogName.replica replicas protocol .sharedMemory scan.clients).path scan.directory)
  /-- There is a sequential row exactly if there is a log of the direct run. -/
  sequential : ∀ replicas protocol, (∃ row ∈ rows, row.key = ⟨replicas, protocol, .sequential⟩) ↔
    replicas ≤ scan.maxReplicas ∧ Log.HasSummaryAt files
      ((LogName.replica replicas protocol .direct scan.clients).path scan.directory)
  /-- There is a row of the tree library exactly if there is a sequential row and a log of the run on
  the tree library. -/
  smelt : ∀ replicas protocol, (∃ row ∈ rows, row.key = ⟨replicas, protocol, .smelt⟩) ↔
    (∃ row ∈ rows, row.key = ⟨replicas, protocol, .sequential⟩) ∧ Log.HasSummaryAt files
      ((LogName.treeReplica replicas protocol scan.tree scan.clients).path scan.directory)
  /-- The row of the tree library stands right behind the sequential row. -/
  follows : ∀ row ∈ rows, row.variant = .smelt → ∃ before sequential after,
    rows = before ++ sequential :: row :: after ∧
      sequential.key = ⟨row.replicas, row.protocol, .sequential⟩
  /-- No two rows are about the same. -/
  distinct : (rows.map AgreementRow.key).Nodup
  /-- The rows stand in order. -/
  ascending : rows.Pairwise fun a b => throughputHeight a.key < throughputHeight b.key
  /-- The figures of a row are those of the sample of its log. -/
  stats : ∀ row ∈ rows, ∃ sample,
    Log.sampleAt files .agreement (scan.throughputPath row.key) = some sample ∧
      statsOf [sample] = some row.stats

/-! ## Rows of a collection that succeeds -/

lemma throughputRow_eq_some {key : AgreementKey} {row : AgreementRow} :
    scan.throughputRow files key = some row ↔ row.key = key ∧ ∃ sample,
      Log.sampleAt files .agreement (scan.throughputPath key) = some sample ∧
        statsOf [sample] = some row.stats := by
  rw [throughputRow, samplesAt]
  cases hsample : Log.sampleAt files .agreement (scan.throughputPath key) with
  | none => simp [hsample, statsOf, Aggregate.meanOf, Aggregate.reduce]
  | some sample =>
    rw [List.filterMap_cons_some hsample, List.filterMap_nil, Option.map_eq_some_iff]
    constructor
    · rintro ⟨stats, hstats, rfl⟩
      exact ⟨rfl, sample, rfl, hstats⟩
    · rintro ⟨rfl, _, hsample', hstats⟩
      obtain rfl := Option.some.inj hsample'
      exact ⟨row.stats, hstats, rfl⟩

lemma key_throughputRow (key : AgreementKey) (row : AgreementRow)
    (h : scan.throughputRow files key = some row) : row.key = key :=
  ((scan.throughputRow_eq_some files).mp h).1

/-- Where no log is malformed, a run has a row exactly if its log has a summary row. -/
lemma isSome_throughputRow_iff {key : AgreementKey} (h : scan.throughputFault files key = none) :
    (scan.throughputRow files key).isSome = true ↔
      Log.HasSummaryAt files (scan.throughputPath key) := by
  rw [throughputFault] at h
  split_ifs at h with hfile
  · rw [isSome_throughputRow, Log.isSome_sampleAt h]
  · rw [throughputRow_of_not_isFile scan files (by simpa using hfile)]
    simp only [Option.isSome_none, Bool.false_eq_true, false_iff]
    rintro ⟨content, hlookup, -⟩
    exact hfile (by simp [FileTree.isFile, hlookup])

/-- There is no place between a sequential row and that of the tree library. -/
lemma throughputHeight_between {replicas : UInt32} {protocol : Protocol} {key : AgreementKey}
    (hlow : throughputHeight ⟨replicas, protocol, .sequential⟩ < throughputHeight key) :
    ¬ throughputHeight key < throughputHeight ⟨replicas, protocol, .smelt⟩ := by
  intro hhigh
  have hlayer : (if key.variant = .hybrid then 0 else 1) ≤ 1 := by split_ifs <;> omega
  simp only [throughputHeight, List.cons_lt_cons_iff, reduceCtorEq, if_true, if_false,
    List.not_lt_nil, and_false, or_false] at hlow hhigh
  omega

section Succeeds

variable {rows : List AgreementRow} (h : (scan.throughput files).outcome = .ok rows)

include h

lemma ascending_throughput :
    rows.Pairwise fun a b => throughputHeight a.key < throughputHeight b.key := by
  obtain ⟨-, rfl⟩ := (scan.scans_throughput files).eq_ok_iff.mp h
  exact Scans.ascending_filterMap (scan.key_throughputRow files)
    (scan.ascending_throughputKeys files)

/-- The rows are about the runs that were looked for and have a log with a summary row. -/
lemma exists_row_iff (key : AgreementKey) :
    (∃ row ∈ rows, row.key = key) ↔
      scan.Consults files key ∧ Log.HasSummaryAt files (scan.throughputPath key) := by
  obtain ⟨hfault, rfl⟩ := (scan.scans_throughput files).eq_ok_iff.mp h
  rw [Scans.exists_mem_filterMap (scan.key_throughputRow files), mem_throughputKeys]
  refine and_congr_right fun hconsults => ?_
  exact scan.isSome_throughputRow_iff files (hfault _ ((scan.mem_throughputKeys files).mpr hconsults))

/-- Runs that are not on the tree library are looked for in any case. -/
lemma exists_row_iff_of_ne {key : AgreementKey} (hkey : key.variant ≠ .smelt) :
    (∃ row ∈ rows, row.key = key) ↔
      key.replicas ≤ scan.maxReplicas ∧ Log.HasSummaryAt files (scan.throughputPath key) := by
  rw [scan.exists_row_iff files h]
  simp [Consults, hkey]

/-- Runs on the tree library are looked for next to a sequential row. -/
lemma exists_smelt_iff (replicas : UInt32) (protocol : Protocol) :
    (∃ row ∈ rows, row.key = ⟨replicas, protocol, .smelt⟩) ↔
      (∃ row ∈ rows, row.key = ⟨replicas, protocol, .sequential⟩) ∧ Log.HasSummaryAt files
        (scan.throughputPath ⟨replicas, protocol, .smelt⟩) := by
  obtain ⟨hfault, -⟩ := (scan.scans_throughput files).eq_ok_iff.mp h
  rw [scan.exists_row_iff files h, scan.exists_row_iff_of_ne files h (by simp), Consults]
  refine and_congr_left fun _ => and_congr_right fun hreplicas => ?_
  -- the sequential log was looked at and is not malformed
  have hconsults : scan.Consults files ⟨replicas, protocol, .sequential⟩ := ⟨hreplicas, by simp⟩
  have hsound := hfault _ ((scan.mem_throughputKeys files).mpr hconsults)
  rw [← isSome_throughputRow, scan.isSome_throughputRow_iff files hsound]
  simp

/-- Nothing stands between a sequential row and that of the tree library. -/
lemma exists_sequential_before {row : AgreementRow} (hrow : row ∈ rows)
    (hvariant : row.variant = .smelt) :
    ∃ before sequential after, rows = before ++ sequential :: row :: after ∧
      sequential.key = ⟨row.replicas, row.protocol, .sequential⟩ := by
  have hkey : row.key = ⟨row.replicas, row.protocol, .smelt⟩ := by rw [← hvariant]; rfl
  obtain ⟨⟨sequential, hmem, hkey'⟩, -⟩ := (scan.exists_smelt_iff files h _ _).mp ⟨row, hrow, hkey⟩
  have hlt : throughputHeight sequential.key < throughputHeight row.key := by
    rw [hkey, hkey']
    simp [throughputHeight, List.cons_lt_cons_iff]
  have hbetween : ∀ other : AgreementRow,
      throughputHeight sequential.key < throughputHeight other.key →
        ¬ throughputHeight other.key < throughputHeight row.key := by
    intro other
    rw [hkey, hkey']
    exact throughputHeight_between
  obtain ⟨before, after, hrows⟩ :=
    exists_neighbours (scan.ascending_throughput files h) hmem hrow hlt hbetween
  exact ⟨before, sequential, after, hrows, hkey'⟩

lemma isThroughput_of_ok : scan.IsThroughput files rows where
  hybrid _ _ := scan.exists_row_iff_of_ne files h (by simp)
  sequential _ _ := scan.exists_row_iff_of_ne files h (by simp)
  smelt := scan.exists_smelt_iff files h
  follows _ hrow := scan.exists_sequential_before files h hrow
  distinct := nodup_map_of_ascending (scan.ascending_throughput files h)
  ascending := scan.ascending_throughput files h
  stats row hrow := by
    obtain ⟨-, rfl⟩ := (scan.scans_throughput files).eq_ok_iff.mp h
    obtain ⟨-, hfound⟩ := (Scans.mem_filterMap (scan.key_throughputRow files)).mp hrow
    exact ((scan.throughputRow_eq_some files).mp hfound).2

end Succeeds

/-- **What is collected on throughput.**  A collection that succeeds gives the rows that the logs call
for, in order.  It fails exactly if a log that it looks at is malformed, and then with the error of the
first such log; a log of the tree library without a sequential sample next to it is not looked at. -/
theorem throughput_spec :
    (∀ rows, (scan.collect .throughput files).outcome = .ok rows → scan.IsThroughput files rows) ∧
    (∀ error, (scan.collect .throughput files).outcome = .error error ↔
      FirstFault (scan.Consults files) throughputHeight
        (fun key => Log.Malformed files .agreement (scan.throughputPath key)) error) ∧
    ((∃ error, (scan.collect .throughput files).outcome = .error error) ↔
      ∃ key error, scan.Consults files key ∧
        Log.Malformed files .agreement (scan.throughputPath key) error) := by
  have hcollect : (scan.collect .throughput files).outcome = (scan.throughput files).outcome := rfl
  have hscan := scan.scans_throughput files
  rw [hcollect]
  refine ⟨fun rows h => scan.isThroughput_of_ok files h, fun error => ?_, ?_⟩
  · rw [hscan.eq_error_iff (scan.ascending_throughputKeys files)]
    simp only [FirstFault, mem_throughputKeys, throughputFault_eq_some]
  · rw [hscan.exists_error_iff]
    simp only [mem_throughputKeys, throughputFault_eq_some]

/-- There is a malformed log of a run on the tree library, but no sequential one next to it. -/
theorem throughput_spec_malformed_tree_log :
    let scan : AgreementScan := ⟨⟨"logs"⟩, 1, 2, "mst"⟩
    let log : String → String → Location × Entry := fun name text =>
      (["w", "logs", name], .file (.bytes (Utf8.ofString text)))
    let files : FileTree := ⟨["w"], [(["w"], .directory), (["w", "logs"], .directory),
      log "tp_tpc_below_4_num_1_numc_2" "||\t9000\t1000\n",
      log "tp_chain_below_5_num_0_numc_2" "Algo 3\n||\t8000\t1000",
      log "tp_mst_chain_num_0_numc_2" "||\t7000\t1000\n",
      log "tp_mst_one_num_0_numc_2" "||\tnone\n"]⟩
    ∃ rows, (scan.collect .throughput files).outcome = .ok rows ∧
      rows.map AgreementRow.key =
        [⟨1, .twoPhaseCommit, .hybrid⟩, ⟨0, .chain, .sequential⟩, ⟨0, .chain, .smelt⟩] ∧
      scan.IsThroughput files rows := by
  intro scan log files
  have hkeys : (scan.collect .throughput files).outcome.map (·.map AgreementRow.key) =
      .ok [⟨1, .twoPhaseCommit, .hybrid⟩, ⟨0, .chain, .sequential⟩, ⟨0, .chain, .smelt⟩] := by
    decide +kernel
  obtain ⟨rows, hrows, hkeys⟩ := Log.map_eq_ok.mp hkeys
  exact ⟨rows, hrows, hkeys, (scan.throughput_spec files).1 rows hrows⟩

end AgreementScan
end BenchReport
