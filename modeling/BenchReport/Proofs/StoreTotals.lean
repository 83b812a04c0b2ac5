import BenchReport.Proofs.ReportedMeans
import BenchReport.Proofs.StoreRows

/-!
# Totals of store runs

A collection of store rows may show throughput as the mean over the clients or as their total
(`StoreScan.averaged`, `StoreScan.totalled`).  The choice is made by the places of figures in a row
(`StoreScan.throughputMeans`), far from where the columns are taken from the logs and paired.
`StoreScan.MeanAndTotal` says what it comes to: the two rows of a run are made of the same samples and
differ in their means only, which are the running mean of a column in one of them and its sum in the
other.

The step behind it is that the row of a run is its samples with each of their four columns reduced
(`StoreScan.runRow_eq`), so the two rows can be compared figure by figure.  `StoreScan.collect_totalled`
carries this over to whole collections.

A sum of whole numbers is computed without any error as long as they add up to less than `2 ^ 53`
(`Binary64.valued_sumInOrder`), so up to there totals are exact.
-/

namespace BenchReport

/-! ## Sums of whole numbers -/

namespace Binary64

lemma valued_foldl_add (values : List ℤ) {start : Float} {n : ℤ} (hstart : Valued start n)
    (h : |n| + (values.map abs).sum < 2 ^ 53) :
    Valued ((values.map Float.ofInt).foldl (· + ·) start) ((n + values.sum : ℤ) : ℚ) := by
  induction values generalizing start n with
  | nil => simpa using hstart
  | cons value values ih =>
    rw [List.map_cons, List.sum_cons, ← add_assoc] at h
    have hrest : 0 ≤ (values.map abs).sum := List.sum_nonneg (by simp)
    have hvalue : |value| < 2 ^ 53 := by
      have := abs_nonneg n
      omega
    have hsum : |n + value| + (values.map abs).sum < 2 ^ 53 :=
      lt_of_le_of_lt (add_le_add_left (abs_add_le n value) _) h
    have hnext : |n + value| < 2 ^ 53 := by omega
    have hsize : |(n : ℚ) + value| ≤ 2 ^ 100 := by
      have : |((n + value : ℤ) : ℚ)| < 2 ^ 53 := by exact_mod_cast hnext
      push_cast at this
      exact this.le.trans (by norm_num)
    obtain ⟨c, hvalued, hrounds⟩ := hstart.add (valued_ofInt hvalue) hsize
    have hexact : c = ((n + value : ℤ) : ℚ) :=
      Rounds.eq_intCast (by push_cast; exact hrounds) hnext
    rw [List.map_cons, List.foldl_cons, List.sum_cons, ← add_assoc]
    exact ih (hexact ▸ hvalued) hsum

/-- A sum of whole numbers is exact as long as their magnitudes add up to less than `2 ^ 53`. -/
lemma valued_sumInOrder {values : List ℤ} (h : (values.map abs).sum < 2 ^ 53) :
    Valued (sumInOrder (values.map Float.ofInt)) (values.sum : ℚ) := by
  have hzero : Valued 0 ((0 : ℤ) : ℚ) := valued_ofNat (n := 0) (by norm_num)
  have hsum := valued_foldl_add values hzero (by simpa using h)
  rwa [zero_add] at hsum

end Binary64

lemma Aggregate.column_eq_map_valuesAt (samples : List Sample) (index : ℕ) :
    column samples index = (valuesAt samples index).map Float.ofInt := by
  rw [column, valuesAt, List.map_map]
  rfl

/-! ## The row of a run -/

/-- The row about a run that has the four columns of some samples, each reduced in its own way. -/
def StoreKey.row (key : StoreKey) (reduction : ℕ → Reduction) (samples : List Sample) : StoreRow :=
  let figure : ℕ → Float := fun index => (reduction index).apply (Aggregate.column samples index)
  ⟨key.clients, key.variant, ⟨figure 0, figure 1⟩, ⟨figure 2, figure 3⟩⟩

namespace StoreScan

variable (scan : StoreScan) (metric : Metric) (files : FileTree) (key : StoreKey)

/-- The samples of a run, by the numbers of its clients. -/
def samplesOf : List Sample :=
  ((countsBelow key.clients).map (scan.clientPath key)).filterMap
    (Log.sampleAt files (.store metric))

/-- A sample has a mean and a spread of the writes, and the same of the reads. -/
lemma length_of_mem_samplesOf {sample : Sample} (h : sample ∈ scan.samplesOf metric files key) :
    sample.values.length = 4 := by
  obtain ⟨path, -, hpath⟩ := List.mem_filterMap.mp h
  rw [Log.length_of_sampleAt hpath]
  cases metric <;> rfl

/-- How the columns of the logs are reduced for a metric. -/
def reductionOf (index : ℕ) : Reduction :=
  if (scan.clientsOf metric).totals.contains index then .sum else .mean

/-- The row of a run is made of its samples, if there are any, column by column. -/
lemma runRow_eq : scan.runRow metric files key =
    if scan.samplesOf metric files key = [] then none
    else some (key.row (scan.reductionOf metric) (scan.samplesOf metric files key)) := by
  have hfigures : scan.figuresOf metric files key =
      Aggregate.reduce (scan.reductionOf metric) (scan.samplesOf metric files key) := rfl
  rw [runRow, hfigures]
  cases hsamples : scan.samplesOf metric files key with
  | nil => rfl
  | cons first rest =>
    have hwidth : first.values.length = 4 :=
      scan.length_of_mem_samplesOf metric files key (hsamples ▸ List.mem_cons_self)
    rw [Aggregate.reduce, hwidth]
    rfl

/-! ## Means and totals -/

/-- The scan that shows throughput as the mean over the clients. -/
def averaged : StoreScan := { scan with totalThroughput := false }

/-- The scan that shows throughput as the total over the clients. -/
def totalled : StoreScan := { scan with totalThroughput := true }

/-- How two rows on throughput are related, of which one shows the means over the clients of a run and
the other one their totals. -/
structure MeanAndTotal (mean total : StoreRow) : Prop where
  clients : total.clients = mean.clients
  variant : total.variant = mean.variant
  writeSpread : total.write.spread = mean.write.spread
  readSpread : total.read.spread = mean.read.spread
  /-- The samples are those of the clients whose log has a summary row. -/
  sampled : ∀ client < mean.clients,
    ((Log.sampleAt files (.store .throughput) (scan.clientPath mean.key client)).isSome = true ↔
      Log.HasSummaryAt files (scan.clientPath mean.key client))
  /-- No sample lacks a figure. -/
  width : ∀ sample ∈ scan.samplesOf .throughput files mean.key, sample.values.length = 4
  writeMean : mean.write.mean =
    runningMean (Aggregate.column (scan.samplesOf .throughput files mean.key) 0)
  readMean : mean.read.mean =
    runningMean (Aggregate.column (scan.samplesOf .throughput files mean.key) 2)
  writeTotal : total.write.mean =
    sumInOrder (Aggregate.column (scan.samplesOf .throughput files mean.key) 0)
  readTotal : total.read.mean =
    sumInOrder (Aggregate.column (scan.samplesOf .throughput files mean.key) 2)
  /-- Totals that are not too large are exact. -/
  lossless : ∀ index, ((Aggregate.valuesAt (scan.samplesOf .throughput files mean.key) index).map
      abs).sum < 2 ^ 53 →
    Binary64.Valued
      (sumInOrder (Aggregate.column (scan.samplesOf .throughput files mean.key) index))
      (Aggregate.totalAt (scan.samplesOf .throughput files mean.key) index)

variable {scan files key} in
/-- The two rows of a run of which no log is broken. -/
lemma meanAndTotal_row (h : scan.runFault .throughput files key = none) :
    scan.MeanAndTotal files
      (key.row (scan.averaged.reductionOf .throughput) (scan.samplesOf .throughput files key))
      (key.row (scan.totalled.reductionOf .throughput) (scan.samplesOf .throughput files key)) where
  clients := rfl
  variant := rfl
  writeSpread := rfl
  readSpread := rfl
  sampled client hclient :=
    Log.isSome_sampleAt (List.findSome?_eq_none_iff.mp h client (mem_countsBelow.mpr hclient))
  width _ := scan.length_of_mem_samplesOf .throughput files key
  writeMean := rfl
  readMean := rfl
  writeTotal := rfl
  readTotal := rfl
  lossless index hsmall := by
    rw [Aggregate.column_eq_map_valuesAt]
    exact Binary64.valued_sumInOrder hsmall

/-- The rows of one run in both collections: both or none, and both of the same samples. -/
lemma rel_runRow (h : scan.runFault .throughput files key = none) :
    Option.Rel (scan.MeanAndTotal files) (scan.averaged.runRow .throughput files key)
      (scan.totalled.runRow .throughput files key) := by
  have hsame : ∀ other : StoreScan, other.samplesOf = scan.samplesOf →
      other.runRow .throughput files key =
        if scan.samplesOf .throughput files key = [] then none
        else some (key.row (other.reductionOf .throughput)
          (scan.samplesOf .throughput files key)) := by
    intro other hother
    rw [runRow_eq, hother]
  rw [hsame scan.averaged rfl, hsame scan.totalled rfl]
  split_ifs
  · exact .none
  · exact .some (meanAndTotal_row h)

/-- **Totals change the means of throughput only.**  Response times are collected in the same way in
either case.  Throughput either fails with the same error, or there are as many rows, and row by row
they are about the same run and have the same spreads, while the means are the sums of the columns that
they are otherwise the means of. -/
theorem collect_totalled :
    scan.totalled.collect .responseTime files = scan.averaged.collect .responseTime files ∧
    ((∃ error, (scan.averaged.collect .throughput files).outcome = .error error ∧
        (scan.totalled.collect .throughput files).outcome = .error error) ∨
      ∃ means totals, (scan.averaged.collect .throughput files).outcome = .ok means ∧
        (scan.totalled.collect .throughput files).outcome = .ok totals ∧
        List.Forall₂ (scan.MeanAndTotal files) means totals) := by
  refine ⟨rfl, ?_⟩
  -- both look at the same runs and meet the same faults
  have hmeans : Scans (scan.runFault .throughput files) (scan.averaged.runRow .throughput files)
      (scan.averaged.collect .throughput files) scan.runs :=
    scan.averaged.scans_collect .throughput files
  have htotals : Scans (scan.runFault .throughput files) (scan.totalled.runRow .throughput files)
      (scan.totalled.collect .throughput files) scan.runs :=
    scan.totalled.scans_collect .throughput files
  rw [hmeans, htotals]
  cases hfault : scan.runs.findSome? (scan.runFault .throughput files) with
  | some error => exact .inl ⟨error, rfl, rfl⟩
  | none =>
    refine .inr ⟨_, _, rfl, rfl, ?_⟩
    have hsound := List.findSome?_eq_none_iff.mp hfault
    have hruns : List.Forall₂ (fun a b => a = b ∧ scan.runFault .throughput files a = none)
        scan.runs scan.runs := List.forall₂_same.mpr fun key hkey => ⟨rfl, hsound key hkey⟩
    refine List.rel_filterMap ?_ hruns
    rintro key _ ⟨rfl, hkey⟩
    exact scan.rel_runRow files key hkey

/-- One of three clients has left no log; the figures are shown without their fractions. -/
theorem collect_totalled_missing_client :
    let scan : StoreScan := ⟨⟨"logs"⟩, 3, "mst", false⟩
    let log : String → String → Location × Entry := fun name text =>
      (["w", "logs", name], .file (.bytes (Utf8.ofString text)))
    let files : FileTree := ⟨["w"], [(["w"], .directory), (["w", "logs"], .directory),
      log "client_kvs_id_0_num_3" "||\t1\t1\t10000\t2000\t1\t1\t30000\t4000\n",
      log "client_kvs_id_2_num_3" "||\t1\t1\t20000\t4000\t1\t1\t50000\t6000\n"]⟩
    let figures : StoreRow → List ℤ := fun row =>
      [row.write.mean, row.write.spread, row.read.mean, row.read.spread].map Report.whole
    ∃ means totals, (scan.averaged.collect .throughput files).outcome = .ok means ∧
      (scan.totalled.collect .throughput files).outcome = .ok totals ∧
      List.Forall₂ (scan.MeanAndTotal files) means totals ∧
      means.map figures = [[15, 3, 40, 5]] ∧ totals.map figures = [[30, 3, 80, 5]] := by
  intro scan log files figures
  have hmeans : (scan.averaged.collect .throughput files).outcome.map (·.map figures) =
      .ok [[15, 3, 40, 5]] := by
    decide +kernel
  have htotals : (scan.totalled.collect .throughput files).outcome.map (·.map figures) =
      .ok [[30, 3, 80, 5]] := by
    decide +kernel
  obtain ⟨means, hcollected, hmeans⟩ := Log.map_eq_ok.mp hmeans
  obtain ⟨totals, hcollected', htotals⟩ := Log.map_eq_ok.mp htotals
  obtain ⟨-, ⟨error, herror, -⟩ | ⟨_, _, hmeans', htotals', hall⟩⟩ := scan.collect_totalled files
  · rw [hcollected] at herror
    cases herror
  · obtain rfl := Except.ok.inj (hcollected.symm.trans hmeans')
    obtain rfl := Except.ok.inj (hcollected'.symm.trans htotals')
    exact ⟨means, totals, hcollected, hcollected', hall, hmeans, htotals⟩

end StoreScan

end BenchReport
