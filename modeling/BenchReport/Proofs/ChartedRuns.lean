import BenchReport.Plot.Agreement
import BenchReport.Proofs.AgreementCharts
import BenchReport.Proofs.ReportNames
import BenchReport.Proofs.ResponseTimes
import BenchReport.Proofs.RoundTrip
import BenchReport.Proofs.Runs
import BenchReport.Proofs.Siblings
import BenchReport.Proofs.Throughput

/-!
# From logs to charts

An agreement run that is collected, reported, loaded and charted is shown with the figures that were
collected, as far as a report keeps them.  The stages meet in three places.

* A run that succeeds has collected rows and written them to one file
  (`AgreementScan.gives_run`).
* Different reports have different names, so where there is no other report in the directory, loading
  finds that file only, and reads back what the report keeps of the rows
  (`AgreementPlot.outcome_load_of_write`).
* A chart shows the first row about each key (`AgreementChart.shows_ofRows`).  Rows on throughput are
  about different keys.  Of the response times there may be two sequential rows about the same key,
  and the first one is that of the run in shared memory (`AgreementScan.find?_sharedMemory`).
-/

namespace BenchReport

/-! ## Loading what was written -/

/-- A file that can be read is a file. -/
lemma FileTree.isFile_of_read {files : FileTree} {path : Path} {data : List UInt8}
    (h : files.read path = .ok data) : files.isFile path = true := by
  rw [read] at h
  rw [isFile]
  cases hlookup : files.lookup path with
  | error cause =>
    rw [hlookup] at h
    cases h
  | ok entry =>
    rw [hlookup] at h
    cases entry with
    | directory => cases h
    | file content => rfl

/-- What only one item contributes to. -/
lemma flatMap_eq_of_forall_ne {α β : Type} {items : List α} (hnodup : items.Nodup) {item : α}
    (hitem : item ∈ items) {value : α → List β}
    (hother : ∀ other ∈ items, other ≠ item → value other = []) :
    items.flatMap value = value item := by
  obtain ⟨before, after, rfl⟩ := List.append_of_mem hitem
  obtain ⟨-, hafter, hbefore⟩ := List.nodup_append.mp hnodup
  have hfront : before.flatMap value = [] := List.flatMap_eq_nil_iff.mpr fun other h =>
    hother other (List.mem_append_left _ h) (hbefore other h item List.mem_cons_self)
  have hback : after.flatMap value = [] := List.flatMap_eq_nil_iff.mpr fun other h =>
    hother other (by simp [h]) (ne_of_mem_of_not_mem h (List.nodup_cons.mp hafter).1)
  rw [List.flatMap_append, List.flatMap_cons, hfront, hback, List.nil_append, List.append_nil]

/-- In a directory without another report, loading gives what was written. -/
lemma AgreementPlot.outcome_load_of_write {files changed : FileTree} {out : Path} {metric : Metric}
    {count : UInt32} (hcount : count < 100)
    (hother : ∀ n < 100, n ≠ count →
      files.isFile (out.join (Report.agreementName metric n)) = false)
    {rows : List AgreementRow}
    (hwrite : files.write (out.join (Report.agreementName metric count))
      (.bytes (Report.bytes (rows.map AgreementRow.toLine))) = .ok changed) :
    (load out metric changed).outcome = .ok (rows.map AgreementRow.settled) := by
  have hread := FileTree.read_write hwrite
  have hone : ∀ n ∈ scanned, (loadOne out metric changed n).outcome =
      .ok (if n = count then rows.map AgreementRow.settled else []) := by
    intro n hn
    rw [loadOne]
    by_cases hn' : n = count
    · subst hn'
      rw [if_pos (FileTree.isFile_of_read hread), if_pos rfl, Noted.outcome_bind,
        AgreementRow.readReport_of_read hread]
      rfl
    · have hmissing :
          changed.isFile (out.join (Report.agreementName metric n)) ≠ true := fun hfile => by
        have hold := FileTree.isFile_of_isFile_write (Report.isName_agreementName metric count)
          (Report.isName_agreementName metric n)
          (fun heq => hn' (Report.agreementName_injective metric heq)) hwrite hfile
        rw [hother n (mem_countsBelow.mp hn) hn'] at hold
        cases hold
      rw [if_neg hmissing, if_neg hn']
      rfl
  have hnodup : scanned.Nodup := nodup_of_ascending (ascending_countsBelow 100)
  rw [load, Noted.outcome_gather_eq_ok hone,
    flatMap_eq_of_forall_ne hnodup (mem_countsBelow.mpr hcount) fun n _ hn => if_neg hn, if_pos rfl]

/-! ## The rows that are shown -/

namespace AgreementScan

variable (scan : AgreementScan) (files : FileTree)

/-- Only of sequential response times there can be two rows about the same key. -/
lemma length_filter_le_one {metric : Metric} {rows : List AgreementRow}
    (h : (scan.collect metric files).outcome = .ok rows) (key : AgreementKey)
    (hkey : metric = .throughput ∨ key.variant = .smelt) :
    (rows.filter fun row => row.key = key).length ≤ 1 := by
  cases metric with
  | throughput =>
    have hdistinct := (scan.isThroughput_of_ok files h).distinct
    have hcount := List.nodup_iff_count_le_one.mp hdistinct key
    rw [List.count, List.countP_map, List.countP_eq_length_filter] at hcount
    exact hcount
  | responseTime =>
    obtain ⟨replicas, protocol, variant⟩ := key
    obtain rfl : variant = .smelt := hkey.resolve_left (by simp)
    exact scan.length_filter_smelt_le_one files h replicas protocol

/-- The first sequential row about a number of replicas and a protocol is that of the run in shared
memory, if there is one. -/
lemma find?_sharedMemory {rows : List AgreementRow}
    (h : (scan.collect .responseTime files).outcome = .ok rows) {replicas : UInt32}
    (hmax : replicas ≤ scan.maxReplicas) {protocol : Protocol} {stats : MeanSpread}
    (hstats : scan.clientStats files ⟨.sequential, protocol, .sharedMemory, replicas⟩ = some stats) :
    (rows.find? fun row => row.key = ⟨replicas, protocol, .sequential⟩).map AgreementRow.stats =
      some stats := by
  have hfilter := (scan.isResponseTimes_of_ok files h).sequential replicas protocol hmax
  rw [← List.head?_filter, ← List.head?_map, hfilter, List.filterMap_cons, hstats]
  rfl

end AgreementScan

/-! ## From logs to bars -/

namespace AgreementRow

/-- The first row about a key stays the first one. -/
lemma find?_map_settled (rows : List AgreementRow) (key : AgreementKey) :
    (rows.map settled).find? (fun row => row.key = key) =
      (rows.find? fun row => row.key = key).map settled := by
  rw [List.find?_map]
  rfl

end AgreementRow

/-- **From logs to bars.**  After a run that succeeds, in a directory without another report on the
metric, the chart of the reports shows the rows that were collected, with the figures that a report
keeps.  Only of sequential response times there can be two rows about the same key, and of them it
shows the one in shared memory. -/
theorem AgreementChart.shows_run {scan : AgreementScan} {metric : Metric} {out path : Path}
    {files after : FileTree} (style : Style) (hmax : scan.maxReplicas < 100)
    (hother : ∀ n < 100, n ≠ scan.maxReplicas →
      files.isFile (out.join (Report.agreementName metric n)) = false)
    (hrun : (scan.run metric out).Gives files after path) :
    ∃ rows loaded, (scan.collect metric files).outcome = .ok rows ∧
      (AgreementPlot.load out metric after).outcome = .ok loaded ∧
      Shows (ofRows loaded metric style) (rows.map AgreementRow.settled) ∧
      (∀ key : AgreementKey, metric = .throughput ∨ key.variant = .smelt →
        (rows.filter fun row => row.key = key).length ≤ 1) ∧
      (metric = .responseTime → ∀ replicas protocol stats, replicas ≤ scan.maxReplicas →
        protocol ≠ .chain →
        scan.clientStats files ⟨.sequential, protocol, .sharedMemory, replicas⟩ = some stats →
          (barsFor (ofRows loaded metric style) ⟨replicas, protocol, .sequential⟩).map Bar.figures =
            [stats.settled.figures]) := by
  obtain ⟨-, rows, hrows, hwrite⟩ := scan.gives_run.mp hrun
  refine ⟨rows, _, hrows, AgreementPlot.outcome_load_of_write hmax hother hwrite,
    shows_ofRows _ _ _, scan.length_filter_le_one files hrows, ?_⟩
  rintro rfl replicas protocol stats hle hchain hstats
  have hfirst := scan.find?_sharedMemory files hrows hle hstats
  have hcharted : AgreementKey.IsCharted ⟨replicas, protocol, .sequential⟩ := ⟨hchain, by simp⟩
  obtain ⟨row, hrow, rfl⟩ := Option.map_eq_some_iff.mp hfirst
  rw [map_figures_barsFor _ _ _ hcharted, AgreementRow.find?_map_settled, hrow]
  rfl

/-- Both layers have a sequential row about the same key, and there is a report on another metric. -/
theorem AgreementChart.shows_run_two_layers :
    let scan : AgreementScan := ⟨⟨"logs"⟩, 0, 1, "mst"⟩
    let log : String → String → Location × Entry := fun name text =>
      (["w", "logs", "rep_0", name], .file (.bytes (Utf8.ofString text)))
    let files : FileTree := ⟨["w"], [(["w"], .directory), (["w", "logs"], .directory),
      (["w", "logs", "rep_0"], .directory), (["w", "out"], .directory),
      (["w", "out", "tp_r0"], .file (.bytes [])),
      log "client_id_0_algo_1_below_4_num_1" "||\t3000\t1000\n",
      log "client_id_0_algo_1_below_5_num_1" "||\t5000\t1000\n",
      log "client_id_0_algo_3_below_5_mst_num_1" "||\t7000\t1000\n"]⟩
    let after := (scan.run .responseTime ⟨"out"⟩ files).1
    scan.maxReplicas < 100 ∧
      (∀ n < 100, n ≠ scan.maxReplicas →
        files.isFile (Path.join ⟨"out"⟩ (Report.agreementName .responseTime n)) = false) ∧
      (scan.run .responseTime ⟨"out"⟩).Gives files after ⟨"out/rt_r0"⟩ ∧
      ∃ rows loaded, (scan.collect .responseTime files).outcome = .ok rows ∧
        (AgreementPlot.load ⟨"out"⟩ .responseTime after).outcome = .ok loaded ∧
        Shows (ofRows loaded .responseTime .standard) (rows.map AgreementRow.settled) ∧
        (barsFor (ofRows loaded .responseTime .standard) ⟨0, .twoPhaseCommit, .sequential⟩).map
          Bar.figures = [(3, 1)] := by
  intro scan log files after
  have hmax : scan.maxReplicas < 100 := by decide
  have hother : ∀ n < 100, n ≠ scan.maxReplicas →
      files.isFile (Path.join ⟨"out"⟩ (Report.agreementName .responseTime n)) = false := by
    have hall : (countsBelow 100).all (fun n =>
        !files.isFile (Path.join ⟨"out"⟩ (Report.agreementName .responseTime n))) = true := by
      decide +kernel
    intro n hn _
    simpa using List.all_eq_true.mp hall n (mem_countsBelow.mpr hn)
  have hrun : (scan.run .responseTime ⟨"out"⟩).Gives files after ⟨"out/rt_r0"⟩ :=
    ⟨rfl, by decide +kernel⟩
  have hstats : (scan.clientStats files ⟨.sequential, .twoPhaseCommit, .sharedMemory, 0⟩).map
      (fun stats => stats.settled.figures) = some (3, 1) := by
    decide +kernel
  obtain ⟨rows, loaded, hrows, hloaded, hshows, -, hshared⟩ :=
    shows_run .standard hmax hother hrun
  obtain ⟨stats, hstats, hfigures⟩ := Option.map_eq_some_iff.mp hstats
  refine ⟨hmax, hother, hrun, rows, loaded, hrows, hloaded, hshows, ?_⟩
  rw [hshared rfl 0 .twoPhaseCommit stats (by decide) (by decide) hstats, hfigures]

end BenchReport
