import BenchReport.Proofs.AgreementPlots
import BenchReport.Proofs.ChangedLogs
import BenchReport.Proofs.ChartedRuns
import BenchReport.Proofs.LargerScans

/-!
# Overlapping reports of the same logs

The same logs may be reported several times, up to different numbers of replicas
(`AgreementScan.Reported`).  The reports have different names, so they stand next to each other, and a
plot takes all of them.  Each holds the rows of the largest one up to its own number of replicas, so of
each key it holds all rows or none, and the first one is the same (`AgreementReports.find?_rows_upTo`).
Hence the chart is that of the largest report (`AgreementChart.ofRows_of_reported`), in whatever order
the reports were made.

That the runs read the same logs is part of the proof, as each of them writes a report into a directory
that may be that of the logs.  A report is never in the place of a log
(`LogName.place?_ne_of_isReportName`), so it changes no sample (`AgreementScan.Reported.samples`).
-/

namespace BenchReport

/-! ## Rows and samples -/

namespace AgreementScan

variable (scan : AgreementScan) {files others : FileTree}

/-- The rows of a collection that meets no fault depend on the samples of the logs only. -/
lemma found_congr (h : ∀ log : LogName, (∀ text ∈ log.tree?, text = scan.tree) →
      Log.sampleAt others .agreement (log.path scan.directory) =
        Log.sampleAt files .agreement (log.path scan.directory)) (metric : Metric) :
    scan.found others metric = scan.found files metric := by
  cases metric with
  | responseTime =>
    refine List.filterMap_congr fun run _ => scan.clientRunRow_congr fun client _ => ?_
    refine h _ fun text htext => ?_
    exact scan.eq_tree_of_mem_treeOf htext
  | throughput =>
    have hrow : scan.throughputRow others = scan.throughputRow files := by
      funext key
      exact scan.throughputRow_congr
        (h (scan.throughputLog key) fun _ => scan.eq_tree_of_mem_throughputLog)
    have hlayer : scan.layerKeys others = scan.layerKeys files := by
      funext protocol layer replicas
      rw [layerKeys, layerKeys, hrow]
    rw [found, found, throughputKeys, throughputKeys, hlayer, hrow]

/-! ## Making several reports -/

/-- How runs on the same logs leave their reports on a metric in a directory, one after the other and
each up to its own number of replicas.  Between them anything may change but the logs and the
reports. -/
inductive Reported (scan : AgreementScan) (metric : Metric) (out : Path) (start : FileTree) :
    List UInt32 → FileTree → Prop where
  | start : Reported scan metric out start [] start
  | run {lasts : List UInt32} {last : UInt32} {between after : FileTree} {path : Path}
      (h : Reported scan metric out start lasts between)
      (hrun : ((scan.upTo last).run metric out).Gives between after path) :
      Reported scan metric out start (last :: lasts) after
  | elsewhere {lasts : List UInt32} {between after : FileTree}
      (h : Reported scan metric out start lasts between)
      (hlogs : SameLogs between after scan.directory scan.tree)
      (hreports : ∀ n, after.read (out.join (Report.agreementName metric n)) =
        between.read (out.join (Report.agreementName metric n))) :
      Reported scan metric out start lasts after

/-- A run that succeeds puts the rows that it collects at the place of its report. -/
lemma exists_put_of_gives {last : UInt32} {metric : Metric} {out path : Path}
    {before after : FileTree} (h : ((scan.upTo last).run metric out).Gives before after path) :
    ∃ rows place, ((scan.upTo last).collect metric before).outcome = .ok rows ∧
      before.place? (out.join (Report.agreementName metric last)) = some place ∧
      after = before.put place (.file (.bytes (Report.bytes (rows.map AgreementRow.toLine)))) := by
  obtain ⟨-, rows, hrows, hwrite⟩ := (scan.upTo last).gives_run.mp h
  obtain ⟨place, hplace, hafter⟩ := FileTree.write_eq_ok.mp hwrite
  exact ⟨rows, place, hrows, hplace, hafter⟩

namespace Reported

variable {scan} {metric : Metric} {out : Path} {start after : FileTree} {lasts : List UInt32}
  (h : scan.Reported metric out start lasts after)

include h

/-- The samples of the logs are those at the start. -/
lemma samples (log : LogName) (hlog : ∀ text ∈ log.tree?, text = scan.tree) :
    Log.sampleAt after .agreement (log.path scan.directory) =
      Log.sampleAt start .agreement (log.path scan.directory) := by
  induction h with
  | start => rfl
  | @run _ last _ _ _ _ hrun ih =>
    obtain ⟨rows, place, -, hplace, rfl⟩ := scan.exists_put_of_gives hrun
    have hname := Report.isReportName_agreementName metric last
    have hlast := FileTree.getLast?_place hname.isName hplace
    rw [← ih]
    -- the report is the only difference, and it is no log
    exact (FileTree.sameElsewhere_put _ (FileTree.find?_place hplace)).sampleAt_log _ log _
      (LogName.place?_ne_of_isReportName hname hlast log _)
  | elsewhere _ hlogs _ ih => rw [← ih, Log.sampleAt, Log.sampleAt, hlogs log hlog]

/-- Each report holds the rows of the logs at the start. -/
lemma read_report : ∀ last ∈ lasts, after.read (out.join (Report.agreementName metric last)) =
    .ok (Report.bytes (((scan.upTo last).found start metric).map AgreementRow.toLine)) := by
  induction h with
  | start => simp
  | @run _ last _ _ _ hbefore hrun ih =>
    obtain ⟨rows, place, hrows, hplace, rfl⟩ := scan.exists_put_of_gives hrun
    have hfound : rows = (scan.upTo last).found start metric :=
      ((scan.upTo last).eq_found_of_collect _ hrows).trans
        ((scan.upTo last).found_congr hbefore.samples metric)
    intro other hother
    by_cases hlast : other = last
    · subst hlast
      rw [← hfound]
      exact FileTree.read_put hplace _
    · have hne : Report.agreementName metric other ≠ Report.agreementName metric last :=
        fun heq => hlast (Report.agreementName_injective metric heq)
      rw [FileTree.read, FileTree.lookup_congr (FileTree.resolve_put_of_ne
        (Report.isName_agreementName metric last) (Report.isName_agreementName metric other) hne
        hplace _)]
      exact ih other ((List.mem_cons.mp hother).resolve_left hlast)
  | elsewhere _ _ hreports ih => exact fun last hlast => (hreports last).trans (ih last hlast)

end Reported

end AgreementScan

/-! ## The rows that are shown -/

/-- Where each item gives nothing or the same as all others that give something, any of these tells what
is found first. -/
lemma findSome?_eq_of_mem {α β : Type} {items : List α} {item : α} {f : α → Option β}
    {found : Option β} (h : ∀ other ∈ items, f other = none ∨ f other = found) (hmem : item ∈ items)
    (hitem : f item = found) : items.findSome? f = found := by
  cases found with
  | none =>
    refine List.findSome?_eq_none_iff.mpr fun other hother => ?_
    exact (h other hother).elim id id
  | some value =>
    obtain ⟨result, hresult⟩ := Option.isSome_iff_exists.mp
      (List.findSome?_isSome_iff.mpr ⟨item, hmem, Option.isSome_of_eq_some hitem⟩)
    obtain ⟨other, hother, hvalue⟩ := List.exists_of_findSome?_eq_some hresult
    rw [hresult, ← hvalue]
    refine (h other hother).resolve_left fun hnone => ?_
    rw [hvalue] at hnone
    cases hnone

namespace AgreementReports

variable {lasts : List UInt32} {largest : UInt32} {rows : List AgreementRow}

/-- The reports that hold some rows up to different numbers of replicas. -/
def upTo (rows : List AgreementRow) (lasts : List UInt32) : AgreementReports := fun n =>
  if n ∈ lasts then rows.filter fun row => row.replicas ≤ n else []

/-- Of a key, a report holds all rows or none. -/
lemma find?_upTo (key : AgreementKey) (n : UInt32) :
    (upTo rows lasts n).find? (fun row => row.key = key) = none ∨
      (upTo rows lasts n).find? (fun row => row.key = key) = rows.find? fun row => row.key = key := by
  rw [upTo]
  split_ifs with hn
  · rw [List.find?_filter]
    -- either all rows about the key have few enough replicas for the report, or none has
    by_cases hle : key.replicas ≤ n
    · refine .inr (congrArg (rows.find? ·) (funext fun row => ?_))
      by_cases hkey : row.key = key
      · have hreplicas : row.replicas ≤ n := by
          rw [← hkey] at hle
          exact hle
        simp [hkey, hreplicas]
      · simp [hkey]
    · refine .inl (List.find?_eq_none.mpr fun row _ => ?_)
      rw [decide_eq_true_eq, not_and]
      rintro hreplicas hkey
      rw [← of_decide_eq_true hkey] at hle
      exact hle (of_decide_eq_true hreplicas)
  · exact .inl rfl

lemma upTo_largest (hlargest : largest ∈ lasts) (hrows : ∀ row ∈ rows, row.replicas ≤ largest) :
    upTo rows lasts largest = rows := by
  rw [upTo, if_pos hlargest, List.filter_eq_self]
  exact fun row hrow => decide_eq_true (hrows row hrow)

/-- The first row about a key is that of the largest report. -/
lemma find?_rows_upTo (hlargest : largest ∈ lasts) (hbound : largest < 100)
    (hrows : ∀ row ∈ rows, row.replicas ≤ largest) (key : AgreementKey) :
    (upTo rows lasts).rows.find? (fun row => row.key = key) =
      rows.find? fun row => row.key = key := by
  rw [AgreementReports.rows, List.find?_flatMap]
  exact findSome?_eq_of_mem (fun n _ => find?_upTo key n) (AgreementPlot.mem_scanned.mpr hbound)
    (by rw [upTo_largest hlargest hrows])

/-- A single report has its rows. -/
lemma rows_upTo_singleton (hbound : largest < 100) (hrows : ∀ row ∈ rows, row.replicas ≤ largest) :
    (upTo rows [largest]).rows = rows := by
  have hnodup : AgreementPlot.scanned.Nodup := nodup_of_ascending (ascending_countsBelow 100)
  have hnone : ∀ n ∈ AgreementPlot.scanned, n ≠ largest → upTo rows [largest] n = [] :=
    fun n _ hne => if_neg (by simpa using hne)
  rw [AgreementReports.rows,
    flatMap_eq_of_forall_ne hnodup (AgreementPlot.mem_scanned.mpr hbound) hnone]
  exact upTo_largest List.mem_cons_self hrows

end AgreementReports

/-- A report that can be read is a file. -/
lemma AgreementRow.isFile_of_readReport {files : FileTree} {path : Path} {rows : List AgreementRow}
    (h : readReport files path = .ok rows) : files.isFile path = true := by
  rw [readReport, Report.readRows] at h
  split at h
  · cases h
  · exact FileTree.isFile_of_read ‹_›

/-- Reports that can be read, without others next to them, are what a plot reads. -/
lemma AgreementPlot.reads_upTo {plot : AgreementPlot} {files : FileTree} {lasts : List UInt32}
    {rows : List AgreementRow}
    (hread : ∀ n ∈ lasts, AgreementRow.readReport files
      (plot.directory.join (Report.agreementName plot.metric n)) =
        .ok (rows.filter fun row => row.replicas ≤ n))
    (hother : ∀ n < 100, n ∉ lasts →
      files.isFile (plot.directory.join (Report.agreementName plot.metric n)) = false) :
    plot.Reads files (.upTo rows lasts) := by
  intro n hn
  rw [readAt, AgreementReports.upTo]
  by_cases hmem : n ∈ lasts
  · rw [if_pos (AgreementRow.isFile_of_readReport (hread n hmem)), if_pos hmem, hread n hmem]
  · rw [hother n hn hmem, if_neg hmem]
    rfl

/-! ## The chart of all reports -/

namespace AgreementScan

variable (scan : AgreementScan) (files : FileTree) {metric : Metric} {last largest : UInt32}

/-- The rows that the report up to some number of replicas keeps. -/
def settledRows (metric : Metric) (last : UInt32) : List AgreementRow :=
  ((scan.upTo last).found files metric).map AgreementRow.settled

lemma settledRows_of_le (h : last ≤ largest) : scan.settledRows files metric last =
    (scan.settledRows files metric largest).filter fun row => row.replicas ≤ last := by
  rw [settledRows, settledRows, scan.found_upTo files metric h, List.filter_map]
  rfl

lemma replicas_le_of_mem_settledRows {row : AgreementRow}
    (h : row ∈ scan.settledRows files metric last) : row.replicas ≤ last := by
  rw [scan.settledRows_of_le files (UInt32.le_refl last)] at h
  exact of_decide_eq_true (List.mem_filter.mp h).2

/-- All reports can be read, and they hold the rows of the largest one up to their own counts. -/
lemma Reported.reads {scan : AgreementScan} {out : Path} {start after : FileTree}
    {lasts : List UInt32} (h : scan.Reported metric out start lasts after)
    (hle : ∀ last ∈ lasts, last ≤ largest)
    (hother : ∀ n < 100, n ∉ lasts →
      after.isFile (out.join (Report.agreementName metric n)) = false) (name : String)
    (style : Style) :
    AgreementPlot.Reads ⟨out, name, metric, style⟩ after
      (.upTo (scan.settledRows start metric largest) lasts) := by
  refine AgreementPlot.reads_upTo (fun n hn => ?_) hother
  rw [← scan.settledRows_of_le start (hle n hn)]
  exact AgreementRow.readReport_of_read (h.read_report n hn)

end AgreementScan

/-- **Overlapping reports of the same logs are harmless.**  After runs on the same logs up to different
numbers of replicas, in a directory without other reports on the metric, the chart of all reports is
that of the largest one, which is what a directory gives that holds this report only. -/
theorem AgreementChart.ofRows_of_reported {scan : AgreementScan} {metric : Metric} {out : Path}
    {start after : FileTree} {lasts : List UInt32} {largest : UInt32} (style : Style)
    (h : scan.Reported metric out start lasts after) (hlargest : largest ∈ lasts)
    (hle : ∀ last ∈ lasts, last ≤ largest) (hbound : largest < 100)
    (hother : ∀ n < 100, n ∉ lasts →
      after.isFile (out.join (Report.agreementName metric n)) = false) :
    ∃ loaded alone, (AgreementPlot.load out metric after).outcome = .ok loaded ∧
      AgreementRow.readReport after (out.join (Report.agreementName metric largest)) = .ok alone ∧
      (∀ single : FileTree,
        single.read (out.join (Report.agreementName metric largest)) =
          after.read (out.join (Report.agreementName metric largest)) →
        (∀ n < 100, n ≠ largest →
          single.isFile (out.join (Report.agreementName metric n)) = false) →
            (AgreementPlot.load out metric single).outcome = .ok alone) ∧
      ofRows loaded metric style = ofRows alone metric style := by
  have hrows : ∀ row ∈ scan.settledRows start metric largest, row.replicas ≤ largest :=
    fun row => scan.replicas_le_of_mem_settledRows start
  have hload := AgreementPlot.outcome_load_of_reads (h.reads hle hother "" style)
  have halone : AgreementRow.readReport after (out.join (Report.agreementName metric largest)) =
      .ok (scan.settledRows start metric largest) :=
    AgreementRow.readReport_of_read (h.read_report largest hlargest)
  refine ⟨_, _, hload, halone, fun single hsame honly => ?_, ?_⟩
  · have hsingle : AgreementPlot.Reads ⟨out, "", metric, style⟩ single
        (.upTo (scan.settledRows start metric largest) [largest]) := by
      refine AgreementPlot.reads_upTo (fun n hn => ?_) fun n hn hne => honly n hn (by simpa using hne)
      obtain rfl := List.mem_singleton.mp hn
      rw [← scan.settledRows_of_le start (UInt32.le_refl n)]
      exact AgreementRow.readReport_of_read (hsame.trans (h.read_report n hlargest))
    have honlyLoad := AgreementPlot.outcome_load_of_reads hsingle
    rwa [AgreementReports.rows_upTo_singleton hbound hrows] at honlyLoad
  · exact ofRows_congr fun key _ => AgreementReports.find?_rows_upTo hlargest hbound hrows key

/-- The reports stand among the logs, the larger one is made first, and in either of them both layers
have a row about the same key. -/
theorem AgreementChart.ofRows_of_reported_larger_first :
    let scan : AgreementScan := ⟨⟨"."⟩, 0, 1, "mst"⟩
    let log : String → String → String → Location × Entry := fun sub name text =>
      ([sub, name], .file (.bytes (Utf8.ofString text)))
    let start : FileTree := ⟨[], [(["rep_0"], .directory), (["rep_1"], .directory),
      log "rep_0" "client_id_0_algo_1_below_4_num_1" "||\t3000\t1000\n",
      log "rep_0" "client_id_0_algo_1_below_5_num_1" "||\t5000\t1000\n",
      log "rep_1" "client_id_0_algo_1_below_5_num_1" "||\t7000\t1000\n"]⟩
    let report : List String → Entry := fun lines => .file (.bytes (Report.bytes lines))
    let zero := ["0\tTPC\t\"sequential\"\t3\t1", "0\tTPC\t\"sequential\"\t5\t1"]
    let one := zero ++ ["1\tTPC\t\"sequential\"\t7\t1"]
    let between := start.put ["rt_r1"] (report one)
    let after := between.put ["rt_r0"] (report zero)
    scan.Reported .responseTime ⟨"."⟩ start [0, 1] after ∧ 1 ∈ [(0 : UInt32), 1] ∧
      (∀ last ∈ [(0 : UInt32), 1], last ≤ 1) ∧ (1 : UInt32) < 100 ∧
      (∀ n < 100, n ∉ [(0 : UInt32), 1] →
        after.isFile (Path.join ⟨"."⟩ (Report.agreementName .responseTime n)) = false) ∧
      (AgreementRow.readReport after ⟨"./rt_r0"⟩).map (·.map AgreementRow.key) =
        .ok [⟨0, .twoPhaseCommit, .sequential⟩, ⟨0, .twoPhaseCommit, .sequential⟩] ∧
      ∃ loaded alone, (AgreementPlot.load ⟨"."⟩ .responseTime after).outcome = .ok loaded ∧
        AgreementRow.readReport after (Path.join ⟨"."⟩ (Report.agreementName .responseTime 1)) =
          .ok alone ∧
        ofRows loaded .responseTime .standard = ofRows alone .responseTime .standard := by
  intro scan log start report zero one between after
  have hfirst : ((scan.upTo 1).run .responseTime ⟨"."⟩).Gives start between ⟨"./rt_r1"⟩ := by
    have hlines : ((scan.upTo 1).collect .responseTime start).outcome.map
        (fun rows => rows.map AgreementRow.toLine) = .ok one := by
      decide +kernel
    rw [Run.gives_iff_effect, AgreementScan.effect_run, hlines]
    decide +kernel
  have hsecond : ((scan.upTo 0).run .responseTime ⟨"."⟩).Gives between after ⟨"./rt_r0"⟩ := by
    have hlines : ((scan.upTo 0).collect .responseTime between).outcome.map
        (fun rows => rows.map AgreementRow.toLine) = .ok zero := by
      decide +kernel
    rw [Run.gives_iff_effect, AgreementScan.effect_run, hlines]
    decide +kernel
  have hreported : scan.Reported .responseTime ⟨"."⟩ start [0, 1] after :=
    .run (.run .start hfirst) hsecond
  have hlargest : 1 ∈ [(0 : UInt32), 1] := by decide
  have hle : ∀ last ∈ [(0 : UInt32), 1], last ≤ 1 := by simp
  have hbound : (1 : UInt32) < 100 := by decide
  have hother : ∀ n < 100, n ∉ [(0 : UInt32), 1] →
      after.isFile (Path.join ⟨"."⟩ (Report.agreementName .responseTime n)) = false := by
    have hall : (countsBelow 100).all (fun n => n ∈ [(0 : UInt32), 1] ∨
        after.isFile (Path.join ⟨"."⟩ (Report.agreementName .responseTime n)) = false) = true := by
      decide +kernel
    intro n hn hne
    exact (of_decide_eq_true (List.all_eq_true.mp hall n (mem_countsBelow.mpr hn))).resolve_left hne
  have hzero : (AgreementRow.readReport after ⟨"./rt_r0"⟩).map (·.map AgreementRow.key) =
      .ok [⟨0, .twoPhaseCommit, .sequential⟩, ⟨0, .twoPhaseCommit, .sequential⟩] := by
    decide +kernel
  obtain ⟨loaded, alone, hloaded, halone, -, hchart⟩ :=
    ofRows_of_reported .standard hreported hlargest hle hbound hother
  exact ⟨hreported, hlargest, hle, hbound, hother, hzero, loaded, alone, hloaded, halone, hchart⟩

end BenchReport
