import BenchReport.Command.Run
import BenchReport.Proofs.CollectedLogs
import BenchReport.Proofs.Directories
import BenchReport.Proofs.Runs

/-!
# The work of making reports

The two commands that make reports do the same with different logs: they make the directory of the
reports, collect and write the report on throughput, and then collect and write the one on response
times, until something fails.  A `ReportJob` is what they do it with, and all that matters of it
here: where the logs and the reports are, what the reports are called and which lines they get.  Its
fields come with what makes it sound: the names of reports are none of logs, and the lines depend on
the logs only.

`CommandName.run_of_job` says that such a command leaves the tree that its job leaves, and that its
exit code tells whether the job succeeded.  So everything else about these commands can be said of
jobs.

A report goes to its place and nothing else changes (`ReportJob.write_eq`).  Where the directory of
the logs is there and the name of the tree has no slash (`ReportJob.Ready`), a report that is
written changes neither the lines that are collected afterwards nor the places of the reports
(`ReportJob.Ready.report?_put`), so both reports can be told from the tree as it was before the
first one (`ReportJob.Ready.reports_eq`).
-/

namespace BenchReport

/-- What a call that makes reports works with. -/
structure ReportJob where
  /-- The directory of the logs. -/
  input : Path
  /-- The tree in the names of logs. -/
  tree : String
  /-- The directory of the reports. -/
  output : Path
  /-- The name of the report on a metric. -/
  name : Metric → String
  /-- The lines of the report on a metric, as they are collected from a tree of files. -/
  lines : Metric → FileTree → Except SampleError (List String)
  isReportName : ∀ metric, Report.IsReportName (name metric)
  name_injective : Function.Injective name
  /-- The lines depend on the logs only. -/
  lines_congr : ∀ {files others : FileTree}, SameLogs files others input tree →
    ∀ metric, lines metric files = lines metric others

/-! ## The jobs of commands -/

/-- The reports on different metrics have different names. -/
lemma Report.metric_eq_of_name_eq {metric other : Metric} {word : String} {n : UInt32}
    (h : metric.tag ++ word ++ countText n = other.tag ++ word ++ countText n) :
    metric = other := by
  rw [String.append_assoc, String.append_assoc, String.append_left_inj] at h
  cases metric <;> cases other <;> first | rfl | exact absurd h (by decide)

/-- Making reports on agreement runs. -/
def AgreementScan.job (scan : AgreementScan) (output : Path) : ReportJob where
  input := scan.directory
  tree := scan.tree
  output := output
  name metric := Report.agreementName metric scan.maxReplicas
  lines metric files :=
    (scan.collect metric files).outcome.map fun rows => rows.map AgreementRow.toLine
  isReportName metric := Report.isReportName_agreementName metric _
  name_injective _ _ h := Report.metric_eq_of_name_eq h
  lines_congr h metric := by rw [scan.collect_congr h metric]

/-- Making reports on store runs. -/
def StoreScan.job (scan : StoreScan) (output : Path) : ReportJob where
  input := scan.directory
  tree := scan.tree
  output := output
  name metric := Report.storeName metric scan.maxClients
  lines metric files :=
    (scan.collect metric files).outcome.map fun rows => rows.map StoreRow.toLine
  isReportName metric := Report.isReportName_storeName metric _
  name_injective _ _ h := Report.metric_eq_of_name_eq h
  lines_congr h metric := by rw [scan.collect_congr h metric]

/-- The work of a command that makes reports. -/
def Call.job? (call : Call) : CommandName → Option ReportJob
  | .parseAgree => some (call.agreementScan.job call.outputDirectory)
  | .parseKvs => some (call.storeScan.job call.outputDirectory)
  | .plotAgree | .plotKvs | .plotSurface => none

/-- The work of a command, if it makes reports and its arguments make it run. -/
def CommandName.job? (command : CommandName) (words : List String) (environment : Environment)
    (input : List UInt8) (files : FileTree) : Option ReportJob :=
  match Invocation.read command.arguments words with
  | .ok (.run given) => Call.job? ⟨given, environment.withFile files, input⟩ command
  | _ => none

/-! ## Doing a job -/

namespace ReportJob

variable (job : ReportJob)

/-- The path of the report on a metric. -/
def path (metric : Metric) : Path := job.output.join (job.name metric)

/-- Collects lines and writes them as a report. -/
def write (metric : Metric) (files : FileTree) : FileTree × Bool :=
  let ended := Report.collectAndWrite (job.lines metric files) (job.path metric) files
  (ended.1, ended.2.isOk)

/-- Makes one report after the other. -/
def reports (files : FileTree) : FileTree × Bool :=
  match job.write .throughput files with
  | (after, false) => (after, false)
  | (after, true) => job.write .responseTime after

/-- Makes the directory of the reports, and then the reports. -/
def run (files : FileTree) : FileTree × Bool :=
  match files.ensureDirectories job.output with
  | (made, .error _) => (made, false)
  | (made, .ok ()) => job.reports made

end ReportJob

lemma AgreementScan.ends_run (scan : AgreementScan) (metric : Metric) (out : Path)
    (files : FileTree) : (scan.run metric out).ends files = (scan.job out).write metric files := by
  rw [Run.ends, effect_run]
  rfl

lemma StoreScan.ends_run (scan : StoreScan) (metric : Metric) (out : Path) (files : FileTree) :
    (scan.run metric out).ends files = (scan.job out).write metric files := by
  rw [Run.ends, effect_run]
  rfl

namespace Call

lemma ends_makeOutputDirectory (directory : Path) (files : FileTree) :
    (makeOutputDirectory directory).ends files =
      ((files.ensureDirectories directory).1, (files.ensureDirectories directory).2.isOk) := by
  rw [makeOutputDirectory, Run.ends_mapError, Run.ends, Run.effect_attempt]

lemma ends_report (command : CommandName) (make : Metric → Run CollectionError Path)
    (metric : Metric) (files : FileTree) :
    (report command make metric).ends files = (make metric).ends files := by
  rw [report, Run.ends_bind_of_ends fun _ _ => rfl, Run.ends_mapError]

lemma ends_reports {command : CommandName} {make : Metric → Run CollectionError Path}
    {job : ReportJob} (h : ∀ metric files, (make metric).ends files = job.write metric files)
    (files : FileTree) : (reports command make).ends files = job.reports files := by
  have hreport : ∀ metric files,
      (report command make metric).ends files = job.write metric files := fun metric files => by
    rw [ends_report, h]
  have hlast : ∀ found files, (Run.gather (report command make) [.responseTime]
      >>= fun others => pure (found ++ others)).ends files = job.write .responseTime files := by
    intro found files
    rw [Run.ends_bind_of_ends fun _ _ => rfl, Run.gather, Run.ends_bind_of_ends fun _ _ => rfl,
      hreport]
  rw [reports, Run.ends_bind_of_ends fun _ _ => rfl, reportMetrics, Run.gather,
    Run.ends_bind hlast, hreport]
  rfl

/-- A command that makes reports does its job. -/
theorem ends_perform {call : Call} {command : CommandName} {job : ReportJob}
    (h : call.job? command = some job) (files : FileTree) :
    (command.perform call).ends files = job.run files := by
  have hjob : ∀ {make : Metric → Run CollectionError Path} (job : ReportJob),
      (∀ metric files, (make metric).ends files = job.write metric files) →
        (makeOutputDirectory job.output >>= fun _ => reports command make).ends files =
          job.run files := by
    intro make job hmake
    rw [Run.ends_bind fun _ => ends_reports hmake, ends_makeOutputDirectory, ReportJob.run]
    obtain ⟨made, outcome⟩ := files.ensureDirectories job.output
    cases outcome <;> rfl
  cases command with
  | parseAgree =>
    obtain rfl := Option.some.inj h
    rw [CommandName.perform, parseAgreement]
    exact hjob (call.agreementScan.job call.outputDirectory) fun metric =>
      call.agreementScan.ends_run metric call.outputDirectory
  | parseKvs =>
    obtain rfl := Option.some.inj h
    rw [CommandName.perform, parseStore]
    exact hjob (call.storeScan.job call.outputDirectory) fun metric =>
      call.storeScan.ends_run metric call.outputDirectory
  | _ => cases h

end Call

/-- The exit code tells whether the work of a command succeeded. -/
lemma CommandName.exitCode_conclude (environment : Environment) (result : Noted Failure Unit) :
    (conclude environment result).exitCode = if result.outcome.isOk then 0 else 1 := by
  obtain ⟨outcome, notes⟩ := result
  cases outcome <;> rfl

/-- A command that makes reports leaves the tree that its job leaves, and its exit code tells
whether the job succeeded. -/
theorem CommandName.run_of_job {command : CommandName} {words : List String}
    {environment : Environment} {input : List UInt8} {files : FileTree} {job : ReportJob}
    (h : command.job? words environment input files = some job) :
    (command.run words environment input files).1 = (job.run files).1 ∧
      (command.run words environment input files).2.exitCode =
        if (job.run files).2 then 0 else 1 := by
  rw [job?] at h
  split at h
  · rename_i given hread
    rw [← Call.ends_perform h, run, hread]
    exact ⟨rfl, exitCode_conclude _ _⟩
  · cases h

namespace ReportJob

variable {job : ReportJob} {files : FileTree} {metric : Metric} {place : Location} {entry : Entry}

/-! ## One report -/

/-- The report that a job makes on a metric: the place of the file, and the file. -/
def report? (job : ReportJob) (metric : Metric) (files : FileTree) : Option (Location × Entry) :=
  match job.lines metric files, files.place? (job.path metric) with
  | .ok lines, some place => some (place, .file (.bytes (Report.bytes lines)))
  | _, _ => none

lemma report?_eq_some : job.report? metric files = some (place, entry) ↔
    ∃ lines, job.lines metric files = .ok lines ∧ files.place? (job.path metric) = some place ∧
      entry = .file (.bytes (Report.bytes lines)) := by
  rw [report?]
  cases job.lines metric files with
  | error error => simp
  | ok lines => cases files.place? (job.path metric) <;> simp [eq_comm]

/-- A report is made by putting it at its place. -/
lemma write_eq (job : ReportJob) (metric : Metric) (files : FileTree) :
    job.write metric files =
      match job.report? metric files with
      | some (place, entry) => (files.put place entry, true)
      | none => (files, false) := by
  rw [write, report?]
  cases job.lines metric files with
  | error error => rfl
  | ok lines =>
    dsimp only [Report.collectAndWrite]
    cases hplace : files.place? (job.path metric) with
    | none =>
      cases hwrite : files.write (job.path metric) (.bytes (Report.bytes lines)) with
      | error cause => rfl
      | ok changed =>
        obtain ⟨place, hsome, -⟩ := FileTree.write_eq_ok.mp hwrite
        rw [hplace] at hsome
        cases hsome
    | some place =>
      rw [FileTree.write_eq_ok.mpr ⟨place, hplace, rfl⟩]
      rfl

/-- What a job needs of a tree: the directory of the logs, and a name for the tree that makes no
directories of its own. -/
structure Ready (job : ReportJob) (files : FileTree) : Prop where
  input : files.isDirectory job.input = true
  tree : SlashFree job.tree

lemma name_ne_of_ne {metric other : Metric} (h : other ≠ metric) :
    job.name other ≠ job.name metric := fun heq => h (job.name_injective heq)

lemma place?_put (h : files.place? (job.path metric) = some place) (lines : List String)
    (other : Metric) :
    (files.put place (.file (.bytes (Report.bytes lines)))).place? (job.path other) =
      files.place? (job.path other) := by
  by_cases hother : other = metric
  · rw [hother, h]
    exact FileTree.place?_put_self h _
  · exact FileTree.place?_congr (FileTree.resolve_put_of_ne (job.isReportName metric).isName
      (job.isReportName other).isName (name_ne_of_ne hother) h _)

lemma Ready.put (hready : job.Ready files) (h : files.place? (job.path metric) = some place)
    (entry : Entry) : job.Ready (files.put place entry) where
  input := FileTree.isDirectory_put (FileTree.find?_place h) hready.input
  tree := hready.tree

lemma Ready.sameLogs_put (hready : job.Ready files)
    (h : files.place? (job.path metric) = some place) (entry : Entry) :
    SameLogs (files.put place entry) files job.input job.tree :=
  BenchReport.sameLogs_put entry (job.isReportName metric)
    (FileTree.getLast?_place (job.isReportName metric).isName h) (FileTree.find?_place h)
    hready.input hready.tree

lemma Ready.report?_put (hready : job.Ready files)
    (h : job.report? metric files = some (place, entry)) (other : Metric) :
    job.report? other (files.put place entry) = job.report? other files := by
  obtain ⟨lines, -, hplace, rfl⟩ := report?_eq_some.mp h
  rw [report?, report?, job.lines_congr (hready.sameLogs_put hplace _), place?_put hplace]

/-! ## Both reports -/

/-- The reports of a job are those that can be made of the tree that it starts in; there is no
second one without the first one. -/
lemma Ready.reports_eq (hready : job.Ready files) :
    job.reports files =
      match job.report? .throughput files, job.report? .responseTime files with
      | none, _ => (files, false)
      | some (place, entry), none => (files.put place entry, false)
      | some (place, entry), some (place', entry') =>
        ((files.put place entry).put place' entry', true) := by
  rw [reports, write_eq]
  cases h : job.report? .throughput files with
  | none => rfl
  | some found =>
    obtain ⟨place, entry⟩ := found
    dsimp only
    rw [write_eq, hready.report?_put h]
    cases job.report? .responseTime files <;> rfl

/-- What holds of a tree, and still holds when a report is put into one, holds when the reports are
made. -/
lemma Ready.reports_induction (p : FileTree → Prop) (hready : job.Ready files) (hfiles : p files)
    (hput : ∀ {tree metric place entry}, job.Ready tree →
      job.report? metric tree = some (place, entry) → p tree → p (tree.put place entry)) :
    p (job.reports files).1 := by
  have hwrite : ∀ {tree : FileTree} (metric : Metric), job.Ready tree → p tree →
      p (job.write metric tree).1 ∧ job.Ready (job.write metric tree).1 := by
    intro tree metric htree hp
    rw [write_eq]
    cases h : job.report? metric tree with
    | none => exact ⟨hp, htree⟩
    | some found =>
      obtain ⟨-, -, hplace, -⟩ := report?_eq_some.mp h
      exact ⟨hput htree h hp, htree.put hplace found.2⟩
  obtain ⟨hp, hready'⟩ := hwrite .throughput hready hfiles
  rw [reports]
  split
  · rename_i hfirst
    rwa [hfirst] at hp
  · rename_i hfirst
    rw [hfirst] at hp hready'
    exact (hwrite .responseTime hready' hp).1

/-- The reports are not taken for logs. -/
lemma Ready.sameLogs_reports (hready : job.Ready files) :
    SameLogs (job.reports files).1 files job.input job.tree := by
  refine hready.reports_induction (SameLogs · files job.input job.tree) (fun _ _ => rfl) ?_
  intro tree metric place entry htree h hsame
  obtain ⟨-, -, hplace, -⟩ := report?_eq_some.mp h
  exact fun log hlog => (htree.sameLogs_put hplace entry log hlog).trans (hsame log hlog)

/-! ## The whole job -/

/-- A job makes the directory of the reports as far as it can, and goes on in a tree that is as
good. -/
lemma Ready.exists_made (hready : job.Ready files) : ∃ made outcome,
    files.ensureDirectories job.output = (made, outcome) ∧
      FileTree.Grows files made (FileTree.trail files.home job.output) ∧ job.Ready made ∧
      job.run files = match outcome with
        | .error _ => (made, false)
        | .ok () => job.reports made := by
  have hgrows := FileTree.grows_ensureDirectories files job.output
  have hinput := FileTree.isDirectory_mono hgrows.home (fun _ => hgrows.find?_eq_some) hready.input
  refine ⟨(files.ensureDirectories job.output).1, (files.ensureDirectories job.output).2, rfl,
    hgrows, ⟨hinput, hready.tree⟩, ?_⟩
  rw [run]
  obtain ⟨made, outcome⟩ := files.ensureDirectories job.output
  cases outcome <;> rfl

end ReportJob

end BenchReport
