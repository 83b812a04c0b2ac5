import BenchReport.Proofs.ReportJobs

/-!
# What a run that makes reports changes

A command that makes reports first makes their directory and then replaces one report after the
other, until something fails.  `ReportJob.Replaces` says that two trees differ by the reports on
some metrics and by nothing else, and `CommandName.run_replaces` says which metrics these are, from
what can be collected in the tree with the new directory.  That this tree tells it for both reports
is `ReportJob.Ready.reports_eq`: the second collection does not see the first report.

A report that cannot be written ends a run as well.  So the theorem asks that no path of a report is
too long and that none is the path of a directory.  It is not enough to ask the latter of the tree
at the start, because a directory that is made on the way to that of the reports may have the name
of a report (`CommandName.thwarted_by_made_directory`).
-/

namespace BenchReport

namespace ReportJob

variable {job : ReportJob} {files made after : FileTree} {metric : Metric} {place : Location}
  {entry : Entry}

/-! ## What is replaced -/

/-- Whether a tree comes from another one by replacing the reports on some metrics. -/
structure Replaces (job : ReportJob) (files after : FileTree) (metrics : List Metric) : Prop where
  home : after.home = files.home
  /-- Nothing changes but the files of the reports. -/
  kept : ∀ location, (∀ metric ∈ metrics, files.place? (job.path metric) ≠ some location) →
    after.find? location = files.find? location
  /-- The reports hold the lines that are collected. -/
  replaced : ∀ metric ∈ metrics, ∃ lines, job.lines metric files = .ok lines ∧
    after.read (job.path metric) = .ok (Report.bytes lines)
  /-- At the path of a report on another metric stands what stood there before, if anything did. -/
  spared : ∀ metric ∉ metrics, after.lookup (job.path metric) = files.lookup (job.path metric)

namespace Replaces

variable {metrics : List Metric}

lemma nil (job : ReportJob) (files : FileTree) : job.Replaces files files [] where
  home := rfl
  kept _ _ := rfl
  replaced _ h := absurd h List.not_mem_nil
  spared _ _ := rfl

/-- One more report is replaced by putting it at its place. -/
lemma put (h : job.Replaces files after metrics)
    (hreport : job.report? metric files = some (place, entry))
    (hplaces : after.place? (job.path metric) = some place) :
    job.Replaces files (after.put place entry) (metrics ++ [metric]) := by
  obtain ⟨lines, hlines, hplace, rfl⟩ := report?_eq_some.mp hreport
  have hother : ∀ other, other ≠ metric →
      (after.put place (.file (.bytes (Report.bytes lines)))).lookup (job.path other) =
        after.lookup (job.path other) := fun other hne =>
    FileTree.lookup_congr (FileTree.resolve_put_of_ne (job.isReportName metric).isName
      (job.isReportName other).isName (name_ne_of_ne hne) hplaces _)
  constructor
  case home => exact h.home
  case kept =>
    intro location hlocation
    have hne : location ≠ place := by
      rintro rfl
      exact hlocation metric List.mem_concat_self hplace
    rw [FileTree.find?_put_of_ne after _ hne]
    exact h.kept location fun other hmem => hlocation other (List.mem_append_left _ hmem)
  case replaced =>
    intro other hmem
    by_cases hne : other = metric
    · subst hne
      exact ⟨lines, hlines, FileTree.read_put hplaces _⟩
    · obtain ⟨found, hfound, hread⟩ := h.replaced other (by simpa [hne] using hmem)
      exact ⟨found, hfound, by rw [FileTree.read, hother other hne, ← hread, FileTree.read]⟩
  case spared =>
    intro other hmem
    rw [List.mem_append, List.mem_singleton, not_or] at hmem
    rw [hother other hmem.2, h.spared other hmem.1]

end Replaces

/-- The reports that are replaced are none, that on throughput, or both. -/
lemma Ready.replaces_reports (hready : job.Ready files) :
    match job.report? .throughput files, job.report? .responseTime files with
    | none, _ => job.reports files = (files, false)
    | some _, none =>
      job.Replaces files (job.reports files).1 [.throughput] ∧ (job.reports files).2 = false
    | some _, some _ =>
      job.Replaces files (job.reports files).1 [.throughput, .responseTime] ∧
        (job.reports files).2 = true := by
  rw [hready.reports_eq]
  cases htp : job.report? .throughput files with
  | none => rfl
  | some found =>
    obtain ⟨place, entry⟩ := found
    obtain ⟨lines, -, hplace, rfl⟩ := report?_eq_some.mp htp
    have hfirst := (Replaces.nil job files).put htp hplace
    cases hrt : job.report? .responseTime files with
    | none => exact ⟨hfirst, rfl⟩
    | some found' =>
      obtain ⟨-, -, hplace', -⟩ := report?_eq_some.mp hrt
      exact ⟨hfirst.put hrt ((place?_put hplace lines _).trans hplace'), rfl⟩

end ReportJob

namespace CommandName

variable {command : CommandName} {words : List String} {environment : Environment}
  {input : List UInt8} {files made after : FileTree} {outcome : Outcome} {job : ReportJob}

/-- **What a run that makes reports changes.**  It makes the directory of the reports and those
above it, and it replaces the report on throughput, unless a log for it is broken, and after that
the report on response times, unless a log for that one is broken.  Both get the lines of the logs
as they were before the first one, and nothing else changes.  The exit code tells whether both were
replaced.  Where the reports go, the new directories have changed nothing. -/
theorem run_replaces (hjob : command.job? words environment input files = some job)
    (hready : job.Ready files) (hhome : files.isDirectory ⟨"."⟩ = true)
    (hmade : files.ensureDirectories job.output = (made, .ok ()))
    (hplain : ∀ metric, made.isDirectory (job.path metric) = false)
    (hshort : ∀ metric, (job.path metric).text.utf8ByteSize ≤ FileTree.longestPath)
    (h : command.run words environment input files = (after, outcome)) :
    FileTree.Grows files made (FileTree.trail files.home job.output) ∧
      made.Stands job.output ∧
      (∀ metric, ∃ place, made.place? (job.path metric) = some place ∧
        made.find? place = files.find? place) ∧
      match job.lines .throughput made, job.lines .responseTime made with
      | .error _, _ => outcome.exitCode = 1 ∧ after = made
      | .ok _, .error _ => outcome.exitCode = 1 ∧ job.Replaces made after [.throughput]
      | .ok _, .ok _ =>
        outcome.exitCode = 0 ∧ job.Replaces made after [.throughput, .responseTime] := by
  obtain ⟨grown, found, hgrown, hgrows, hready', hrun⟩ := hready.exists_made
  obtain ⟨rfl, rfl⟩ := Prod.mk.inj (hmade.symm.trans hgrown)
  have hstands := FileTree.stands_ensureDirectories hmade
  obtain ⟨htree, hcode⟩ := run_of_job hjob
  rw [h, hrun] at htree hcode
  dsimp only at htree hcode
  have hdirectory : made.find? made.home = some .directory := by
    obtain ⟨there, hresolve⟩ := FileTree.isDirectory_iff.mp hhome
    obtain ⟨-, hleads⟩ := FileTree.resolve_eq_ok.mp hresolve
    rw [hgrows.home]
    exact hgrows.find?_eq_some (FileTree.Leads.find?_here hleads)
  have hplaces : ∀ metric, ∃ place, made.place? (job.path metric) = some place := fun metric =>
    have hname := job.isReportName metric
    FileTree.exists_place? hstands hdirectory hname.isName hname.short hname.nul (hplain metric)
      (hshort metric)
  refine ⟨hgrows, hstands, fun metric => ?_, ?_⟩
  · obtain ⟨place, hplace⟩ := hplaces metric
    refine ⟨place, hplace, (hgrows.entries place).resolve_right ?_⟩
    rintro ⟨-, hnew, -⟩
    exact FileTree.find?_place hplace hnew
  · have hreports := hready'.replaces_reports
    obtain ⟨place, hplace⟩ := hplaces .throughput
    obtain ⟨place', hplace'⟩ := hplaces .responseTime
    rw [ReportJob.report?, ReportJob.report?, hplace, hplace'] at hreports
    rw [htree, hcode]
    cases htp : job.lines .throughput made with
    | error error =>
      rw [htp] at hreports
      dsimp only at hreports ⊢
      rw [hreports]
      exact ⟨rfl, rfl⟩
    | ok lines =>
      cases hrt : job.lines .responseTime made with
      | error error =>
        rw [htp, hrt] at hreports
        exact ⟨by rw [hreports.2]; rfl, hreports.1⟩
      | ok lines' =>
        rw [htp, hrt] at hreports
        exact ⟨by rw [hreports.2]; rfl, hreports.1⟩

/-- A client log is broken, there is an older report, and a directory is made on the way to that of
the reports. -/
theorem run_replaces_broken_client_log :
    let words := ["--max-replicas", "0", "--clients", "1", "--output-dir", "new/.."]
    let file : Location → String → Location × Entry := fun location text =>
      (location, .file (.bytes (Utf8.ofString text)))
    let files : FileTree := ⟨["w"], [(["w"], .directory), (["w", "rep_0"], .directory),
      file ["w", "rep_0", "client_id_0_algo_0_below_4_num_1"] "||\tnone\n",
      file ["w", "tp_one_below_5_num_0_numc_1"] "||\t9000\t1000\n",
      file ["w", "rt_r0"] "an older report\n"]⟩
    let made := files.put ["w", "new"] .directory
    let scan : AgreementScan := ⟨⟨"."⟩, 0, 1, "adaptivetree"⟩
    let job := scan.job ⟨"new/.."⟩
    let ended := parseAgree.run words ⟨[]⟩ [] files
    parseAgree.job? words ⟨[]⟩ [] files = some job ∧ job.Ready files ∧
      files.isDirectory ⟨"."⟩ = true ∧ files.ensureDirectories job.output = (made, .ok ()) ∧
      (∀ metric, made.isDirectory (job.path metric) = false) ∧
      (∀ metric, (job.path metric).text.utf8ByteSize ≤ FileTree.longestPath) ∧
      ended.2.exitCode = 1 ∧ job.Replaces made ended.1 [.throughput] ∧
      ended.1.read (job.path .responseTime) = .ok (Utf8.ofString "an older report\n") := by
  intro words file files made scan job ended
  let given : Given := ⟨[("output-dir", "new/.."), ("clients", "1"), ("max-replicas", "0")]⟩
  have hread : Invocation.read parseAgree.arguments words = .ok (.run given) := by decide +kernel
  have hscan : Call.agreementScan ⟨given, Environment.withFile ⟨[]⟩ files, []⟩ = scan := by
    decide +kernel
  have hout : Call.outputDirectory ⟨given, Environment.withFile ⟨[]⟩ files, []⟩ = ⟨"new/.."⟩ := by
    decide +kernel
  have hjob : parseAgree.job? words ⟨[]⟩ [] files = some job := by
    rw [job?, hread]
    dsimp only
    rw [Call.job?, hscan, hout]
  have hready : job.Ready files := ⟨by decide +kernel, by decide⟩
  have hhome : files.isDirectory ⟨"."⟩ = true := by decide +kernel
  have hmade : files.ensureDirectories job.output = (made, .ok ()) := by decide +kernel
  have hplain : ∀ metric, made.isDirectory (job.path metric) = false := by
    intro metric
    cases metric <;> decide +kernel
  have hshort : ∀ metric, (job.path metric).text.utf8ByteSize ≤ FileTree.longestPath := by
    intro metric
    cases metric <;> decide +kernel
  have hended : parseAgree.run words ⟨[]⟩ [] files = (ended.1, ended.2) := Prod.mk.eta.symm
  obtain ⟨-, -, -, hends⟩ := run_replaces hjob hready hhome hmade hplain hshort hended
  have hthroughput : (job.lines .throughput made).isOk = true := by decide +kernel
  have hresponseTimes : (job.lines .responseTime made).isOk = false := by decide +kernel
  split at hends
  · rename_i h
    rw [h] at hthroughput
    cases hthroughput
  · have hold : made.read (job.path .responseTime) = .ok (Utf8.ofString "an older report\n") := by
      decide +kernel
    have hspared : ended.1.read (job.path .responseTime) = made.read (job.path .responseTime) := by
      rw [FileTree.read, hends.2.spared _ (by decide), FileTree.read]
    exact ⟨hjob, hready, hhome, hmade, hplain, hshort, hends.1, hends.2, hspared.trans hold⟩
  · rename_i h
    rw [h] at hresponseTimes
    cases hresponseTimes

/-! ### What is in the way of a report -/

/-- Whether a command cannot make a report although all directories that it needs are there or can
be made, there is no directory at the path of a report, and no log is broken. -/
def Thwarted (command : CommandName) (words : List String) (environment : Environment)
    (files : FileTree) : Prop :=
  ∃ job made, command.job? words environment [] files = some job ∧ job.Ready files ∧
    files.isDirectory ⟨"."⟩ = true ∧ files.ensureDirectories job.output = (made, .ok ()) ∧
    (∀ metric, files.isDirectory (job.path metric) = false) ∧
    (∀ metric, (job.lines metric made).isOk = true) ∧
    (command.run words environment [] files).2.exitCode = 1

/-- A long path to the working directory: a dot and slashes behind it. -/
def dotted (slashes : ℕ) : Path := ⟨String.ofList ('.' :: List.replicate slashes Path.slash)⟩

lemma steps_dotted (slashes : ℕ) : (dotted slashes).steps = ["."] := by
  have hslashes : ∀ n, Path.parts (List.replicate n Path.slash) = [] := by
    intro n
    induction n with
    | zero => rfl
    | succ n ih => rw [List.replicate_succ, Path.parts_slash_cons, ih]
  have hparts : Path.parts (dotted slashes).text.toList = [['.']] := by
    rw [dotted, String.toList_ofList]
    cases slashes with
    | zero => rfl
    | succ n =>
      have hfront := Path.parts_append_slash ['.'] (List.replicate n Path.slash)
      rw [hslashes, List.append_nil] at hfront
      exact hfront
  exact congrArg (List.map String.ofList) hparts

lemma utf8ByteSize_dotted (slashes : ℕ) : (dotted slashes).text.utf8ByteSize = slashes + 1 := by
  have hslashes : ∀ n, (String.ofList (List.replicate n Path.slash)).utf8ByteSize = n := by
    intro n
    induction n with
    | zero => rfl
    | succ n ih =>
      rw [List.replicate_succ, utf8ByteSize_ofList_cons, ih]
      exact Nat.add_comm 1 n
  rw [dotted, utf8ByteSize_ofList_cons, hslashes]
  exact Nat.add_comm 1 slashes

lemma isDirectory_dotted {slashes : ℕ} (hshort : slashes < FileTree.longestPath)
    (hhome : files.find? files.home = some .directory) :
    files.isDirectory (dotted slashes) = true := by
  have hnul : '\x00' ∉ (dotted slashes).text.toList := by
    rw [dotted, String.toList_ofList, List.mem_cons, List.mem_replicate]
    rintro (h | ⟨-, h⟩) <;> exact absurd h (by decide)
  have hlegal : (dotted slashes).IsLegal := by
    refine ⟨hnul, fun hempty => ?_, by rw [utf8ByteSize_dotted]; exact hshort⟩
    have hsize := utf8ByteSize_dotted slashes
    rw [hempty] at hsize
    exact absurd hsize (Nat.succ_ne_zero slashes).symm
  have hleads : files.Leads files.home ["."] files.home :=
    FileTree.leads_cons.mpr ⟨hhome, .inl rfl, FileTree.leads_nil.mpr ⟨rfl, hhome⟩⟩
  have hrelative : (dotted slashes).isAbsolute = false := by
    rw [Path.isAbsolute, dotted, String.toList_ofList]
    rfl
  refine FileTree.isDirectory_iff.mpr ⟨files.home, FileTree.resolve_eq_ok.mpr ⟨hlegal, ?_⟩⟩
  rw [steps_dotted, FileTree.start, hrelative]
  exact hleads

/-- Where the first report has no place, none is made. -/
lemma exitCode_run_of_place?_eq_none (hjob : command.job? words environment input files = some job)
    (hready : job.Ready files) (hmade : files.ensureDirectories job.output = (made, .ok ()))
    (hplace : made.place? (job.path .throughput) = none) :
    (command.run words environment input files).2.exitCode = 1 := by
  obtain ⟨grown, found, hgrown, -, hready', hrun⟩ := hready.exists_made
  obtain ⟨rfl, rfl⟩ := Prod.mk.inj (hmade.symm.trans hgrown)
  have hnone : job.report? .throughput made = none := by
    rw [ReportJob.report?, hplace]
    cases job.lines .throughput made <;> rfl
  rw [(run_of_job hjob).2, hrun]
  dsimp only
  rw [hready'.reports_eq, hnone]
  rfl

/-- A directory that is made on the way to that of the reports has the name of a report. -/
lemma thwarted_by_made_directory :
    Thwarted .parseAgree ["--max-replicas", "0", "--clients", "0", "--output-dir", "a/tp_r0/.."]
      ⟨[]⟩ (.empty ["w"]) := by
  let files : FileTree := .empty ["w"]
  let made := (files.put ["w", "a"] .directory).put ["w", "a", "tp_r0"] .directory
  let scan : AgreementScan := ⟨⟨"."⟩, 0, 0, "adaptivetree"⟩
  let given : Given := ⟨[("output-dir", "a/tp_r0/.."), ("clients", "0"), ("max-replicas", "0")]⟩
  let job := scan.job ⟨"a/tp_r0/.."⟩
  have hread : Invocation.read parseAgree.arguments
      ["--max-replicas", "0", "--clients", "0", "--output-dir", "a/tp_r0/.."] =
        .ok (.run given) := by
    decide +kernel
  have hscan : Call.agreementScan ⟨given, Environment.withFile ⟨[]⟩ files, []⟩ = scan := by
    decide +kernel
  have hout : Call.outputDirectory ⟨given, Environment.withFile ⟨[]⟩ files, []⟩ =
      ⟨"a/tp_r0/.."⟩ := by
    decide +kernel
  have hjob : parseAgree.job? ["--max-replicas", "0", "--clients", "0", "--output-dir", "a/tp_r0/.."]
      ⟨[]⟩ [] files = some job := by
    rw [job?, hread]
    dsimp only
    rw [Call.job?, hscan, hout]
  have hready : job.Ready files := ⟨by decide +kernel, by decide⟩
  have hmade : files.ensureDirectories job.output = (made, .ok ()) := by decide +kernel
  have hplace : made.place? (job.path .throughput) = none := by decide +kernel
  refine ⟨job, made, hjob, hready, by decide +kernel, hmade, ?_, ?_,
    exitCode_run_of_place?_eq_none hjob hready hmade hplace⟩
  · intro metric
    cases metric <;> decide +kernel
  · intro metric
    cases metric <;> decide +kernel

/-- No name fits behind a path that is nearly as long as a path can be. -/
lemma thwarted_by_long_path :
    Thwarted .parseAgree ["--max-replicas", "0", "--clients", "0"]
      ⟨[("SMELT_OUTPUT_DIR", (dotted 4090).text)]⟩ (.empty ["w"]) := by
  let files : FileTree := .empty ["w"]
  let scan : AgreementScan := ⟨⟨"."⟩, 0, 0, "adaptivetree"⟩
  let given : Given := ⟨[("clients", "0"), ("max-replicas", "0")]⟩
  let environment : Environment := ⟨[("SMELT_OUTPUT_DIR", (dotted 4090).text)]⟩
  let job := scan.job (dotted 4090)
  have hread : Invocation.read parseAgree.arguments
      ["--max-replicas", "0", "--clients", "0"] = .ok (.run given) := by
    decide +kernel
  have hfile : environment.withFile files = environment := by
    have hnearest : EnvironmentFile.nearest? files = none := by decide +kernel
    rw [Environment.withFile, hnearest]
  have hscan : Call.agreementScan ⟨given, environment, []⟩ = scan := by decide +kernel
  have hout : Call.outputDirectory ⟨given, environment, []⟩ = dotted 4090 := by
    have hgiven : given.path? "output-dir" = none := by decide +kernel
    simp [Call.outputDirectory, hgiven, Call.defaults, ScanDefaults.ofEnvironment, Environment.get?,
      environment]
  have hjob : parseAgree.job? ["--max-replicas", "0", "--clients", "0"] environment [] files =
      some job := by
    rw [job?, hread]
    dsimp only
    rw [hfile, Call.job?, hscan, hout]
  have hhome : files.isDirectory ⟨"."⟩ = true := by decide +kernel
  have htree : SlashFree scan.tree := by decide
  have hready : job.Ready files := ⟨hhome, htree⟩
  have hmade : files.ensureDirectories job.output = (files, .ok ()) :=
    FileTree.ensureBelow_of_stands (.inr (isDirectory_dotted (by decide) rfl)) _
  have hlines : ∀ metric, (job.lines metric files).isOk = true := by
    have hcollect : ∀ metric, ((scan.job ⟨"."⟩).lines metric files).isOk = true := by
      intro metric
      cases metric <;> decide +kernel
    exact hcollect
  have hnowhere : ∀ metric spot, files.resolve (job.path metric) ≠ .ok spot := by
    intro metric spot hresolve
    have hshort := (FileTree.resolve_eq_ok.mp hresolve).1.short
    have hname : (job.name metric).utf8ByteSize = 5 := by cases metric <;> decide +kernel
    have houtput : job.output.text.utf8ByteSize = 4091 := utf8ByteSize_dotted 4090
    have hrelative := Path.isAbsolute_of_isName (job.isReportName metric).isName
    rw [ReportJob.path, Path.join_text hrelative, String.utf8ByteSize_append,
      String.utf8ByteSize_append, hname, houtput, FileTree.longestPath] at hshort
    omega
  have hplace : files.place? (job.path .throughput) = none := by
    refine Option.eq_none_iff_forall_ne_some.mpr fun place hplace => ?_
    obtain ⟨-, spot, -, -, hresolve⟩ := FileTree.place?_eq_some.mp hplace
    exact hnowhere _ _ hresolve
  refine ⟨job, files, hjob, hready, hhome, hmade, fun metric => ?_, hlines,
    exitCode_run_of_place?_eq_none hjob hready hmade hplace⟩
  rw [Bool.eq_false_iff]
  intro hdirectory
  obtain ⟨there, hresolve⟩ := FileTree.isDirectory_iff.mp hdirectory
  exact hnowhere metric _ hresolve

/-- There are two ways to be thwarted, and a run that only starts well can meet either. -/
theorem thwarted_by_made_directory_or_long_path :
    Thwarted .parseAgree ["--max-replicas", "0", "--clients", "0", "--output-dir", "a/tp_r0/.."]
        ⟨[]⟩ (.empty ["w"]) ∧
      Thwarted .parseAgree ["--max-replicas", "0", "--clients", "0"]
        ⟨[("SMELT_OUTPUT_DIR", (dotted 4090).text)]⟩ (.empty ["w"]) :=
  ⟨thwarted_by_made_directory, thwarted_by_long_path⟩

end CommandName

end BenchReport
