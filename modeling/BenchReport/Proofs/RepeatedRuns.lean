import BenchReport.Proofs.ReportJobs

/-!
# Making reports again

A command that makes reports can be run again in the tree that it left.  Nothing changes then,
whether the first run succeeded or stopped half way, and the exit code is the same
(`CommandName.run_again`).

The directory of the reports is there already, or it can be made no more than before
(`FileTree.ensureDirectories_again`).  The reports of the first run are not taken for logs, so the
lines are the same.  They go to the same places in the same order, and a tree does not remember what
stood at a place before (`FileTree.put_again`, `FileTree.put_put_again`).  Last, the arguments have
the same defaults as before: directories and reports are no environment files
(`ReportJob.Ready.withFile_run`).
-/

namespace BenchReport

namespace FileTree

/-! ## Putting again -/

lemma put_again (tree : FileTree) (location : Location) (entry : Entry) :
    (tree.put location entry).put location entry = tree.put location entry := by
  simp [put]

/-- Two entries that are put again, in the same order, stand as before. -/
lemma put_put_again (tree : FileTree) {first second : Location} (hne : first ≠ second)
    (entry other : Entry) :
    (((tree.put first entry).put second other).put first entry).put second other =
      (tree.put first entry).put second other := by
  simp [put, hne, List.filter_filter, Bool.and_comm]

end FileTree

/-! ## Environment files -/

/-- Which environment file is read depends on the files of that name only. -/
lemma EnvironmentFile.nearest?_congr {tree other : FileTree} (hhome : other.home = tree.home)
    (h : ∀ location : Location, location.getLast? = some fileName →
      other.find? location = tree.find? location ∨
        tree.find? location = none ∧ other.find? location = some .directory) :
    nearest? other = nearest? tree := by
  rw [nearest?, nearest?, ← List.head?_filterMap, ← List.head?_filterMap, hhome]
  refine congrArg List.head? (List.filterMap_congr fun location hlocation => ?_)
  obtain ⟨n, -, rfl⟩ := List.mem_map.mp hlocation
  rcases h _ List.getLast?_concat with heq | ⟨hnone, hdirectory⟩
  · rw [heq]
  · rw [hnone, hdirectory]

/-- New directories leave the environment as it is. -/
lemma FileTree.Grows.withFile {files made : FileTree} {places : List Location}
    (h : Grows files made places) (environment : Environment) :
    environment.withFile made = environment.withFile files := by
  have hnearest := EnvironmentFile.nearest?_congr h.home fun location _ =>
    (h.entries location).imp_right fun ⟨hnone, hdirectory, _⟩ => ⟨hnone, hdirectory⟩
  rw [Environment.withFile, Environment.withFile, hnearest]

/-- A file of another name leaves the environment as it is. -/
lemma FileTree.withFile_put (tree : FileTree) {location : Location} (entry : Entry)
    (hlast : location.getLast? ≠ some EnvironmentFile.fileName) (environment : Environment) :
    environment.withFile (tree.put location entry) = environment.withFile tree := by
  have hhome : (tree.put location entry).home = tree.home := rfl
  have hnearest := EnvironmentFile.nearest?_congr hhome fun other hother =>
    .inl (find?_put_of_ne tree entry fun heq => hlast (heq ▸ hother))
  rw [Environment.withFile, Environment.withFile, hnearest]

/-! ## Jobs -/

namespace ReportJob

variable {job : ReportJob} {files : FileTree} {place : Location} {entry : Entry}

lemma Ready.place_ne {place' : Location} {entry' : Entry}
    (h : job.report? .throughput files = some (place, entry))
    (h' : job.report? .responseTime files = some (place', entry')) : place ≠ place' := by
  obtain ⟨-, -, hplace, -⟩ := report?_eq_some.mp h
  obtain ⟨-, -, hplace', -⟩ := report?_eq_some.mp h'
  have hlast := FileTree.getLast?_place (job.isReportName _).isName hplace
  have hlast' := FileTree.getLast?_place (job.isReportName _).isName hplace'
  rintro rfl
  exact name_ne_of_ne (by decide) (Option.some.inj (hlast.symm.trans hlast'))

/-- Making the reports again changes nothing, and it succeeds or fails as before. -/
lemma Ready.reports_again (hready : job.Ready files) :
    job.reports (job.reports files).1 = job.reports files := by
  rw [hready.reports_eq]
  cases htp : job.report? .throughput files with
  | none => simp only [hready.reports_eq, htp]
  | some found =>
    obtain ⟨place, entry⟩ := found
    obtain ⟨-, -, hplace, -⟩ := report?_eq_some.mp htp
    have hready' := hready.put hplace entry
    have hreport := hready.report?_put htp
    cases hrt : job.report? .responseTime files with
    | none =>
      dsimp only
      rw [hready'.reports_eq, hreport, hreport, htp, hrt]
      dsimp only
      rw [FileTree.put_again]
    | some found' =>
      obtain ⟨place', entry'⟩ := found'
      dsimp only
      have hrt' := (hreport .responseTime).trans hrt
      obtain ⟨-, -, hplace', -⟩ := report?_eq_some.mp hrt'
      have hreport' := hready'.report?_put hrt'
      rw [(hready'.put hplace' entry').reports_eq, hreport', hreport', hreport, hreport, htp, hrt]
      dsimp only
      rw [FileTree.put_put_again _ (Ready.place_ne htp hrt)]

lemma Ready.withFile_reports (hready : job.Ready files) (environment : Environment) :
    environment.withFile (job.reports files).1 = environment.withFile files := by
  refine hready.reports_induction
    (fun tree => environment.withFile tree = environment.withFile files) rfl ?_
  intro tree metric place entry _ h hsame
  obtain ⟨-, -, hplace, -⟩ := report?_eq_some.mp h
  have hreport := job.isReportName metric
  obtain ⟨c, -, -, hcount⟩ := hreport.endsInCount
  have hne : job.name metric ≠ EnvironmentFile.fileName := hcount.ne (by decide)
  rw [FileTree.withFile_put tree entry ?_ environment, hsame]
  rw [FileTree.getLast?_place hreport.isName hplace]
  exact fun heq => hne (Option.some.inj heq)

lemma Ready.stands_reports (hready : job.Ready files) {path : Path} (hstands : files.Stands path) :
    (job.reports files).1.Stands path := by
  refine hready.reports_induction (·.Stands path) hstands ?_
  intro tree metric place entry _ h htree
  obtain ⟨-, -, hplace, -⟩ := report?_eq_some.mp h
  exact htree.imp_right (FileTree.isDirectory_put (FileTree.find?_place hplace))

/-- Nothing that a job writes is taken for a log. -/
lemma Ready.sameLogs_run (hready : job.Ready files) :
    SameLogs (job.run files).1 (files.ensureDirectories job.output).1 job.input job.tree := by
  obtain ⟨made, outcome, hmade, -, hready', hrun⟩ := hready.exists_made
  rw [hrun, hmade]
  cases outcome with
  | error cause => exact fun _ _ => rfl
  | ok found => exact hready'.sameLogs_reports

lemma Ready.withFile_run (hready : job.Ready files) (environment : Environment) :
    environment.withFile (job.run files).1 = environment.withFile files := by
  obtain ⟨made, outcome, -, hgrows, hready', hrun⟩ := hready.exists_made
  rw [hrun]
  cases outcome with
  | error cause => exact hgrows.withFile environment
  | ok found => exact (hready'.withFile_reports environment).trans (hgrows.withFile environment)

/-- A job that is done again changes nothing, and it succeeds or fails as before. -/
theorem Ready.run_run (hready : job.Ready files) :
    job.run (job.run files).1 = job.run files := by
  obtain ⟨made, outcome, hmade, -, hready', hrun⟩ := hready.exists_made
  rw [hrun]
  cases outcome with
  | error cause =>
    obtain ⟨later, hlater, hfails⟩ := FileTree.ensureDirectories_again hmade
    rw [run, hlater]
    cases later with
    | error cause => rfl
    | ok found => cases hfails
  | ok found =>
    have hstands := hready'.stands_reports (FileTree.stands_ensureDirectories hmade)
    rw [run, FileTree.ensureDirectories, FileTree.ensureBelow_of_stands hstands]
    exact hready'.reports_again

end ReportJob

namespace CommandName

variable {command : CommandName} {words : List String} {environment : Environment}
  {input : List UInt8} {files after : FileTree} {outcome : Outcome}

lemma job?_congr (h : environment.withFile after = environment.withFile files) :
    command.job? words environment input after = command.job? words environment input files := by
  rw [job?, job?, h]

/-- A command that makes reports, but not with these arguments, leaves the tree as it is and ends in
the same way in every tree. -/
lemma run_of_job?_eq_none (hcommand : command = .parseAgree ∨ command = .parseKvs)
    (h : command.job? words environment input files = none) :
    ∃ outcome, ∀ tree, command.run words environment input tree = (tree, outcome) := by
  rw [job?] at h
  split at h
  · rcases hcommand with rfl | rfl <;> cases h
  · rename_i hread
    cases hwords : Invocation.read command.arguments words with
    | error error => exact ⟨_, fun tree => by rw [run, hwords]⟩
    | ok invocation =>
      cases invocation with
      | help => exact ⟨_, fun tree => by rw [run, hwords]⟩
      | version => exact ⟨_, fun tree => by rw [run, hwords]⟩
      | run given => exact absurd hwords (hread given)

/-- **Making reports again.**  A command that makes reports, run a second time in the tree that it
left, leaves that tree as it is and ends with the same exit code, whether it succeeded or not.  None
of the reports is taken for a log, and the lines that are collected are the same as before there
were any reports. -/
theorem run_again (hcommand : command = .parseAgree ∨ command = .parseKvs)
    (hready : ∀ job ∈ command.job? words environment input files, job.Ready files)
    (h : command.run words environment input files = (after, outcome)) :
    ∃ later, command.run words environment input after = (after, later) ∧
      later.exitCode = outcome.exitCode ∧
      ∀ job ∈ command.job? words environment input files,
        SameLogs after (files.ensureDirectories job.output).1 job.input job.tree ∧
          ∀ metric,
            job.lines metric after = job.lines metric (files.ensureDirectories job.output).1 := by
  cases hjob : command.job? words environment input files with
  | none =>
    obtain ⟨same, hsame⟩ := run_of_job?_eq_none hcommand hjob
    obtain ⟨rfl, rfl⟩ := Prod.mk.inj ((hsame files).symm.trans h)
    exact ⟨same, hsame files, rfl, fun _ hmem => by cases hmem⟩
  | some job =>
    have hjobReady := hready job hjob
    obtain ⟨htree, hcode⟩ := run_of_job hjob
    rw [h] at htree hcode
    dsimp only at htree hcode
    have hagain := hjobReady.run_run
    have hjob' := (job?_congr (hjobReady.withFile_run environment)).trans hjob
    rw [← htree] at hagain hjob'
    obtain ⟨htree', hcode'⟩ := run_of_job hjob'
    rw [hagain] at htree' hcode'
    refine ⟨_, Prod.ext (htree'.trans htree.symm) rfl, hcode'.trans hcode.symm, ?_⟩
    rintro _ ⟨⟩
    have hsame := hjobReady.sameLogs_run
    rw [← htree] at hsame
    exact ⟨hsame, job.lines_congr hsame⟩

/-- The reports go to the directory of the logs, and the run stops at a log that is broken for
response times only. -/
theorem run_again_half_way :
    let words := ["--fpath", "logs", "--max-clients", "1", "--output-dir", "logs/"]
    let files : FileTree := ⟨["w"], [(["w"], .directory), (["w", "logs"], .directory),
      (["w", "logs", "client_kvs_id_0_num_1"],
        .file (.bytes (Utf8.ofString "||\t0\t0\t5000\t1000\tnone\tnone\t9000\t2000\n")))]⟩
    let first := parseKvs.run words ⟨[]⟩ [] files
    let second := parseKvs.run words ⟨[]⟩ [] first.1
    (∀ job ∈ parseKvs.job? words ⟨[]⟩ [] files, job.Ready files) ∧
      first.2.exitCode = 1 ∧ first.1.isFile ⟨"logs/tp_numc1"⟩ = true ∧
      second.1 = first.1 ∧ second.2.exitCode = 1 := by
  intro words files first second
  let given : Given := ⟨[("output-dir", "logs/"), ("max-clients", "1"), ("fpath", "logs")]⟩
  let scan : StoreScan := ⟨⟨"logs"⟩, 1, "adaptivetree", false⟩
  have hread : Invocation.read parseKvs.arguments words = .ok (.run given) := by decide +kernel
  have hscan : Call.storeScan ⟨given, Environment.withFile ⟨[]⟩ files, []⟩ = scan := by
    decide +kernel
  have hready : ∀ job ∈ parseKvs.job? words ⟨[]⟩ [] files, job.Ready files := by
    rw [job?, hread]
    dsimp only
    rw [Call.job?, hscan]
    rintro _ ⟨⟩
    exact ⟨by decide +kernel, by decide⟩
  have hcode : first.2.exitCode = 1 := by decide +kernel
  have hfile : first.1.isFile ⟨"logs/tp_numc1"⟩ = true := by decide +kernel
  have hfirst : parseKvs.run words ⟨[]⟩ [] files = (first.1, first.2) := Prod.mk.eta.symm
  obtain ⟨later, hsecond, hsame, -⟩ := run_again (.inr rfl) hready hfirst
  have hlater : second = (first.1, later) := hsecond
  clear_value second first
  subst hlater
  exact ⟨hready, hcode, hfile, rfl, hsame.trans hcode⟩

end CommandName

end BenchReport
