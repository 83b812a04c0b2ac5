import BenchReport.Plot.Store
import BenchReport.Proofs.BarCharts
import BenchReport.Proofs.ChangedFile
import BenchReport.Proofs.RoundTrip
import BenchReport.Proofs.Runs

/-!
# What a plot of store reports writes

A plot of store reports looks at two reports, one for each metric, and draws two charts of each of
them.  `StorePlot.readAt` are the rows of a report, none where there is no such file, and
`StorePlot.pictures` the charts that are due for some rows: that of the writes and that of the reads,
or none if all rows are hybrid.  `FileTree.Draws` says that a tree comes from another one by drawing
some pictures and in no other way.

The charts stand under four names (`StorePlot.chartPath_inj_of_place?_eq`), none of which is that of a
report (`StorePlot.not_isReportName`).  So whatever is drawn first hides nothing of what is drawn
later, and the second report is read as it was in the beginning (`StorePlot.KeepsReports.readAt_eq`).
The charts of a report are drawn one after the other, and so are the two reports
(`StorePlot.paints_gather`).

`StorePlot.run_draws` tells what a plot comes to in each state of the two reports.
-/

namespace BenchReport

/-! ## Drawing pictures -/

namespace FileTree

/-- Whether a tree comes from another one by drawing some pictures. -/
structure Draws (before after : FileTree) (pictures : List (Path × Figure)) : Prop where
  /-- No directory is made or taken away. -/
  directories : before.SameDirectories after
  /-- Each picture stands at its path. -/
  drawn : ∀ picture ∈ pictures, ∃ place, before.place? picture.1 = some place ∧
    after.find? place = some (.file (.drawn picture.2))
  /-- Everything else is as it was. -/
  kept : ∀ location, (∀ picture ∈ pictures, before.place? picture.1 ≠ some location) →
    after.find? location = before.find? location

namespace Draws

variable {before between after : FileTree} {first second : List (Path × Figure)}

lemma nil (tree : FileTree) : tree.Draws tree [] := ⟨.refl tree, by simp, fun _ _ => rfl⟩

/-- A picture is drawn by putting it at its place. -/
lemma put {path : Path} {place : Location} (h : before.place? path = some place) (figure : Figure) :
    before.Draws (before.put place (.file (.drawn figure))) [(path, figure)] where
  directories := sameDirectories_put _ (find?_place h)
  drawn picture hpicture := by
    obtain rfl := List.mem_singleton.mp hpicture
    exact ⟨place, h, find?_put_self before _ (ne_nil_of_find?_ne_directory (find?_place h))⟩
  kept location hlocation := by
    refine find?_put_of_ne before _ ?_
    rintro rfl
    exact hlocation _ List.mem_cons_self h

/-- Pictures that are drawn at other places leave those before them. -/
lemma append (hfirst : before.Draws between first) (hsecond : between.Draws after second)
    (hplaces : ∀ picture ∈ second, between.place? picture.1 = before.place? picture.1)
    (hapart : ∀ picture ∈ first, ∀ other ∈ second, ∀ place, before.place? picture.1 = some place →
      before.place? other.1 ≠ some place) : before.Draws after (first ++ second) where
  directories := hfirst.directories.trans hsecond.directories
  drawn picture hpicture := by
    rcases List.mem_append.mp hpicture with hpicture | hpicture
    · obtain ⟨place, hplace, hdrawn⟩ := hfirst.drawn picture hpicture
      refine ⟨place, hplace, (hsecond.kept place fun other hother => ?_).trans hdrawn⟩
      rw [hplaces other hother]
      exact hapart picture hpicture other hother place hplace
    · obtain ⟨place, hplace, hdrawn⟩ := hsecond.drawn picture hpicture
      exact ⟨place, (hplaces picture hpicture).symm.trans hplace, hdrawn⟩
  kept location hlocation := by
    rw [List.forall_mem_append] at hlocation
    rw [← hfirst.kept location hlocation.1]
    refine hsecond.kept location fun other hother => ?_
    rw [hplaces other hother]
    exact hlocation.2 other hother

end Draws

lemma isFile_eq_true {tree : FileTree} {path : Path} :
    tree.isFile path = true ↔ ∃ content, tree.lookup path = .ok (.file content) := by
  rw [isFile]
  cases tree.lookup path with
  | error cause => simp
  | ok entry => cases entry <;> simp

end FileTree

/-! ## The charts of a report -/

/-- Whether a chart shows any of some rows. -/
def StoreRow.AnyShown (rows : List StoreRow) : Prop :=
  ∃ row ∈ rows, row.variant = .sequential ∨ row.variant = .smelt

instance (rows : List StoreRow) : Decidable (StoreRow.AnyShown rows) :=
  inferInstanceAs (Decidable (∃ row ∈ rows, row.variant = .sequential ∨ row.variant = .smelt))

lemma StoreChart.isEmpty_ofRows (rows : List StoreRow) (operation : Operation) (metric : Metric) :
    (ofRows rows operation metric).isEmpty = true ↔ ¬ StoreRow.AnyShown rows := by
  rw [ofRows, BarChart.isEmpty_ofSeries]
  simp only [bars, points, List.map_cons, List.map_nil, List.forall_mem_cons, List.not_mem_nil,
    List.map_eq_nil_iff, List.filter_eq_nil_iff, decide_eq_true_eq, StoreRow.AnyShown]
  constructor
  · rintro ⟨hsequential, hsmelt, -⟩ ⟨row, hrow, hvariant | hvariant⟩
    · exact hsequential row hrow hvariant
    · exact hsmelt row hrow hvariant
  · intro h
    exact ⟨fun row hrow hvariant => h ⟨row, hrow, .inl hvariant⟩,
      fun row hrow hvariant => h ⟨row, hrow, .inr hvariant⟩, fun _ hnone => hnone.elim⟩

namespace StorePlot

variable (plot : StorePlot) (files : FileTree)

/-- The rows of the report on a metric, none where there is no such file. -/
def readAt (metric : Metric) : Except ReportError (List StoreRow) :=
  let path := plot.reportPath metric
  if files.isFile path then StoreRow.readReport files path else .ok []

/-- The chart of an operation, and where it is drawn. -/
def picture (rows : List StoreRow) (metric : Metric) (operation : Operation) : Path × Figure :=
  (plot.chartPath operation metric,
    BarDrawing.figure (StoreChart.ofRows rows operation metric) plot.style)

/-- The chart of an operation, unless there is nothing to show. -/
def due (rows : List StoreRow) (metric : Metric) (operation : Operation) : List (Path × Figure) :=
  if StoreRow.AnyShown rows then [plot.picture rows metric operation] else []

/-- The charts that are drawn of the report on a metric. -/
def pictures (metric : Metric) (rows : List StoreRow) : List (Path × Figure) :=
  Operation.all.flatMap (plot.due rows metric)

/-- The paths that are returned for the report on a metric: those of both charts or none. -/
def paths (metric : Metric) (rows : List StoreRow) : List Path :=
  if StoreRow.AnyShown rows then [plot.chartPath .write metric, plot.chartPath .read metric] else []

variable {plot files} {files' : FileTree} {operation : Operation} {metric : Metric}
  {rows : List StoreRow} {picture : Path × Figure}

lemma map_fst_pictures (metric : Metric) (rows : List StoreRow) :
    (plot.pictures metric rows).map Prod.fst = plot.paths metric rows := by
  rw [pictures, paths, Operation.all, List.flatMap_cons, List.flatMap_singleton, due, due]
  split_ifs <;> rfl

lemma fst_of_mem_due (h : picture ∈ plot.due rows metric operation) :
    picture.1 = plot.chartPath operation metric := by
  rw [due] at h
  split_ifs at h
  · rw [List.mem_singleton.mp h, StorePlot.picture]
  · cases h

lemma exists_of_mem_pictures (h : picture ∈ plot.pictures metric rows) :
    ∃ operation, picture.1 = plot.chartPath operation metric := by
  obtain ⟨operation, -, hpicture⟩ := List.mem_flatMap.mp h
  exact ⟨operation, fst_of_mem_due hpicture⟩

lemma exists_chartPath_of_mem_pictures (h : picture ∈ plot.pictures metric rows) :
    ∃ operation metric, picture.1 = plot.chartPath operation metric := by
  obtain ⟨operation, hpath⟩ := exists_of_mem_pictures h
  exact ⟨operation, metric, hpath⟩

/-! ## Where charts stand -/

/-- What the names of charts end in. -/
def ending (operation : Operation) (metric : Metric) : String :=
  "-" ++ operation.tag ++ "-" ++ metric.tag ++ ".svg"

lemma length_toList_ending (operation : Operation) (metric : Metric) :
    (ending operation metric).toList.length = 9 := by
  cases operation <;> cases metric <;> rfl

lemma getLast?_toList_append_ending (start : String) (operation : Operation) (metric : Metric) :
    (start ++ ending operation metric).toList.getLast? = some 'g' := by
  rw [String.toList_append, List.getLast?_append]
  cases operation <;> cases metric <;> rfl

/-- Names of charts that end alike are about the same. -/
lemma append_ending_inj {start start' : String} {operation' : Operation} {metric' : Metric}
    (h : start ++ ending operation metric = start' ++ ending operation' metric') :
    operation = operation' ∧ metric = metric' := by
  have hnames := congrArg String.toList h
  rw [String.toList_append, String.toList_append] at hnames
  have hends : (ending operation metric).toList = (ending operation' metric').toList :=
    (List.append_inj' hnames (by rw [length_toList_ending, length_toList_ending])).2
  clear hnames h
  revert hends
  cases operation <;> cases metric <;> cases operation' <;> cases metric' <;> decide

/-- The path of a chart ends in a name, and that has its own ending. -/
lemma exists_steps_chartPath (plot : StorePlot) (operation : Operation) (metric : Metric) :
    ∃ front start,
      (plot.chartPath operation metric).steps = front ++ [start ++ ending operation metric] ∧
      Path.IsName (start ++ ending operation metric) := by
  have htext : (plot.chartPath operation metric).text.toList =
      plot.name.toList ++ (ending operation metric).toList := by
    simp [chartPath, ending]
  have hne : (ending operation metric).toList ≠ [] := by
    rw [← List.length_pos_iff, length_toList_ending]
    decide
  have hslash : Path.slash ∉ (ending operation metric).toList := by
    cases operation <;> cases metric <;> decide
  obtain ⟨front, start, hparts, hstart⟩ := Path.exists_parts_append hne hslash plot.name.toList
  have hlast := getLast?_toList_append_ending (String.ofList start) operation metric
  refine ⟨front.map String.ofList, String.ofList start, ?_, ?_, ?_, ?_, ?_⟩
  · have hsteps : (plot.chartPath operation metric).steps =
        (Path.parts (plot.chartPath operation metric).text.toList).map String.ofList := rfl
    rw [hsteps, htext, hparts, List.map_append, List.map_singleton, String.ofList_append,
      String.ofList_toList]
  · intro heq
    rw [heq] at hlast
    cases hlast
  · rw [String.toList_append, String.toList_ofList, List.mem_append, not_or]
    exact ⟨hstart, hslash⟩
  · intro heq
    rw [heq] at hlast
    exact absurd hlast (by decide)
  · intro heq
    rw [heq] at hlast
    exact absurd hlast (by decide)

/-- A chart stands under a name with its ending. -/
lemma exists_getLast?_place {place : Location}
    (h : files.place? (plot.chartPath operation metric) = some place) :
    ∃ start, place.getLast? = some (start ++ ending operation metric) := by
  obtain ⟨front, start, hsteps, hname⟩ := plot.exists_steps_chartPath operation metric
  obtain ⟨-, -, -, -, there, -, rfl⟩ := (FileTree.place?_eq_some_of_steps hname hsteps).mp h
  exact ⟨start, List.getLast?_concat⟩

/-- No two charts have the same place. -/
lemma chartPath_inj_of_place?_eq {operation' : Operation} {metric' : Metric} {place : Location}
    (h : files.place? (plot.chartPath operation metric) = some place)
    (h' : files.place? (plot.chartPath operation' metric') = some place) :
    operation = operation' ∧ metric = metric' := by
  obtain ⟨start, hlast⟩ := exists_getLast?_place h
  obtain ⟨start', hlast'⟩ := exists_getLast?_place h'
  exact append_ending_inj (Option.some.inj (hlast.symm.trans hlast'))

/-- No chart stands under the name of a report. -/
lemma not_isReportName {place : Location} {name : String}
    (h : files.place? (plot.chartPath operation metric) = some place)
    (hlast : place.getLast? = some name) : ¬ Report.IsReportName name := by
  intro hname
  obtain ⟨start, hlast'⟩ := exists_getLast?_place h
  obtain ⟨c, -, -, hcount⟩ := hname.endsInCount
  refine hcount.ne ?_ (Option.some.inj (hlast.symm.trans hlast'))
  rw [getLast?_toList_append_ending]
  rfl

/-! ## What is left as it was -/

/-- Whether a tree is as it was but for files under names that no report has. -/
structure KeepsReports (before after : FileTree) : Prop where
  directories : before.SameDirectories after
  kept : ∀ location name, location.getLast? = some name → Report.IsReportName name →
    after.find? location = before.find? location

namespace KeepsReports

variable {before between after : FileTree}

lemma refl (tree : FileTree) : KeepsReports tree tree := ⟨.refl tree, fun _ _ _ _ => rfl⟩

lemma trans (h : KeepsReports before between) (hnext : KeepsReports between after) :
    KeepsReports before after :=
  ⟨h.directories.trans hnext.directories, fun location name hlast hname =>
    (hnext.kept location name hlast hname).trans (h.kept location name hlast hname)⟩

/-- Drawing charts leaves the reports. -/
lemma of_draws (plot : StorePlot) {pictures : List (Path × Figure)} (h : before.Draws after pictures)
    (hcharts : ∀ picture ∈ pictures, ∃ operation metric, picture.1 = plot.chartPath operation metric) :
    KeepsReports before after := by
  refine ⟨h.directories, fun location name hlast hname => ?_⟩
  refine h.kept location fun picture hpicture hplace => ?_
  obtain ⟨operation, metric, hpath⟩ := hcharts picture hpicture
  rw [hpath] at hplace
  exact not_isReportName hplace hlast hname

/-- A chart stands where it stood. -/
lemma place?_chartPath (h : KeepsReports before after) (operation : Operation) (metric : Metric) :
    after.place? (plot.chartPath operation metric) =
      before.place? (plot.chartPath operation metric) := by
  obtain ⟨front, start, hsteps, hname⟩ := plot.exists_steps_chartPath operation metric
  exact h.directories.place?_eq hname hsteps

/-- A report is the same file, or none. -/
lemma lookup_reportPath (h : KeepsReports before after) {content : Content} :
    after.lookup (plot.reportPath metric) = .ok (.file content) ↔
      before.lookup (plot.reportPath metric) = .ok (.file content) := by
  have hname := Report.isReportName_storeName metric plot.maxClients
  rw [FileTree.lookup_eq_file_iff, FileTree.lookup_eq_file_iff, reportPath,
    h.directories.place?_eq hname.isName (Path.steps_join plot.directory hname.isName)]
  refine exists_congr fun place => and_congr_right fun hplace => ?_
  rw [h.kept place _ (FileTree.getLast?_place hname.isName hplace) hname]

/-- What is read of a report is the same. -/
lemma readAt_eq (h : KeepsReports before after) (metric : Metric) :
    plot.readAt after metric = plot.readAt before metric := by
  by_cases hfile : ∃ content, before.lookup (plot.reportPath metric) = .ok (.file content)
  · obtain ⟨content, hbefore⟩ := hfile
    have hafter := h.lookup_reportPath.mpr hbefore
    simp only [readAt, StoreRow.readReport, Report.readRows, FileTree.isFile, FileTree.read, hafter,
      hbefore]
  · have hbefore : before.isFile (plot.reportPath metric) = false := by
      rw [← Bool.not_eq_true, FileTree.isFile_eq_true]
      exact hfile
    have hafter : after.isFile (plot.reportPath metric) = false := by
      rw [← Bool.not_eq_true, FileTree.isFile_eq_true]
      exact mt (Exists.imp fun _ => h.lookup_reportPath.mp) hfile
    simp only [readAt, hbefore, hafter, Bool.false_eq_true, if_false]

end KeepsReports

/-! ## Drawing the charts -/

/-- Whether a run draws pictures and returns their paths. -/
def Paints (run : Run PlotError (List Path)) (before : FileTree) (pictures : List (Path × Figure)) :
    Prop :=
  ∃ after, run.effect before = (after, .ok (pictures.map Prod.fst)) ∧ before.Draws after pictures

/-- Charts of a plot are drawn one after the other if each of them can be drawn as long as the reports
are left as they are, and no path comes up twice. -/
lemma paints_gather (plot : StorePlot) {α : Type} {step : α → Run PlotError (List Path)}
    {due : α → List (Path × Figure)} {items : List α}
    (hsteps : ∀ item ∈ items, ∀ tree, KeepsReports files tree → Paints (step item) tree (due item))
    (hcharts : ∀ item ∈ items, ∀ picture ∈ due item,
      ∃ operation metric, picture.1 = plot.chartPath operation metric)
    (hapart : items.Pairwise fun a b => ∀ picture ∈ due a, ∀ other ∈ due b, picture.1 ≠ other.1)
    (hfiles : KeepsReports files files') :
    Paints (Run.gather step items) files' (items.flatMap due) := by
  induction items generalizing files' with
  | nil => exact ⟨files', rfl, .nil files'⟩
  | cons item rest ih =>
    rw [List.forall_mem_cons] at hsteps hcharts
    rw [List.pairwise_cons] at hapart
    obtain ⟨between, hfirst, hdrawn⟩ := hsteps.1 files' hfiles
    have hkeeps := KeepsReports.of_draws plot hdrawn hcharts.1
    obtain ⟨after, hrest, hothers⟩ := ih hsteps.2 hcharts.2 hapart.2 (hfiles.trans hkeeps)
    refine ⟨after, ?_, hdrawn.append hothers (fun other hother => ?_)
      fun picture hpicture other hother place hplace hplace' => ?_⟩
    · rw [Run.gather, Run.effect_bind, hfirst]
      dsimp only
      rw [Run.effect_bind, hrest, List.flatMap_cons, List.map_append]
      rfl
    · obtain ⟨there, hthere, hother⟩ := List.mem_flatMap.mp hother
      obtain ⟨operation, metric, hpath⟩ := hcharts.2 there hthere other hother
      rw [hpath, hkeeps.place?_chartPath]
    · obtain ⟨there, hthere, hother⟩ := List.mem_flatMap.mp hother
      refine hapart.1 there hthere picture hpicture other hother ?_
      obtain ⟨operation, metric, hpath⟩ := hcharts.1 picture hpicture
      obtain ⟨operation', metric', hpath'⟩ := hcharts.2 there hthere other hother
      rw [hpath] at hplace
      rw [hpath'] at hplace'
      obtain ⟨rfl, rfl⟩ := chartPath_inj_of_place?_eq hplace hplace'
      rw [hpath, hpath']

lemma chartPath_injective {operation' : Operation} {metric' : Metric}
    (h : plot.chartPath operation metric = plot.chartPath operation' metric') :
    operation = operation' ∧ metric = metric' := by
  have htext := congrArg Path.text h
  have hnames : plot.name ++ ending operation metric = plot.name ++ ending operation' metric' := by
    simpa only [chartPath, ending, String.append_assoc] using htext
  exact append_ending_inj hnames

/-- A chart that is due is drawn. -/
lemma paints_drawChart
    (haccepts : ∃ place, files.place? (plot.chartPath operation metric) = some place) :
    Paints (plot.drawChart rows metric operation) files (plot.due rows metric operation) := by
  rw [Paints, drawChart, due]
  by_cases hshown : StoreRow.AnyShown rows
  · obtain ⟨place, hplace⟩ := haccepts
    have hdrawn : ¬ (StoreChart.ofRows rows operation metric).isEmpty = true :=
      fun hempty => StoreChart.isEmpty_ofRows rows operation metric |>.mp hempty hshown
    rw [if_pos hshown, if_neg hdrawn]
    refine ⟨_, ?_, FileTree.Draws.put hplace _⟩
    rw [Run.effect_bind, Plot.draw, Run.effect_change,
      FileTree.write_eq_ok.mpr ⟨place, hplace, rfl⟩]
    rfl
  · rw [if_neg hshown, if_pos ((StoreChart.isEmpty_ofRows rows operation metric).mpr hshown)]
    exact ⟨files, rfl, .nil files⟩

/-- What the charts of a report come to, by what is read of it: a missing report is as one without
rows. -/
lemma effect_drawReport (plot : StorePlot) (metric : Metric) (files : FileTree) :
    (plot.drawReport metric).effect files =
      match plot.readAt files metric with
      | .error error => (files, .error (.report error))
      | .ok rows => (Run.gather (plot.drawChart rows metric) Operation.all).effect files := by
  have hbranch : (plot.drawReport metric).effect files =
      if files.isFile (plot.reportPath metric) then
        (Run.look (fun files => Noted.ofOutcome
          ((StoreRow.readReport files (plot.reportPath metric)).mapError PlotError.report)) >>=
            fun rows => Run.gather (plot.drawChart rows metric) Operation.all).effect files
      else (files, .ok []) := by
    rw [Run.effect, drawReport]
    split_ifs <;> rfl
  rw [hbranch, readAt]
  split_ifs with hfile
  · rw [Run.effect_bind, Run.effect_look]
    cases StoreRow.readReport files (plot.reportPath metric) <;> rfl
  · rfl

section Accepts

variable (haccepts : ∀ operation metric, files.accepts (plot.chartPath operation metric) = true)

include haccepts

lemma exists_place_chartPath (hfiles : KeepsReports files files') (operation : Operation)
    (metric : Metric) : ∃ place, files'.place? (plot.chartPath operation metric) = some place := by
  obtain ⟨changed, hwrite⟩ := (FileTree.exists_write_iff files _ (.bytes [])).mpr
    (haccepts operation metric)
  obtain ⟨place, hplace, -⟩ := FileTree.write_eq_ok.mp hwrite
  exact ⟨place, (hfiles.place?_chartPath operation metric).trans hplace⟩

/-- The charts of a report that can be read are drawn. -/
lemma paints_drawReport (hread : plot.readAt files metric = .ok rows)
    (hfiles : KeepsReports files files') :
    Paints (plot.drawReport metric) files' (plot.pictures metric rows) := by
  rw [Paints, effect_drawReport, hfiles.readAt_eq, hread]
  refine paints_gather plot (fun operation _ tree htree =>
    paints_drawChart (exists_place_chartPath haccepts htree operation metric)) ?_ ?_ hfiles
  · exact fun operation _ picture hpicture => ⟨operation, metric, fst_of_mem_due hpicture⟩
  · have hoperations : Operation.all.Pairwise (· ≠ ·) := by decide
    refine hoperations.imp fun hne picture hpicture other hother heq => hne ?_
    rw [fst_of_mem_due hpicture, fst_of_mem_due hother] at heq
    exact (chartPath_injective heq).1

/-- The charts of reports that can be read are drawn. -/
lemma paints_run {rows : Metric → List StoreRow}
    (hreads : ∀ metric, plot.readAt files metric = .ok (rows metric)) :
    Paints plot.run files (metrics.flatMap fun metric => plot.pictures metric (rows metric)) := by
  refine paints_gather plot (fun metric _ tree htree =>
    paints_drawReport haccepts (hreads metric) htree) ?_ ?_ (.refl files)
  · exact fun metric _ picture hpicture => exists_chartPath_of_mem_pictures hpicture
  · have hmetrics : metrics.Pairwise (· ≠ ·) := by decide
    refine hmetrics.imp fun hne picture hpicture other hother heq => hne ?_
    obtain ⟨operation, hpath⟩ := exists_of_mem_pictures hpicture
    obtain ⟨operation', hpath'⟩ := exists_of_mem_pictures hother
    rw [hpath, hpath'] at heq
    exact (chartPath_injective heq).2

omit haccepts in
/-- A broken report on throughput ends a plot before anything is drawn. -/
lemma effect_run_of_throughput_error {error : ReportError}
    (herror : plot.readAt files .throughput = .error error) :
    plot.run.effect files = (files, .error (.report error)) := by
  rw [run, metrics, Run.gather, Run.effect_bind, effect_drawReport, herror]

/-- A broken report on response times ends a plot when the charts of throughput are drawn. -/
lemma effect_run_of_responseTime_error {error : ReportError}
    (hread : plot.readAt files .throughput = .ok rows)
    (herror : plot.readAt files .responseTime = .error error) :
    ∃ after, plot.run.effect files = (after, .error (.report error)) ∧
      files.Draws after (plot.pictures .throughput rows) := by
  obtain ⟨after, heffect, hdrawn⟩ := paints_drawReport haccepts hread (.refl files)
  have hkeeps : KeepsReports files after :=
    .of_draws plot hdrawn fun picture hpicture => exists_chartPath_of_mem_pictures hpicture
  refine ⟨after, ?_, hdrawn⟩
  rw [run, metrics, Run.gather, Run.effect_bind, heffect, Run.gather]
  dsimp only
  rw [Run.effect_bind, Run.effect_bind, effect_drawReport, hkeeps.readAt_eq, herror]

omit haccepts in
/-- The charts of throughput are not where those of response times stand. -/
lemma find?_responseTime_of_draws (h : files.Draws files' (plot.pictures .throughput rows))
    {place : Location}
    (hplace : files.place? (plot.chartPath operation .responseTime) = some place) :
    files'.find? place = files.find? place := by
  refine h.kept place fun picture hpicture hpicture' => ?_
  obtain ⟨operation', hpath⟩ := exists_of_mem_pictures hpicture
  rw [hpath] at hpicture'
  exact Metric.noConfusion (chartPath_inj_of_place?_eq hplace hpicture').2

/-- Whatever a plot comes to, the reports are left as they are. -/
lemma keepsReports_run : KeepsReports files (plot.run.effect files).1 := by
  cases hthroughput : plot.readAt files .throughput with
  | error error =>
    rw [effect_run_of_throughput_error hthroughput]
    exact .refl files
  | ok throughputs =>
    cases hresponse : plot.readAt files .responseTime with
    | error error =>
      obtain ⟨after, heffect, hdrawn⟩ :=
        effect_run_of_responseTime_error haccepts hthroughput hresponse
      rw [heffect]
      exact .of_draws plot hdrawn fun picture hpicture => exists_chartPath_of_mem_pictures hpicture
    | ok responseTimes =>
      obtain ⟨rows, hreads⟩ :
          ∃ rows : Metric → List StoreRow, ∀ metric, plot.readAt files metric = .ok (rows metric) := by
        have hread : ∀ metric, ∃ rows, plot.readAt files metric = .ok rows := by
          intro metric
          cases metric with
          | responseTime => exact ⟨responseTimes, hresponse⟩
          | throughput => exact ⟨throughputs, hthroughput⟩
        exact Classical.skolem.mp hread
      obtain ⟨after, heffect, hdrawn⟩ := paints_run haccepts hreads
      rw [heffect]
      refine .of_draws plot hdrawn fun picture hpicture => ?_
      obtain ⟨metric, -, hpicture⟩ := List.mem_flatMap.mp hpicture
      exact exists_chartPath_of_mem_pictures hpicture

end Accepts

/-- **What a plot of store reports comes to**, where all its charts can be written.  If each report is
missing or can be read, all charts that are due are drawn, those of throughput first, their paths are
returned, and nothing else is changed.  If the report on throughput is broken, nothing is drawn.  If
only the one on response times is, the charts of throughput are drawn and no others.  No file under the
name of a report is ever changed. -/
theorem run_draws (plot : StorePlot) (files : FileTree)
    (haccepts : ∀ operation metric, files.accepts (plot.chartPath operation metric) = true) :
    (∀ rows : Metric → List StoreRow, (∀ metric, plot.readAt files metric = .ok (rows metric)) →
      ∃ after,
        plot.run.effect files = (after, .ok
          (plot.paths .throughput (rows .throughput) ++
            plot.paths .responseTime (rows .responseTime))) ∧
        files.Draws after (plot.pictures .throughput (rows .throughput) ++
          plot.pictures .responseTime (rows .responseTime)) ∧
        (plot.paths .throughput (rows .throughput) ++
          plot.paths .responseTime (rows .responseTime)).length ∈ [0, 2, 4]) ∧
    (∀ error, plot.readAt files .throughput = .error error →
      plot.run.effect files = (files, .error (.report error))) ∧
    (∀ rows error, plot.readAt files .throughput = .ok rows →
      plot.readAt files .responseTime = .error error →
        ∃ after,
          plot.run.effect files = (after, .error (.report error)) ∧
          files.Draws after (plot.pictures .throughput rows) ∧
          ∀ operation place, files.place? (plot.chartPath operation .responseTime) = some place →
            after.find? place = files.find? place) ∧
    (∀ metric rows, (plot.pictures metric rows).map Prod.fst = plot.paths metric rows) ∧
    ∀ location name, location.getLast? = some name → Report.IsReportName name →
      (plot.run.effect files).1.find? location = files.find? location := by
  refine ⟨fun rows hreads => ?_, fun error herror => effect_run_of_throughput_error herror,
    fun rows error hread herror => ?_, map_fst_pictures, (keepsReports_run haccepts).kept⟩
  · obtain ⟨after, heffect, hdrawn⟩ := paints_run haccepts hreads
    rw [metrics, List.flatMap_cons, List.flatMap_singleton] at heffect hdrawn
    rw [List.map_append, map_fst_pictures, map_fst_pictures] at heffect
    refine ⟨after, heffect, hdrawn, ?_⟩
    rw [paths, paths]
    split_ifs <;> simp
  · obtain ⟨after, heffect, hdrawn⟩ := effect_run_of_responseTime_error haccepts hread herror
    exact ⟨after, heffect, hdrawn, fun operation place hplace =>
      find?_responseTime_of_draws hdrawn hplace⟩

/-- The report on response times is first missing and then broken. -/
theorem run_draws_broken_response_times :
    let plot : StorePlot := ⟨⟨"."⟩, "plot", 2, .standard⟩
    let rows : List StoreRow := [⟨1, .sequential, ⟨5, 1⟩, ⟨7, 2⟩⟩, ⟨1, .hybrid, ⟨4, 1⟩, ⟨6, 2⟩⟩]
    let throughput : Location × Entry :=
      (["w", "tp_numc2"], .file (.bytes (Report.bytes (rows.map StoreRow.toLine))))
    let broken : Location × Entry := (["w", "rt_numc2"], .file (.bytes (Utf8.ofString "3\tTPC\n")))
    let old : Location × Entry := (["w", "plot-w-rt.svg"], .file (.bytes []))
    let files : FileTree := ⟨["w"], [(["w"], .directory), throughput, old]⟩
    let spoilt : FileTree := ⟨["w"], [(["w"], .directory), broken, throughput, old]⟩
    let drawn : List (Path × Figure) := plot.pictures .throughput (rows.map StoreRow.settled)
    drawn.map Prod.fst = [⟨"plot-w-tp.svg"⟩, ⟨"plot-r-tp.svg"⟩] ∧
      (∃ after, plot.run.effect files = (after, .ok [⟨"plot-w-tp.svg"⟩, ⟨"plot-r-tp.svg"⟩]) ∧
        files.Draws after drawn) ∧
      ∃ after, plot.run.effect spoilt =
          (after, .error (.report (.badRecord ⟨"./rt_numc2"⟩ (.tooShort ⟨0, 1, 0⟩ 2 6)))) ∧
        spoilt.Draws after drawn ∧
        after.find? ["w", "plot-w-rt.svg"] = some (.file (.bytes [])) := by
  intro plot rows throughput broken old files spoilt drawn
  have haccepts : ∀ operation metric, files.accepts (plot.chartPath operation metric) = true := by
    intro operation metric
    cases operation <;> cases metric <;> decide +kernel
  have haccepts' : ∀ operation metric, spoilt.accepts (plot.chartPath operation metric) = true := by
    intro operation metric
    cases operation <;> cases metric <;> decide +kernel
  have hread : plot.readAt files .throughput = .ok (rows.map StoreRow.settled) :=
    (if_pos (by decide +kernel)).trans (StoreRow.readReport_of_read (by decide +kernel))
  have hread' : plot.readAt spoilt .throughput = .ok (rows.map StoreRow.settled) :=
    (if_pos (by decide +kernel)).trans (StoreRow.readReport_of_read (by decide +kernel))
  have hmissing : plot.readAt files .responseTime = .ok [] := if_neg (by decide +kernel)
  have herror : plot.readAt spoilt .responseTime =
      .error (.badRecord ⟨"./rt_numc2"⟩ (.tooShort ⟨0, 1, 0⟩ 2 6)) := by
    have hbroken : (plot.readAt spoilt .responseTime).map (fun _ => ()) =
        .error (.badRecord ⟨"./rt_numc2"⟩ (.tooShort ⟨0, 1, 0⟩ 2 6)) := by
      decide +kernel
    exact Log.map_eq_error.mp hbroken
  have hdue : plot.paths .throughput (rows.map StoreRow.settled) =
      [⟨"plot-w-tp.svg"⟩, ⟨"plot-r-tp.svg"⟩] := by
    decide +kernel
  have hplace : spoilt.place? (plot.chartPath .write .responseTime) =
      some ["w", "plot-w-rt.svg"] := by
    decide +kernel
  refine ⟨(map_fst_pictures _ _).trans hdue, ?_, ?_⟩
  · obtain ⟨after, heffect, hdrawn, -⟩ := (run_draws plot files haccepts).1
      (fun metric => match metric with
        | .throughput => rows.map StoreRow.settled
        | .responseTime => [])
      (by rintro (_ | _); exacts [hmissing, hread])
    dsimp only at heffect hdrawn
    have hnone : plot.paths .responseTime [] = [] := rfl
    have hnone' : plot.pictures .responseTime [] = [] := rfl
    rw [hdue, hnone, List.append_nil] at heffect
    rw [hnone', List.append_nil] at hdrawn
    exact ⟨after, heffect, hdrawn⟩
  · obtain ⟨after, heffect, hdrawn, hkept⟩ :=
      (run_draws plot spoilt haccepts').2.2.1 _ _ hread' herror
    exact ⟨after, heffect, hdrawn, (hkept .write _ hplace).trans (by decide +kernel)⟩

end StorePlot

end BenchReport
