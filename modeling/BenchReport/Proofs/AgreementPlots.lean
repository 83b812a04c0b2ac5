import BenchReport.Plot.Agreement
import BenchReport.Proofs.AgreementCharts
import BenchReport.Proofs.RoundTrip
import BenchReport.Proofs.Runs
import BenchReport.Proofs.Scans

/-!
# Plotting several reports

A plot of agreement runs takes all reports of a directory on one metric, whatever number of replicas
they were made for.  `AgreementReports` are their rows, and `AgreementReports.First` says which row
counts where several are about the same key: the first one in the report for the fewest replicas, by
number and not by name.  `AgreementChart.ShowsReports` is what the chart shows of them.

Since only these first rows count, some changes of the reports cannot be seen in the chart
(`AgreementReports.Unshown`): rows can go that are never shown or that come after another one about
the same key, and neighbours about different keys can change places
(`AgreementReports.find?_rows_of_unshown`).

`AgreementPlot.run_spec` tells what a plot comes to: of reports that can all be read, the chart that
shows them, or nothing if there is nothing to show; and otherwise the error of the broken report for
the fewest replicas.
-/

namespace BenchReport

/-- The rows of the reports on a metric, by the number of replicas that a report was made for. -/
abbrev AgreementReports : Type := UInt32 → List AgreementRow

lemma AgreementPlot.mem_scanned {n : UInt32} : n ∈ scanned ↔ n < 100 := by
  have hscanned : scanned = countsBelow 100 := rfl
  rw [hscanned, mem_countsBelow]

namespace AgreementReports

/-! ## The rows of some reports -/

/-- The rows of all reports that are looked for, in order. -/
def rows (reports : AgreementReports) : List AgreementRow := AgreementPlot.scanned.flatMap reports

/-- Whether a row is the first one about a key, in the report for the fewest replicas that has one. -/
def First (reports : AgreementReports) (key : AgreementKey) (row : AgreementRow) : Prop :=
  ∃ n < 100, (reports n).find? (fun other => other.key = key) = some row ∧
    ∀ m < n, ∀ other ∈ reports m, other.key ≠ key

variable {reports others : AgreementReports}

lemma mem_rows {row : AgreementRow} : row ∈ reports.rows ↔ ∃ n < 100, row ∈ reports n := by
  rw [rows, List.mem_flatMap]
  exact exists_congr fun n => and_congr_left' AgreementPlot.mem_scanned

lemma exists_mem_rows {p : AgreementRow → Prop} :
    (∃ row ∈ reports.rows, p row) ↔ ∃ n < 100, ∃ row ∈ reports n, p row := by
  simp only [mem_rows]
  constructor
  · rintro ⟨row, ⟨n, hn, hrow⟩, hp⟩
    exact ⟨n, hn, row, hrow, hp⟩
  · rintro ⟨n, hn, row, hrow, hp⟩
    exact ⟨row, ⟨n, hn, hrow⟩, hp⟩

/-- The first row about a key among all rows. -/
lemma find?_rows {key : AgreementKey} {row : AgreementRow} :
    reports.rows.find? (fun other => other.key = key) = some row ↔ reports.First key row := by
  have hascending : AgreementPlot.scanned.Pairwise fun a b => [a.toNat] < [b.toNat] :=
    (ascending_countsBelow 100).imp fun hlt => List.cons_lt_cons_iff.mpr (.inl hlt)
  have hbefore : ∀ m, (∀ cause, (reports m).find? (fun other => other.key = key) ≠ some cause) ↔
      ∀ other ∈ reports m, other.key ≠ key := by
    intro m
    rw [← Option.eq_none_iff_forall_ne_some, List.find?_eq_none]
    simp
  rw [rows, List.find?_flatMap, findSome?_eq_some_iff_firstFault hascending, FirstFault]
  refine exists_congr fun n => ?_
  rw [AgreementPlot.mem_scanned]
  refine and_congr_right fun hn => and_congr_right fun _ => forall_congr' fun m => ?_
  rw [hbefore, List.cons_lt_cons_iff, AgreementPlot.mem_scanned, ← UInt32.lt_iff_toNat_lt]
  simp only [List.lt_irrefl, and_false, or_false]
  exact ⟨fun h hlt => h (UInt32.lt_trans hlt hn) hlt, fun h _ => h⟩

/-! ## Changes that are not shown -/

/-- A change of one report that a chart does not show. -/
inductive Unshown (reports : AgreementReports) : AgreementReports → Prop where
  /-- A row is taken away that no chart shows. -/
  | uncharted {n : UInt32} {before after : List AgreementRow} {row : AgreementRow}
      (hrows : reports n = before ++ row :: after) (hrow : ¬ row.key.IsCharted) :
      Unshown reports (Function.update reports n (before ++ after))
  /-- A row is taken away that comes after another one about the same key, in the same report or in
  one for fewer replicas. -/
  | repeated {n : UInt32} {before after : List AgreementRow} {row : AgreementRow}
      (hrows : reports n = before ++ row :: after)
      (hrow : (∃ other ∈ before, other.key = row.key) ∨
        ∃ m < n, ∃ other ∈ reports m, other.key = row.key) :
      Unshown reports (Function.update reports n (before ++ after))
  /-- Two neighbours about different keys change places. -/
  | exchanged {n : UInt32} {before after : List AgreementRow} {row other : AgreementRow}
      (hrows : reports n = before ++ row :: other :: after) (hkey : row.key ≠ other.key) :
      Unshown reports (Function.update reports n (before ++ other :: row :: after))

section Found

variable {α : Type} {p : α → Bool} {before after : List α} {item other : α}

/-- An item that is not looked for, or that comes after one that is, is never found. -/
lemma find?_append_cons (h : p item = true → ∃ other ∈ before, p other = true) :
    (before ++ item :: after).find? p = (before ++ after).find? p := by
  rw [List.find?_append, List.find?_append]
  cases hitem : p item with
  | false => rw [List.find?_cons_of_neg (by simp [hitem])]
  | true =>
    obtain ⟨found, hfound⟩ := Option.isSome_iff_exists.mp (List.find?_isSome.mpr (h hitem))
    rw [hfound, Option.some_or, Option.some_or]

/-- Of two neighbours that are not both looked for it does not matter which one comes first. -/
lemma find?_append_cons_cons (h : p item = true → p other = false) :
    (before ++ item :: other :: after).find? p = (before ++ other :: item :: after).find? p := by
  rw [List.find?_append, List.find?_append]
  cases hitem : p item with
  | false => simp [List.find?_cons, hitem]
  | true => simp [hitem, h hitem]

end Found

/-- The rows of all reports, with one report changed. -/
lemma rows_update {n : UInt32} (hn : n < 100) (reports : AgreementReports) :
    ∃ lower higher : List AgreementRow, (∀ m < n, ∀ row ∈ reports m, row ∈ lower) ∧
      ∀ changed, rows (Function.update reports n changed) = lower ++ (changed ++ higher) := by
  have hascending := ascending_countsBelow 100
  obtain ⟨front, back, hsplit⟩ := List.append_of_mem (mem_countsBelow.mpr hn)
  rw [hsplit] at hascending
  obtain ⟨-, hback, hfront⟩ := List.pairwise_append.mp hascending
  have hlower : ∀ m ∈ front, m ≠ n := by
    rintro m hm rfl
    exact lt_irrefl _ (hfront m hm m List.mem_cons_self)
  have hhigher : ∀ m ∈ back, m ≠ n := by
    rintro m hm rfl
    exact lt_irrefl _ (List.rel_of_pairwise_cons hback hm)
  refine ⟨front.flatMap reports, back.flatMap reports, ?_, ?_⟩
  · intro m hm row hrow
    refine List.mem_flatMap.mpr ⟨m, ?_, hrow⟩
    have hmem : m ∈ front ++ n :: back := hsplit ▸ mem_countsBelow.mpr (UInt32.lt_trans hm hn)
    refine (List.mem_append.mp hmem).resolve_right fun hm' => ?_
    rcases List.mem_cons.mp hm' with rfl | hm'
    · exact UInt32.lt_irrefl _ hm
    · exact lt_asymm (UInt32.lt_iff_toNat_lt.mp hm) (List.rel_of_pairwise_cons hback hm')
  · intro changed
    have hscanned : AgreementPlot.scanned = front ++ n :: back := hsplit
    rw [rows, hscanned, List.flatMap_append, List.flatMap_cons, Function.update_self]
    congr 1
    · exact List.flatMap_congr fun m hm => Function.update_of_ne (hlower m hm) _ _
    · congr 1
      exact List.flatMap_congr fun m hm => Function.update_of_ne (hhigher m hm) _ _

/-- A report for a number of replicas that is not looked for plays no part. -/
lemma rows_update_of_not_lt {n : UInt32} (hn : ¬ n < 100) (reports : AgreementReports)
    (changed : List AgreementRow) : rows (Function.update reports n changed) = reports.rows := by
  refine List.flatMap_congr fun m hm => Function.update_of_ne ?_ _ _
  rintro rfl
  exact hn (mem_countsBelow.mp hm)

/-- A change that is not shown leaves the first row about each key that is shown. -/
theorem find?_rows_of_unshown (h : reports.Unshown others) {key : AgreementKey}
    (hkey : key.IsCharted) :
    others.rows.find? (fun row => row.key = key) = reports.rows.find? fun row => row.key = key := by
  -- the rows of the changed report stand behind those of the lower ones
  have hsplit : ∀ {n : UInt32} {old new : List AgreementRow}, reports n = old →
      (∀ lower higher : List AgreementRow, (∀ m < n, ∀ row ∈ reports m, row ∈ lower) →
        (lower ++ (new ++ higher)).find? (fun row => row.key = key) =
          (lower ++ (old ++ higher)).find? fun row => row.key = key) →
      (rows (Function.update reports n new)).find? (fun row => row.key = key) =
        reports.rows.find? fun row => row.key = key := by
    rintro n old new rfl hfind
    by_cases hn : n < 100
    · obtain ⟨lower, higher, hlower, hrows⟩ := rows_update hn reports
      have hold := hrows (reports n)
      rw [Function.update_eq_self] at hold
      rw [hrows, hold]
      exact hfind lower higher hlower
    · rw [rows_update_of_not_lt hn]
  cases h with
  | uncharted hrows hrow =>
    refine hsplit hrows fun lower higher _ => ?_
    simp only [List.append_assoc, List.cons_append]
    rw [← List.append_assoc lower, ← List.append_assoc lower, find?_append_cons]
    intro heq
    exact absurd (of_decide_eq_true heq ▸ hkey) hrow
  | repeated hrows hrow =>
    refine hsplit hrows fun lower higher hlower => ?_
    simp only [List.append_assoc, List.cons_append]
    rw [← List.append_assoc lower, ← List.append_assoc lower, find?_append_cons]
    intro heq
    rcases hrow with ⟨other, hother, hsame⟩ | ⟨m, hm, other, hother, hsame⟩
    · refine ⟨other, List.mem_append_right _ hother, ?_⟩
      rwa [hsame]
    · refine ⟨other, List.mem_append_left _ (hlower m hm other hother), ?_⟩
      rwa [hsame]
  | exchanged hrows hne =>
    refine hsplit hrows fun lower higher _ => ?_
    simp only [List.append_assoc, List.cons_append]
    rw [← List.append_assoc lower, ← List.append_assoc lower, find?_append_cons_cons]
    intro heq
    rw [decide_eq_false_iff_not]
    rintro rfl
    exact hne (of_decide_eq_true heq).symm

end AgreementReports

/-! ## What the chart of some reports shows -/

namespace AgreementChart

/-- What a chart has to show of some reports. -/
structure ShowsReports (chart : BarChart) (reports : AgreementReports) : Prop where
  /-- The series are those of the protocols and variants that have rows, in the order of `bars`. -/
  series : ∃ shown : List (Protocol × Variant), shown.Sublist bars ∧
    chart.series.map BarSeries.label = shown.map (fun bar => label bar.1 bar.2) ∧
    ∀ bar ∈ bars, bar ∈ shown ↔
      ∃ n < 100, ∃ row ∈ reports n, row.protocol = bar.1 ∧ row.variant = bar.2
  /-- No series is empty. -/
  filled : ∀ series ∈ chart.series, series.bars ≠ []
  /-- The groups are the numbers of replicas of the rows that are shown, each once and in ascending
  order. -/
  groups : ∃ counts : List UInt32, chart.groups = counts.map countText ∧ counts.Pairwise (· < ·) ∧
    ∀ replicas, replicas ∈ counts ↔
      ∃ n < 100, ∃ row ∈ reports n, row.key.IsCharted ∧ row.replicas = replicas
  /-- There is a bar at the place of a key exactly if some row is about the key. -/
  present : ∀ key : AgreementKey, key.IsCharted →
    (barsFor chart key ≠ [] ↔ ∃ n < 100, ∃ row ∈ reports n, row.key = key)
  /-- It is one bar with the figures of the first such row. -/
  first : ∀ (key : AgreementKey) (row : AgreementRow), key.IsCharted → reports.First key row →
    (barsFor chart key).map Bar.figures = [row.stats.figures]
  /-- Each bar stands at the place of a row that is shown. -/
  placed : ∀ series ∈ chart.series, ∀ bar ∈ series.bars,
    ∃ n < 100, ∃ row ∈ reports n, row.key.IsCharted ∧
      series.label = label row.protocol row.variant ∧
        chart.groups[bar.group]? = some (countText row.replicas)

/-- The chart of all rows shows the reports. -/
theorem showsReports_ofRows (reports : AgreementReports) (metric : Metric) (style : Style) :
    ShowsReports (ofRows reports.rows metric style) reports where
  series := by
    refine ⟨_, List.filter_sublist, labels_ofRows, fun bar hbar => ?_⟩
    rw [List.mem_filter, List.any_eq_true, ← AgreementReports.exists_mem_rows]
    simp [hbar]
  filled _ h := BarChart.bars_ne_nil_of_mem_series h
  groups := by
    obtain ⟨counts, hgroups, hascending, hcounts⟩ := groups_ofRows reports.rows metric style
    refine ⟨counts, hgroups, hascending, fun replicas => ?_⟩
    rw [hcounts, AgreementReports.exists_mem_rows]
  present key hkey := by
    rw [← AgreementReports.exists_mem_rows, ne_eq, ← List.map_eq_nil_iff (f := Bar.figures),
      map_figures_barsFor _ _ _ hkey]
    cases hfind : reports.rows.find? fun row => row.key = key with
    | none =>
      have hnone := List.find?_eq_none.mp hfind
      simpa using hnone
    | some row =>
      have hrow := List.mem_of_find?_eq_some hfind
      have hsame : row.key = key := by simpa using List.find?_some hfind
      simpa using ⟨row, hrow, hsame⟩
  first key row hkey hfirst := by
    rw [map_figures_barsFor _ _ _ hkey, AgreementReports.find?_rows.mpr hfirst]
    rfl
  placed series hseries bar hbar := by
    obtain ⟨row, hrow, hplace⟩ := (shows_ofRows reports.rows metric style).placed series hseries bar hbar
    exact AgreementReports.exists_mem_rows.mp ⟨row, hrow, hplace⟩

end AgreementChart

/-! ## Plotting -/

namespace AgreementPlot

variable (plot : AgreementPlot)

/-- The rows of the report for a number of replicas, none where there is no such file. -/
def readAt (files : FileTree) (n : UInt32) : Except ReportError (List AgreementRow) :=
  let path := plot.directory.join (Report.agreementName plot.metric n)
  if files.isFile path then AgreementRow.readReport files path else .ok []

/-- Whether all reports of the directory can be read, and what is read. -/
def Reads (files : FileTree) (reports : AgreementReports) : Prop :=
  ∀ n < 100, plot.readAt files n = .ok (reports n)

/-- The chart of some reports. -/
def chartOf (reports : AgreementReports) : BarChart :=
  AgreementChart.ofRows reports.rows plot.metric plot.style

variable {plot} {files : FileTree}

lemma outcome_loadOne (n : UInt32) : (loadOne plot.directory plot.metric files n).outcome =
    (plot.readAt files n).mapError .report := by
  rw [loadOne, readAt]
  split_ifs <;> rfl

lemma outcome_load_of_reads {reports : AgreementReports} (h : plot.Reads files reports) :
    (load plot.directory plot.metric files).outcome = .ok reports.rows := by
  refine Noted.outcome_gather_eq_ok fun n hn => ?_
  rw [outcome_loadOne, h n (mem_countsBelow.mp hn)]
  rfl

/-- The broken report for the fewest replicas ends the loading. -/
lemma outcome_load_of_error {n : UInt32} (hn : n < 100) {error : ReportError}
    (herror : plot.readAt files n = .error error)
    (hlower : ∀ m < n, ∃ rows, plot.readAt files m = .ok rows) :
    (load plot.directory plot.metric files).outcome = .error (.report error) := by
  have hascending := ascending_countsBelow 100
  obtain ⟨front, back, hsplit⟩ := List.append_of_mem (mem_countsBelow.mpr hn)
  rw [hsplit] at hascending
  obtain ⟨-, -, hfront⟩ := List.pairwise_append.mp hascending
  have hscanned : scanned = front ++ n :: back := hsplit
  rw [load, hscanned]
  refine Noted.outcome_gather_eq_error (fun m hm => ?_) ?_
  · obtain ⟨rows, hrows⟩ := hlower m (UInt32.lt_iff_toNat_lt.mpr (hfront m hm n List.mem_cons_self))
    exact ⟨rows, by rw [outcome_loadOne, hrows]; rfl⟩
  · rw [outcome_loadOne, herror]
    rfl

/-- What a plot comes to, by what was loaded. -/
lemma effect_run : plot.run.effect files =
    match (load plot.directory plot.metric files).outcome with
    | .error error => (files, .error error)
    | .ok rows =>
      if (AgreementChart.ofRows rows plot.metric plot.style).isEmpty then (files, .ok none)
      else
        match files.write plot.chartPath (.drawn (BarDrawing.figure
            (AgreementChart.ofRows rows plot.metric plot.style) plot.style)) with
        | .error cause => (files, .error (.render plot.chartPath cause))
        | .ok changed => (changed, .ok (some plot.chartPath)) := by
  rw [run, Run.effect_bind, Run.effect_look]
  cases (load plot.directory plot.metric files).outcome with
  | error error => rfl
  | ok rows =>
    dsimp only
    rw [Run.effect_bind, Run.effect_note]
    dsimp only
    split_ifs with hempty
    · rfl
    · rw [Run.effect_bind, Plot.draw, Run.effect_change]
      cases files.write plot.chartPath (.drawn (BarDrawing.figure
        (AgreementChart.ofRows rows plot.metric plot.style) plot.style)) <;> rfl

/-- What a plot of reports that can be read comes to. -/
lemma effect_run_of_reads {reports : AgreementReports} (h : plot.Reads files reports) :
    plot.run.effect files =
      if (plot.chartOf reports).isEmpty then (files, .ok none)
      else
        match files.write plot.chartPath
            (.drawn (BarDrawing.figure (plot.chartOf reports) plot.style)) with
        | .error cause => (files, .error (.render plot.chartPath cause))
        | .ok changed => (changed, .ok (some plot.chartPath)) := by
  rw [effect_run, outcome_load_of_reads h]
  rfl

lemma isEmpty_chartOf {reports : AgreementReports} : (plot.chartOf reports).isEmpty = true ↔
    ∀ n < 100, ∀ row ∈ reports n, ¬ row.key.IsCharted := by
  have hshown : (∃ row ∈ reports.rows, row.key.IsCharted) ↔
      ∃ n < 100, ∃ row ∈ reports n, row.key.IsCharted := AgreementReports.exists_mem_rows
  rw [chartOf, AgreementChart.isEmpty_ofRows]
  simpa using not_congr hshown

/-- **What a plot comes to.**  If all reports can be read, it is the chart that shows them, or
nothing if there is no row to show, and a change of the reports that is not shown leaves the chart
as it is.  Otherwise it is the error of the broken report for the fewest replicas, and nothing is
written. -/
theorem run_spec (plot : AgreementPlot) (files : FileTree) :
    (∀ reports, plot.Reads files reports →
      AgreementChart.ShowsReports (plot.chartOf reports) reports ∧
      (plot.run.effect files = (files, .ok none) ↔
        ∀ n < 100, ∀ row ∈ reports n, ¬ row.key.IsCharted) ∧
      ((∃ n < 100, ∃ row ∈ reports n, row.key.IsCharted) →
        plot.run.effect files =
          match files.write plot.chartPath
              (.drawn (BarDrawing.figure (plot.chartOf reports) plot.style)) with
          | .error cause => (files, .error (.render plot.chartPath cause))
          | .ok changed => (changed, .ok (some plot.chartPath))) ∧
      ∀ others, reports.Unshown others → plot.chartOf others = plot.chartOf reports) ∧
    ∀ n < 100, ∀ error, plot.readAt files n = .error error →
      (∀ m < n, ∃ rows, plot.readAt files m = .ok rows) →
        plot.run.effect files = (files, .error (.report error)) := by
  constructor
  · intro reports hreads
    have hrun := effect_run_of_reads hreads
    refine ⟨AgreementChart.showsReports_ofRows _ _ _, ⟨fun h => ?_, fun h => ?_⟩, fun h => ?_, ?_⟩
    · have hempty : (plot.chartOf reports).isEmpty = true := by
        by_contra hdrawn
        rw [hrun, if_neg hdrawn] at h
        split at h <;> cases h
      exact isEmpty_chartOf.mp hempty
    · rw [hrun, if_pos (isEmpty_chartOf.mpr h)]
    · have hdrawn : ¬ (plot.chartOf reports).isEmpty = true := fun hempty => by
        obtain ⟨n, hn, row, hrow, hcharted⟩ := h
        exact isEmpty_chartOf.mp hempty n hn row hrow hcharted
      rw [hrun, if_neg hdrawn]
    · intro others hunshown
      exact AgreementChart.ofRows_congr fun key hkey =>
        AgreementReports.find?_rows_of_unshown hunshown hkey
  · intro n hn error herror hlower
    rw [effect_run, outcome_load_of_error hn herror hlower]

/-- Two reports overlap, and the name of the one for ten replicas comes before that of the one for
two. -/
theorem run_spec_overlapping_reports :
    let plot : AgreementPlot := ⟨⟨"."⟩, "plot", .responseTime, .standard⟩
    let row : UInt32 → Protocol → Float → AgreementRow := fun replicas protocol mean =>
      ⟨replicas, protocol, .sequential, ⟨mean, 1⟩⟩
    let two : List AgreementRow := [row 2 .broadcast 5, row 2 .chain 9, row 3 .broadcast 6]
    let ten : List AgreementRow := [row 2 .broadcast 7, row 10 .broadcast 8]
    let report : UInt32 → List AgreementRow → Location × Entry := fun n rows =>
      (["w", Report.agreementName .responseTime n],
        .file (.bytes (Report.bytes (rows.map AgreementRow.toLine))))
    let broken : UInt32 → Location × Entry := fun n =>
      (["w", Report.agreementName .responseTime n], .file (.bytes (Utf8.ofString "3\tTPC\n")))
    let files : FileTree := ⟨["w"], [(["w"], .directory), report 10 ten, report 2 two]⟩
    let spoilt : FileTree := ⟨["w"], [(["w"], .directory), broken 10, broken 3, report 2 two]⟩
    let reports : AgreementReports := fun n =>
      if n = 2 then two.map AgreementRow.settled else if n = 10 then ten.map AgreementRow.settled else []
    plot.Reads files reports ∧
      AgreementChart.ShowsReports (plot.chartOf reports) reports ∧
      (AgreementChart.barsFor (plot.chartOf reports) ⟨2, .broadcast, .sequential⟩).map Bar.figures =
        [(5, 1)] ∧
      plot.run.effect files ≠ (files, .ok none) ∧
      plot.chartOf (Function.update reports 2
        ([(row 2 .broadcast 5).settled] ++ [(row 3 .broadcast 6).settled])) = plot.chartOf reports ∧
      plot.run.effect spoilt =
        (spoilt, .error (.report (.badRecord ⟨"./rt_r3"⟩ (.tooShort ⟨0, 1, 0⟩ 2 5)))) := by
  intro plot row two ten report broken files spoilt reports
  have hreads : plot.Reads files reports := by
    have htwo : plot.readAt files 2 = .ok (two.map AgreementRow.settled) :=
      (if_pos (by decide +kernel)).trans (AgreementRow.readReport_of_read (by decide +kernel))
    have hten : plot.readAt files 10 = .ok (ten.map AgreementRow.settled) :=
      (if_pos (by decide +kernel)).trans (AgreementRow.readReport_of_read (by decide +kernel))
    have hall : (countsBelow 100).all (fun n => n = 2 ∨ n = 10 ∨
        files.isFile (plot.directory.join (Report.agreementName .responseTime n)) = false) = true := by
      decide +kernel
    intro n hn
    rcases of_decide_eq_true (List.all_eq_true.mp hall n (mem_countsBelow.mpr hn)) with
      rfl | rfl | hmissing
    · exact htwo
    · exact hten
    · have hne : n ≠ 2 ∧ n ≠ 10 := by
        constructor <;> rintro rfl <;> exact absurd hmissing (by decide +kernel)
      rw [readAt, hmissing]
      simp only [reports, hne.1, hne.2, if_false, Bool.false_eq_true]
  have hbroken : (plot.readAt spoilt 3).map (fun _ => ()) =
      .error (.badRecord ⟨"./rt_r3"⟩ (.tooShort ⟨0, 1, 0⟩ 2 5)) := by
    decide +kernel
  have hlower : ∀ m < 3, ∃ rows, plot.readAt spoilt m = .ok rows := by
    have hall : (countsBelow 3).all (fun m =>
        (plot.readAt spoilt m).map (fun _ => ()) = .ok ()) = true := by
      decide +kernel
    intro m hm
    have hread := of_decide_eq_true (List.all_eq_true.mp hall m (mem_countsBelow.mpr hm))
    obtain ⟨rows, hrows, -⟩ := Log.map_eq_ok.mp hread
    exact ⟨rows, hrows⟩
  have hfirst : reports.First ⟨2, .broadcast, .sequential⟩ (row 2 .broadcast 5).settled := by
    refine ⟨2, by decide, rfl, fun m hm other hother => ?_⟩
    have hne : m ≠ 2 ∧ m ≠ 10 := by
      constructor <;> rintro rfl <;> exact absurd hm (by decide)
    simp only [reports, hne.1, hne.2, if_false, List.not_mem_nil] at hother
  have hfigures : (row 2 .broadcast 5).settled.stats.figures = (5, 1) := by decide +kernel
  have hcharted : AgreementKey.IsCharted ⟨2, .broadcast, .sequential⟩ := by decide
  obtain ⟨hshows, hnone, -, hunshown⟩ := (run_spec plot files).1 reports hreads
  obtain ⟨error, herror, hcause⟩ : ∃ error, plot.readAt spoilt 3 = .error error ∧
      error = .badRecord ⟨"./rt_r3"⟩ (.tooShort ⟨0, 1, 0⟩ 2 5) := by
    cases hread : plot.readAt spoilt 3 with
    | ok rows => simp [hread, Except.map] at hbroken
    | error error => exact ⟨error, rfl, by simpa [hread, Except.map] using hbroken⟩
  refine ⟨hreads, hshows, ?_, ?_, ?_, ?_⟩
  · rw [hshows.first _ _ hcharted hfirst, hfigures]
  · intro h
    exact hnone.mp h 2 (by decide) _ (List.mem_cons_self : (row 2 .broadcast 5).settled ∈ reports 2)
      hcharted
  · have hchain : ¬ (row 2 .chain 9).settled.key.IsCharted := by decide
    exact hunshown _ (.uncharted rfl hchain)
  · rw [(run_spec plot spoilt).2 3 (by decide) error herror hlower, hcause]

end AgreementPlot

end BenchReport
