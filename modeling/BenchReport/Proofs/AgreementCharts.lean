import BenchReport.Chart.Agreement
import BenchReport.Proofs.AgreementRows
import BenchReport.Proofs.BarCharts
import BenchReport.Proofs.Decimals

/-!
# Charts of agreement rows

A chart of agreement rows shows those that are about one of three protocols and are not hybrid
(`AgreementKey.IsCharted`).  `AgreementChart.Shows` says what it shows of them: one bar for each
key, under the label of its protocol and variant and in the group of its number of replicas, and
nothing else.  Where several rows are about the same key, the bar is that of the first one.

`AgreementChart.shows_ofRows` proves this for any rows, in any order and with any repetitions.
-/

namespace BenchReport

/-- Whether a chart shows the rows about a key. -/
def AgreementKey.IsCharted (key : AgreementKey) : Prop :=
  key.protocol ≠ .chain ∧ key.variant ≠ .hybrid

instance (key : AgreementKey) : Decidable key.IsCharted :=
  inferInstanceAs (Decidable (key.protocol ≠ .chain ∧ key.variant ≠ .hybrid))

namespace AgreementChart

/-- The bars of a chart at the place of a key. -/
def barsFor (chart : BarChart) (key : AgreementKey) : List Bar :=
  chart.barsAt (label key.protocol key.variant) (countText key.replicas)

/-- What a chart has to show of some rows. -/
structure Shows (chart : BarChart) (rows : List AgreementRow) : Prop where
  /-- No two series have the same label. -/
  labels : (chart.series.map BarSeries.label).Nodup
  /-- No two groups have the same label. -/
  groups : chart.groups.Nodup
  /-- The groups are the numbers of replicas of the rows that are shown. -/
  counts : ∀ text, text ∈ chart.groups ↔
    ∃ row ∈ rows, row.key.IsCharted ∧ countText row.replicas = text
  /-- The first row about a key has one bar at the place of the key. -/
  first : ∀ row, row.key.IsCharted → rows.find? (fun other => other.key = row.key) = some row →
    (barsFor chart row.key).map Bar.figures = [row.stats.figures]
  /-- There is no bar at the place of a key that no row is about. -/
  absent : ∀ key : AgreementKey, key.IsCharted → (∀ row ∈ rows, row.key ≠ key) →
    barsFor chart key = []
  /-- Each bar stands at the place of a row that is shown. -/
  placed : ∀ series ∈ chart.series, ∀ bar ∈ series.bars, ∃ row ∈ rows, row.key.IsCharted ∧
    series.label = label row.protocol row.variant ∧
      chart.groups[bar.group]? = some (countText row.replicas)

/-- The chart has a series for each protocol and variant that it shows. -/
lemma mem_bars {protocol : Protocol} {variant : Variant} :
    (protocol, variant) ∈ bars ↔ protocol ≠ .chain ∧ variant ≠ .hybrid := by
  cases protocol <;> cases variant <;> decide

/-- The series that a chart of rows is made of. -/
def seriesOf (rows : List AgreementRow) : List (PointSeries UInt32) :=
  bars.map fun (protocol, variant) => ⟨label protocol variant, points rows protocol variant⟩

lemma nodup_labels (rows : List AgreementRow) :
    ((seriesOf rows).map PointSeries.label).Nodup := by
  have hlabels : (bars.map fun (protocol, variant) => label protocol variant).Nodup := by decide
  rwa [seriesOf, List.map_map]

/-- The series of a protocol and variant that is shown. -/
lemma mem_seriesOf (rows : List AgreementRow) {key : AgreementKey} (h : key.IsCharted) :
    ⟨label key.protocol key.variant, points rows key.protocol key.variant⟩ ∈ seriesOf rows :=
  List.mem_map.mpr ⟨(key.protocol, key.variant), mem_bars.mpr h, rfl⟩

/-- A point of a series is a row that is shown. -/
lemma exists_row_of_point {rows : List AgreementRow} {s : PointSeries UInt32}
    (hs : s ∈ seriesOf rows) {point : ChartPoint UInt32} (hpoint : point ∈ s.points) :
    ∃ row ∈ rows, row.key.IsCharted ∧ s.label = label row.protocol row.variant ∧
      point.key = row.replicas := by
  obtain ⟨⟨protocol, variant⟩, hbars, rfl⟩ := List.mem_map.mp hs
  obtain ⟨row, hfound, rfl⟩ := List.mem_map.mp hpoint
  obtain ⟨hrow, hkey⟩ := List.mem_filter.mp hfound
  obtain ⟨rfl, rfl⟩ := of_decide_eq_true hkey
  exact ⟨row, hrow, mem_bars.mp hbars, rfl, rfl⟩

/-- A row that is shown is a point of a series. -/
lemma exists_point_of_row {rows : List AgreementRow} {row : AgreementRow} (hrow : row ∈ rows)
    (hcharted : row.key.IsCharted) :
    ∃ s ∈ seriesOf rows, ∃ point ∈ s.points, point.key = row.replicas := by
  refine ⟨_, mem_seriesOf rows hcharted, ⟨row.replicas, row.stats.mean, row.stats.spread⟩, ?_, rfl⟩
  exact List.mem_map.mpr ⟨row, List.mem_filter.mpr ⟨hrow, decide_eq_true ⟨rfl, rfl⟩⟩, rfl⟩

/-- The first point of a series with a number of replicas is that of the first row about the key. -/
lemma find?_points (rows : List AgreementRow) (key : AgreementKey) :
    ((points rows key.protocol key.variant).find? fun point => point.key = key.replicas).map
        ChartPoint.figures =
      (rows.find? fun row => row.key = key).map fun row => row.stats.figures := by
  have hkey : ∀ row : AgreementRow,
      (row.protocol = key.protocol ∧ row.variant = key.variant) ∧ row.replicas = key.replicas ↔
        row.key = key := by
    intro row
    obtain ⟨replicas, protocol, variant⟩ := key
    simp only [AgreementRow.key, AgreementKey.mk.injEq]
    tauto
  rw [points, List.find?_map, List.find?_filter, Option.map_map]
  simp only [Function.comp_def, decide_eq_true_eq, hkey]
  rfl

/-- At the place of a key there is one bar for the first row about it. -/
lemma map_figures_barsFor (rows : List AgreementRow) (metric : Metric) (style : Style)
    {key : AgreementKey} (h : key.IsCharted) :
    (barsFor (ofRows rows metric style) key).map Bar.figures =
      ((rows.find? fun row => row.key = key).map fun row => row.stats.figures).toList := by
  rw [← find?_points]
  exact BarChart.barsAt_ofSeries countText_injective (nodup_labels rows) (mem_seriesOf rows h) _

/-- A chart of rows shows them. -/
theorem shows_ofRows (rows : List AgreementRow) (metric : Metric) (style : Style) :
    Shows (ofRows rows metric style) rows := by
  constructor
  · refine List.Nodup.sublist ?_ (nodup_labels rows)
    rw [ofRows, BarChart.ofSeries, List.map_map]
    exact (List.filter_sublist).map _
  · exact BarChart.nodup_groups_ofSeries countText_injective
  · intro text
    refine BarChart.mem_groups_ofSeries.trans ⟨?_, ?_⟩
    · rintro ⟨s, hs, point, hpoint, rfl⟩
      obtain ⟨row, hrow, hcharted, -, hcount⟩ := exists_row_of_point hs hpoint
      exact ⟨row, hrow, hcharted, congrArg countText hcount.symm⟩
    · rintro ⟨row, hrow, hcharted, rfl⟩
      obtain ⟨s, hs, point, hpoint, hcount⟩ := exists_point_of_row hrow hcharted
      exact ⟨s, hs, point, hpoint, congrArg countText hcount⟩
  · intro row hcharted hfirst
    rw [map_figures_barsFor rows metric style hcharted, hfirst]
    rfl
  · intro key hcharted habsent
    have hnone : rows.find? (fun row => row.key = key) = none :=
      List.find?_eq_none.mpr fun row hrow heq => habsent row hrow (of_decide_eq_true heq)
    have hmap := map_figures_barsFor rows metric style hcharted
    rw [hnone] at hmap
    exact List.map_eq_nil_iff.mp hmap
  · intro shown hshown bar hbar
    obtain ⟨s, hs, hlabel, point, hpoint, hgroup⟩ :=
      BarChart.exists_point_of_mem_bars hshown hbar
    obtain ⟨row, hrow, hcharted, htext, hcount⟩ := exists_row_of_point hs hpoint
    exact ⟨row, hrow, hcharted, hlabel.trans htext, hcount ▸ hgroup⟩

/-! ## What a chart depends on -/

section

variable {rows others : List AgreementRow} {metric : Metric} {style : Style}

/-- A chart depends on the first row about each key that is shown only. -/
theorem ofRows_congr (h : ∀ key : AgreementKey, key.IsCharted →
      rows.find? (fun row => row.key = key) = others.find? fun row => row.key = key) :
    ofRows rows metric style = ofRows others metric style := by
  refine BarChart.ofSeries_congr (fun _ _ => rfl) ?_
  rintro ⟨protocol, variant⟩ hbars replicas
  have hkey := h ⟨replicas, protocol, variant⟩ (mem_bars.mp hbars)
  exact (find?_points rows ⟨replicas, protocol, variant⟩).trans
    ((congrArg _ hkey).trans (find?_points others ⟨replicas, protocol, variant⟩).symm)

/-- A chart is empty if no row is shown. -/
lemma isEmpty_ofRows :
    (ofRows rows metric style).isEmpty = true ↔ ∀ row ∈ rows, ¬ row.key.IsCharted := by
  refine BarChart.isEmpty_ofSeries.trans ⟨?_, ?_⟩
  · intro h row hrow hcharted
    obtain ⟨s, hs, point, hpoint, -⟩ := exists_point_of_row hrow hcharted
    rw [h s hs] at hpoint
    cases hpoint
  · intro h s hs
    refine List.eq_nil_iff_forall_not_mem.mpr fun point hpoint => ?_
    obtain ⟨row, hrow, hcharted, -, -⟩ := exists_row_of_point hs hpoint
    exact h row hrow hcharted

/-- The series are those of the protocols and variants of the rows, in the order of `bars`. -/
lemma labels_ofRows : (ofRows rows metric style).series.map BarSeries.label =
    (bars.filter fun bar => rows.any fun row => row.protocol = bar.1 ∧ row.variant = bar.2).map
      fun bar => label bar.1 bar.2 := by
  have hpresent : ∀ bar : Protocol × Variant, (!(points rows bar.1 bar.2).isEmpty) =
      rows.any fun row => row.protocol = bar.1 ∧ row.variant = bar.2 := by
    intro bar
    rw [points, List.isEmpty_map, Bool.eq_iff_iff, Bool.not_eq_true', List.isEmpty_eq_false_iff,
      List.any_eq_true, ne_eq, List.filter_eq_nil_iff]
    simp
  simp only [ofRows, BarChart.ofSeries, List.filter_map, Function.comp_def, List.map_map, hpresent]

variable (rows metric style) in
/-- The groups are the numbers of replicas of the rows that are shown, in ascending order. -/
lemma groups_ofRows : ∃ counts : List UInt32,
    (ofRows rows metric style).groups = counts.map countText ∧ counts.Pairwise (· < ·) ∧
      ∀ replicas, replicas ∈ counts ↔
        ∃ row ∈ rows, row.key.IsCharted ∧ row.replicas = replicas := by
  obtain ⟨counts, hgroups, hascending, hcounts⟩ := BarChart.groups_ofSeries countText (seriesOf rows)
    "Number of replicas" (yTitle metric) (yMax style metric)
  refine ⟨counts, hgroups, hascending, fun replicas => (hcounts replicas).trans ⟨?_, ?_⟩⟩
  · rintro ⟨s, hs, point, hpoint, rfl⟩
    obtain ⟨row, hrow, hcharted, -, hcount⟩ := exists_row_of_point hs hpoint
    exact ⟨row, hrow, hcharted, hcount.symm⟩
  · rintro ⟨row, hrow, hcharted, rfl⟩
    exact exists_point_of_row hrow hcharted

end

end AgreementChart

end BenchReport
