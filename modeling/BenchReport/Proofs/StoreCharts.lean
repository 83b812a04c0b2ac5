import BenchReport.Chart.Store
import BenchReport.Proofs.BarCharts
import BenchReport.Proofs.Decimals
import BenchReport.Proofs.StoreRows

/-!
# Charts of store rows

A report on store runs has its rows in ascending order, so no two of them are about the same variant
and number of clients, and nothing of it is lost in a chart.  `StoreChart.Shows` says what the chart
of one operation shows: a series for each variant that has rows, and in it one bar for each of them,
in order, with the figures of the operation.

`StoreChart.shows_ofRows` proves this for any rows in order.  The charts of the two operations have
their bars at the same places (`StoreChart.samePlaces_ofRows`), since where a bar stands does not
depend on its figures.
-/

namespace BenchReport

namespace StoreChart

/-- What the chart of an operation has to show of some rows. -/
structure Shows (chart : BarChart) (operation : Operation) (rows : List StoreRow) : Prop where
  /-- The groups are the numbers of clients of the rows, each once and in ascending order. -/
  groups : ∃ counts : List UInt32, chart.groups = counts.map countText ∧
    counts.Pairwise (· < ·) ∧ ∀ clients, clients ∈ counts ↔ ∃ row ∈ rows, row.clients = clients
  /-- The series are the variants of the rows, sequential ones first, and the bars of a series are
  its rows, each in the group of its number of clients. -/
  series : chart.reading =
    (bars.filter fun variant => rows.any fun row => row.variant = variant).map fun variant =>
      (variant.label, (rows.filter fun row => row.variant = variant).map fun row =>
        (some (countText row.clients), (operation.stats row).figures))
  /-- Each row has one bar at its place. -/
  each : ∀ row ∈ rows, (chart.barsAt row.variant.label (countText row.clients)).map Bar.figures =
    [(operation.stats row).figures]

variable (rows : List StoreRow) (operation : Operation) (metric : Metric)

/-- The series that a chart of rows is made of. -/
def seriesOf (variant : Variant) : PointSeries UInt32 := ⟨variant.label, points rows operation variant⟩

lemma nodup_labels : ((bars.map (seriesOf rows operation)).map PointSeries.label).Nodup := by
  have hlabels : (bars.map Variant.label).Nodup := by decide
  rwa [List.map_map]

lemma isEmpty_points (variant : Variant) : (!(points rows operation variant).isEmpty) =
    rows.any fun row => row.variant = variant := by
  rw [points, List.isEmpty_map, Bool.eq_iff_iff, Bool.not_eq_true', List.isEmpty_eq_false_iff,
    List.any_eq_true, ne_eq, List.filter_eq_nil_iff]
  simp

/-- The points of a variant ascend as its rows do. -/
lemma ascending_points (h : rows.Pairwise fun a b => a.key.height < b.key.height)
    (variant : Variant) : (points rows operation variant).Pairwise fun a b => a.key < b.key := by
  refine List.pairwise_map.mpr (List.Pairwise.imp_of_mem ?_ (h.filter _))
  intro a b ha hb hab
  have hvariant : a.variant = b.variant :=
    (of_decide_eq_true (List.mem_filter.mp ha).2).trans
      (of_decide_eq_true (List.mem_filter.mp hb).2).symm
  have hheight : ∀ row : StoreRow, row.key.height =
      [if row.variant = .smelt then 1 else 0, row.clients.toNat] := fun _ => rfl
  refine UInt32.lt_iff_toNat_lt.mpr ?_
  simpa [hheight, hvariant, List.cons_lt_cons_iff] using hab

/-- Each row has one bar at its place. -/
lemma map_figures_barsAt (h : rows.Pairwise fun a b => a.key.height < b.key.height) {row : StoreRow}
    (hrow : row ∈ rows) (hvariant : row.variant ∈ bars) :
    ((ofRows rows operation metric).barsAt row.variant.label (countText row.clients)).map Bar.figures =
      [(operation.stats row).figures] := by
  let point : ChartPoint UInt32 :=
    ⟨row.clients, (operation.stats row).mean, (operation.stats row).spread⟩
  have hpoint : point ∈ points rows operation row.variant :=
    List.mem_map.mpr ⟨row, List.mem_filter.mpr ⟨hrow, decide_eq_true rfl⟩, rfl⟩
  have hfind := BarChart.find?_of_ascending (ascending_points rows operation h row.variant) hpoint
  have hmem : seriesOf rows operation row.variant ∈ bars.map (seriesOf rows operation) :=
    List.mem_map_of_mem hvariant
  refine (BarChart.barsAt_ofSeries countText_injective (nodup_labels rows operation) hmem
    row.clients).trans ?_
  rw [seriesOf, hfind]
  rfl

/-- A chart of rows in order shows them. -/
theorem shows_ofRows (h : rows.Pairwise fun a b => a.key.height < b.key.height)
    (hbars : ∀ row ∈ rows, row.variant ∈ bars) :
    Shows (ofRows rows operation metric) operation rows where
  groups := by
    obtain ⟨counts, hgroups, hascending, hcounts⟩ := BarChart.groups_ofSeries countText
      (bars.map (seriesOf rows operation)) "Number of clients" (yTitle operation metric) none
    refine ⟨counts, hgroups, hascending, fun clients => (hcounts clients).trans ?_⟩
    constructor
    · rintro ⟨_, hs, point, hpoint, rfl⟩
      obtain ⟨variant, -, rfl⟩ := List.mem_map.mp hs
      obtain ⟨row, hrow, rfl⟩ := List.mem_map.mp hpoint
      exact ⟨row, (List.mem_filter.mp hrow).1, rfl⟩
    · rintro ⟨row, hrow, rfl⟩
      refine ⟨_, List.mem_map_of_mem (hbars row hrow), _, List.mem_map_of_mem (List.mem_filter.mpr
        ⟨hrow, decide_eq_true rfl⟩), rfl⟩
  series := by
    have hascending : ∀ s ∈ bars.map (seriesOf rows operation),
        s.points.Pairwise fun a b => a.key < b.key := by
      intro s hs
      obtain ⟨variant, -, rfl⟩ := List.mem_map.mp hs
      exact ascending_points rows operation h variant
    have hreading := BarChart.reading_ofSeries_of_ascending countText "Number of clients"
      (yTitle operation metric) none hascending
    rw [List.filter_map, List.map_map] at hreading
    refine hreading.trans ?_
    simp only [Function.comp_def, seriesOf, isEmpty_points]
    refine List.map_congr_left fun variant _ => Prod.ext rfl ?_
    rw [points, List.map_map]
    rfl
  each row hrow := map_figures_barsAt rows operation metric h hrow (hbars row hrow)

end StoreChart

end BenchReport
