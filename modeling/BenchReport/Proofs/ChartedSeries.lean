import BenchReport.Proofs.BarCharts
import BenchReport.Log.Name

/-!
# The bars of every series

`BarChart.IsLaidOut` says what a chart of series is, as a list of bars and not as its reader sees it:
which keys have a group and where, and for each series which bars it has, in which groups and with
which figures (`BarChart.Represents`).  Where several points of a series have the same key, the bar is
that of the first one (`IsFirst`).  The search for the key of a point never misses
(`BarChart.exists_search_of_point`), so no key is left without a bar.

`BarChart.ofSeries_spec` proves it for all series, whatever their labels, keys and figures are.  It
also says that a chart takes no notice of the order of points with different keys.  Two series of
points differ in that order only if they have the same points of each key in the same order
(`PointSeries.Reordered`), so points with the same key must not pass each other: the first one of
them counts.
-/

namespace BenchReport

variable {κ : Type}

section Points

variable [DecidableEq κ]

/-- Whether two series have the same label and of each key the same points in the same order. -/
structure PointSeries.Reordered (s t : PointSeries κ) : Prop where
  label : s.label = t.label
  points : ∀ key, (s.points.filter fun point => point.key = key) =
    t.points.filter fun point => point.key = key

/-- Two neighbours with different keys can change places. -/
lemma PointSeries.reordered_exchange (label : String) (before after : List (ChartPoint κ))
    {point other : ChartPoint κ} (h : point.key ≠ other.key) :
    Reordered ⟨label, before ++ point :: other :: after⟩
      ⟨label, before ++ other :: point :: after⟩ where
  label := rfl
  points key := by
    simp only [List.filter_append, List.filter_cons, decide_eq_true_eq]
    by_cases hpoint : point.key = key
    · have hother : ¬ other.key = key := fun hother => h (hpoint.trans hother.symm)
      simp [hpoint, hother]
    · simp [hpoint]

/-- Points in another order have the same first point of each key. -/
lemma PointSeries.Reordered.find? {s t : PointSeries κ} (h : s.Reordered t) (key : κ) :
    (s.points.find? fun point => point.key = key) = t.points.find? fun point => point.key = key := by
  rw [← List.head?_filter, ← List.head?_filter, h.points]

end Points

namespace BarChart

/-! ## The bars of one series -/

/-- What the bars of a series with some points are, when there is a group for each of the keys. -/
structure Represents (keys : List κ) (points : List (ChartPoint κ)) (bars : List Bar) : Prop where
  /-- They stand in the groups from left to right, at most one in each. -/
  ascending : bars.Pairwise fun a b => a.group < b.group
  /-- They stand in groups that there are. -/
  inside : ∀ bar ∈ bars, bar.group < keys.length
  /-- In the group of a key that occurs there is one bar, with the figures of the first point. -/
  first : ∀ point, IsFirst points point → ∃ group, keys[group]? = some point.key ∧
    (bars.filter fun bar => bar.group = group) = [⟨group, point.value, point.error⟩]
  /-- There are no other bars. -/
  only : ∀ bar ∈ bars, ∃ point, IsFirst points point ∧ keys[bar.group]? = some point.key ∧
    bar.figures = point.figures

/-- If all keys of a series have a group, its bars represent it. -/
lemma represents_barsOf [DecidableEq κ] [LT κ] [DecidableLT κ] [IsTrans κ (· < ·)]
    [Std.Irrefl (fun a b : κ => a < b)] {keys : List κ} {points : List (ChartPoint κ)}
    (hkeys : keys.Pairwise (· < ·)) (hpoints : ∀ point ∈ points, point.key ∈ keys) :
    Represents keys points (barsOf points keys) where
  ascending := ascending_barsOf points keys
  inside bar hbar := by
    obtain ⟨point, -, hgroup, -⟩ := exists_of_mem_barsOf hbar
    exact (List.getElem?_eq_some_iff.mp hgroup).1
  first point hpoint := by
    obtain ⟨group, hgroup⟩ := List.mem_iff_getElem?.mp (hpoints point hpoint.mem)
    exact ⟨group, hgroup, filter_barsOf hkeys hpoint hgroup⟩
  only bar hbar := by
    obtain ⟨point, hpoint, hgroup, hbar⟩ := exists_of_mem_barsOf hbar
    exact ⟨point, hpoint, hgroup, by rw [hbar]; rfl⟩

/-! ## The chart of some series -/

/-- What a chart of series is, with a group for each of the keys. -/
structure IsLaidOut [DecidableEq κ] [LT κ] [DecidableLT κ] (chart : BarChart) (text : κ → String)
    (series : List (PointSeries κ)) (keys : List κ) : Prop where
  /-- The groups show the keys. -/
  groups : chart.groups = keys.map text
  /-- The keys stand in ascending order, each once. -/
  ascending : keys.Pairwise (· < ·)
  /-- They are those that occur. -/
  occurring : ∀ key, key ∈ keys ↔ ∃ s ∈ series, ∃ point ∈ s.points, point.key = key
  /-- The search for the key of a point finds the group of the key, which is the only one. -/
  found : ∀ s ∈ series, ∀ point ∈ s.points, ∃ group, search point.key keys = some group ∧
    ∀ other, keys[other]? = some point.key ↔ other = group
  /-- The series are those that are not empty, in order, with their labels and bars. -/
  shown : List.Forall₂ (fun s shown => shown.label = s.label ∧ Represents keys s.points shown.bars)
    (series.filter fun s => !s.points.isEmpty) chart.series
  /-- Each group has a bar. -/
  filled : ∀ group < chart.groups.length, ∃ shown ∈ chart.series, ∃ bar ∈ shown.bars,
    bar.group = group

section Series

variable [DecidableEq κ] [LT κ] [DecidableLT κ] (text : κ → String) (series : List (PointSeries κ))
  (xTitle yTitle : String) (yMax : Option Float)

/-- The keys that have a group. -/
def groupKeys : List κ := sortedKeys (allKeys (series.filter fun s => !s.points.isEmpty))

variable {series} in
lemma mem_groupKeys {key : κ} :
    key ∈ groupKeys series ↔ ∃ s ∈ series, ∃ point ∈ s.points, point.key = key :=
  mem_sortedKeys.trans mem_allKeys_present

variable [IsTrans κ (· < ·)] [Std.Trichotomous (fun a b : κ => a < b)]
  [Std.Irrefl (fun a b : κ => a < b)]

lemma forall₂_series : List.Forall₂
    (fun s shown => shown.label = s.label ∧ Represents (groupKeys series) s.points shown.bars)
    (series.filter fun s => !s.points.isEmpty) (ofSeries text series xTitle yTitle yMax).series := by
  refine List.forall₂_map_right_iff.mpr (List.forall₂_same.mpr fun s hs => ⟨rfl, ?_⟩)
  refine represents_barsOf (pairwise_sortedKeys _) fun point hpoint => mem_groupKeys.mpr ?_
  exact ⟨s, (List.mem_filter.mp hs).1, point, hpoint, rfl⟩

/-- Each group has a bar. -/
lemma exists_bar_of_group {group : ℕ} (h : group < (groupKeys series).length) :
    ∃ shown ∈ (ofSeries text series xTitle yTitle yMax).series, ∃ bar ∈ shown.bars,
      bar.group = group := by
  have hkey : (groupKeys series)[group]? = some (groupKeys series)[group] := List.getElem?_eq_getElem h
  obtain ⟨s, hs, point, hpoint, heq⟩ := mem_groupKeys.mp (List.getElem_mem h)
  have hpresent : s ∈ series.filter fun t => !t.points.isEmpty := by
    refine List.mem_filter.mpr ⟨hs, ?_⟩
    rw [Bool.not_eq_true', List.isEmpty_eq_false_iff]
    exact List.ne_nil_of_mem hpoint
  obtain ⟨first, hfirst, hsame⟩ := exists_isFirst hpoint
  have hgroup : (groupKeys series)[group]? = some first.key := by
    rw [hsame, heq]
    exact hkey
  exact ⟨_, List.mem_map.mpr ⟨s, hpresent, rfl⟩, _, bar_mem_barsOf (pairwise_sortedKeys _) hfirst hgroup,
    rfl⟩

/-- No search for a key misses. -/
lemma exists_search_of_point {s : PointSeries κ} (hs : s ∈ series) {point : ChartPoint κ}
    (hpoint : point ∈ s.points) : ∃ group, search point.key (groupKeys series) = some group ∧
      ∀ other, (groupKeys series)[other]? = some point.key ↔ other = group := by
  have hkeys : (groupKeys series).Pairwise (· < ·) := pairwise_sortedKeys _
  obtain ⟨group, hgroup⟩ :=
    exists_search_of_mem hkeys (mem_groupKeys.mpr ⟨s, hs, point, hpoint, rfl⟩)
  refine ⟨group, hgroup, fun other => ?_⟩
  rw [← search_eq_some_iff hkeys, hgroup, Option.some_inj, eq_comm]

/-- The chart of some series is laid out as it should be. -/
lemma isLaidOut_ofSeries :
    IsLaidOut (ofSeries text series xTitle yTitle yMax) text series (groupKeys series) where
  groups := rfl
  ascending := pairwise_sortedKeys _
  occurring _ := mem_groupKeys
  found _ hs _ hpoint := exists_search_of_point series hs hpoint
  shown := forall₂_series text series xTitle yTitle yMax
  filled group hgroup := by
    refine exists_bar_of_group text series xTitle yTitle yMax ?_
    rwa [← List.length_map text]

variable {series} in
/-- The order of points with different keys does not matter. -/
lemma ofSeries_reordered {others : List (PointSeries κ)}
    (h : List.Forall₂ PointSeries.Reordered series others) :
    ofSeries text series xTitle yTitle yMax = ofSeries text others xTitle yTitle yMax := by
  -- both lists are views of the list of pairs
  have hpairs : ∀ pair ∈ series.zip others, pair.1.Reordered pair.2 :=
    fun pair hpair => (List.forall₂_iff_zip.mp h).2 hpair
  have hsame : ofSeries text ((series.zip others).map Prod.fst) xTitle yTitle yMax =
      ofSeries text ((series.zip others).map Prod.snd) xTitle yTitle yMax := by
    refine ofSeries_congr (fun pair hpair => (hpairs pair hpair).label) fun pair hpair key => ?_
    rw [(hpairs pair hpair).find?]
  rwa [List.map_fst_zip h.length_eq.le, List.map_snd_zip h.length_eq.ge] at hsame

/-- **What a bar chart is.**  A chart of series has a group for each key that occurs, in ascending order,
and the series that are not empty, in their order.  Each of them has one bar in the group of each of
its keys, with the figures of the first point, and no others.  The order of points with different
keys does not matter. -/
theorem ofSeries_spec :
    (∃ keys, IsLaidOut (ofSeries text series xTitle yTitle yMax) text series keys) ∧
    ∀ others, List.Forall₂ PointSeries.Reordered series others →
      ofSeries text others xTitle yTitle yMax = ofSeries text series xTitle yTitle yMax :=
  ⟨⟨_, isLaidOut_ofSeries text series xTitle yTitle yMax⟩, fun _ h =>
    (ofSeries_reordered text xTitle yTitle yMax h).symm⟩

end Series

/-- Two series with the same label, around an empty one; in the first of them a key is repeated. -/
theorem ofSeries_spec_repeated_key :
    let late : ChartPoint UInt32 := ⟨12, 1, 0⟩
    let early : ChartPoint UInt32 := ⟨4, 2, 0⟩
    let rest : List (PointSeries UInt32) := [⟨"none", []⟩, ⟨"a", [⟨8, 4, 1⟩]⟩]
    let series := ⟨"a", [late, early, ⟨12, 3, 0⟩]⟩ :: rest
    let others := ⟨"a", [early, late, ⟨12, 3, 0⟩]⟩ :: rest
    let chart := ofSeries countText series "x" "y" none
    (∃ keys, IsLaidOut chart countText series keys) ∧
      List.Forall₂ PointSeries.Reordered series others ∧
      ofSeries countText others "x" "y" none = chart ∧
      chart.groups = ["4", "8", "12"] ∧
      chart.series.map (fun s => (s.label, s.bars.map fun bar => (bar.group, bar.figures))) =
        [("a", [(0, 2, 0), (2, 1, 0)]), ("a", [(1, 4, 1)])] := by
  intro late early rest series others chart
  have hreordered : List.Forall₂ PointSeries.Reordered series others := by
    refine .cons (PointSeries.reordered_exchange "a" [] _ (by decide)) ?_
    exact List.forall₂_same.mpr fun _ _ => ⟨rfl, fun _ => rfl⟩
  obtain ⟨hlaidOut, hsame⟩ := ofSeries_spec countText series "x" "y" none
  refine ⟨hlaidOut, hreordered, hsame others hreordered, by decide +kernel, ?_⟩
  rw [series_ofSeries]
  decide +kernel

end BarChart

end BenchReport
