import BenchReport.Proofs.SeriesBars
import BenchReport.Sample

/-!
# What a bar chart shows

A chart is looked at as its reader does: under the label of a series and in the group with a label
there are some bars (`BarChart.barsAt`).  Of a chart that was made of series with different labels,
these are one bar for the first point of the series with the key of the group, and none if there is
no such point (`BarChart.barsAt_ofSeries`).  The groups are those of the keys of all points, each
once (`BarChart.mem_groups_ofSeries`).

The keys of the groups ascend (`BarChart.pairwise_sortedKeys`), so in all of this the bars of a series
can be told key by key (`BarChart.series_ofSeries`).

All that can be read from a chart is `BarChart.reading`: the labels of its series, and with each of
them the bars in order, by the labels of their groups.  Of series with ascending keys it is these
series without the empty ones (`BarChart.reading_ofSeries_of_ascending`).
-/

namespace BenchReport

/-- The figures that a bar shows. -/
def Bar.figures (bar : Bar) : Float × Float := (bar.value, bar.error)

/-- The figures of a point. -/
def ChartPoint.figures {κ : Type} (point : ChartPoint κ) : Float × Float :=
  (point.value, point.error)

/-- The two figures of a mean and its spread. -/
def MeanSpread.figures (stats : MeanSpread) : Float × Float := (stats.mean, stats.spread)

namespace BarChart

/-- The bars of the series with a label that stand in the group with a label. -/
def barsAt (chart : BarChart) (label group : String) : List Bar :=
  (chart.series.filter fun s => s.label = label).flatMap fun s =>
    s.bars.filter fun bar => chart.groups[bar.group]? = some group

/-- What can be read from a chart: the labels of the series, and with each of them its bars, by the
labels of their groups. -/
def reading (chart : BarChart) : List (String × List (Option String × Float × Float)) :=
  chart.series.map fun s =>
    (s.label, s.bars.map fun bar => (chart.groups[bar.group]?, bar.figures))

variable {κ : Type}

/-! ## Keys -/

lemma mem_allKeys_present {series : List (PointSeries κ)} {key : κ} :
    key ∈ allKeys (series.filter fun s => !s.points.isEmpty) ↔
      ∃ s ∈ series, ∃ point ∈ s.points, point.key = key := by
  simp only [allKeys, List.mem_flatMap, List.mem_filter, List.mem_map]
  constructor
  · rintro ⟨s, ⟨hs, -⟩, point, hpoint, rfl⟩
    exact ⟨s, hs, point, hpoint, rfl⟩
  · rintro ⟨s, hs, point, hpoint, rfl⟩
    refine ⟨s, ⟨hs, ?_⟩, point, hpoint, rfl⟩
    cases hnil : s.points with
    | nil => simp [hnil] at hpoint
    | cons => rfl

section Sorted

variable [DecidableEq κ] [LT κ] [DecidableLT κ]

lemma mem_insertKey {x key : κ} {keys : List κ} : x ∈ insertKey key keys ↔ x = key ∨ x ∈ keys := by
  induction keys with
  | nil => simp [insertKey]
  | cons first rest ih =>
    rw [insertKey]
    split_ifs with hlt heq
    · simp
    · simp [heq]
    · simp only [List.mem_cons, ih]
      tauto

lemma mem_sortedKeys {x : κ} {keys : List κ} : x ∈ sortedKeys keys ↔ x ∈ keys := by
  have hfold : ∀ sorted : List κ,
      x ∈ keys.foldl (fun sorted key => insertKey key sorted) sorted ↔ x ∈ sorted ∨ x ∈ keys := by
    induction keys with
    | nil => simp
    | cons key rest ih =>
      intro sorted
      rw [List.foldl_cons, ih, mem_insertKey, List.mem_cons]
      tauto
  simpa [sortedKeys] using hfold []

variable [IsTrans κ (· < ·)] [Std.Trichotomous (fun a b : κ => a < b)]

lemma pairwise_insertKey {key : κ} {keys : List κ} (h : keys.Pairwise (· < ·)) :
    (insertKey key keys).Pairwise (· < ·) := by
  induction keys with
  | nil => simp [insertKey]
  | cons first rest ih =>
    obtain ⟨hfirst, hrest⟩ := List.pairwise_cons.mp h
    rw [insertKey]
    split_ifs with hlt heq
    · refine List.pairwise_cons.mpr ⟨?_, h⟩
      intro x hx
      rcases List.mem_cons.mp hx with rfl | hx
      · exact hlt
      · exact IsTrans.trans _ _ _ hlt (hfirst x hx)
    · exact h
    · refine List.pairwise_cons.mpr ⟨?_, ih hrest⟩
      intro x hx
      rcases mem_insertKey.mp hx with rfl | hx
      · by_contra hge
        exact heq (Std.Trichotomous.trichotomous _ _ hlt hge)
      · exact hfirst x hx

lemma pairwise_sortedKeys (keys : List κ) : (sortedKeys keys).Pairwise (· < ·) := by
  have hfold : ∀ sorted : List κ, sorted.Pairwise (· < ·) →
      (keys.foldl (fun sorted key => insertKey key sorted) sorted).Pairwise (· < ·) := by
    induction keys with
    | nil => exact fun sorted h => h
    | cons key rest ih => exact fun sorted h => ih _ (pairwise_insertKey h)
  exact hfold [] .nil

lemma nodup_sortedKeys [Std.Irrefl (fun a b : κ => a < b)] (keys : List κ) : (sortedKeys keys).Nodup :=
  (pairwise_sortedKeys keys).nodup

/-- The ascending keys depend on which keys there are only. -/
lemma sortedKeys_congr [Std.Irrefl (fun a b : κ => a < b)] {keys others : List κ}
    (h : ∀ key, key ∈ keys ↔ key ∈ others) : sortedKeys keys = sortedKeys others := by
  have : Std.Antisymm fun a b : κ => a < b :=
    ⟨fun _ _ hab hba => absurd (IsTrans.trans _ _ _ hab hba) (Std.Irrefl.irrefl _)⟩
  refine (pairwise_sortedKeys keys).eq_of_mem_iff (pairwise_sortedKeys others) fun key => ?_
  rw [mem_sortedKeys, mem_sortedKeys, h]

end Sorted

/-! ## Bars -/

section Bars

variable [DecidableEq κ]

section Views

variable [LT κ] [DecidableLT κ] [IsTrans κ (· < ·)] [Std.Irrefl (fun a b : κ => a < b)] {keys : List κ}

/-- The bars of a series come in the order of the keys. -/
lemma map_barsOf {γ : Type} (points : List (ChartPoint κ)) (hkeys : keys.Pairwise (· < ·))
    {view : Bar → γ} {viewAt : κ → ChartPoint κ → γ}
    (hview : ∀ group key, keys[group]? = some key → ∀ point : ChartPoint κ,
      view ⟨group, point.value, point.error⟩ = viewAt key point) :
    (barsOf points keys).map view =
      keys.filterMap fun key => (points.find? fun point => point.key = key).map (viewAt key) := by
  have hplace : ∀ place ∈ keys.zipIdx,
      ((points.find? fun point => point.key = place.1).map fun point =>
        (⟨place.2, point.value, point.error⟩ : Bar)).map view =
      (points.find? fun point => point.key = place.1).map (viewAt place.1) := by
    intro place hplace
    rw [Option.map_map]
    refine Option.map_congr fun point _ => ?_
    exact hview place.2 place.1 (List.mem_zipIdx_iff_getElem?.mp hplace) point
  rw [barsOf_eq hkeys, List.map_filterMap, List.filterMap_congr hplace]
  conv_rhs => rw [← List.zipIdx_map_fst 0 keys, List.filterMap_map]
  rfl

/-- The figures of the bars in the place of a key are those of the first point with that key. -/
lemma map_figures_filter_barsOf {points : List (ChartPoint κ)} (hkeys : keys.Pairwise (· < ·))
    (hpoints : ∀ point ∈ points, point.key ∈ keys) (key : κ) {here : Bar → Bool}
    (hhere : ∀ bar other, keys[bar.group]? = some other → here bar = decide (other = key)) :
    ((barsOf points keys).filter here).map Bar.figures =
      ((points.find? fun point => point.key = key).map ChartPoint.figures).toList := by
  cases hfind : points.find? fun point => point.key = key with
  | none =>
    have hnone : (barsOf points keys).filter here = [] := by
      refine List.filter_eq_nil_iff.mpr fun bar hbar => ?_
      obtain ⟨point, hpoint, hplace, -⟩ := exists_of_mem_barsOf hbar
      rw [hhere bar point.key hplace]
      exact List.find?_eq_none.mp hfind point hpoint.mem
    rw [hnone]
    rfl
  | some point =>
    obtain ⟨hpoint, rfl⟩ := isFirst_iff.mp hfind
    obtain ⟨group, hgroup⟩ := List.mem_iff_getElem?.mp (hpoints point hpoint.mem)
    obtain ⟨hlt, -⟩ := List.getElem?_eq_some_iff.mp hgroup
    have hsame : ∀ bar ∈ barsOf points keys, here bar = decide (bar.group = group) := by
      intro bar hbar
      obtain ⟨other, -, hplace, -⟩ := exists_of_mem_barsOf hbar
      rw [hhere bar other.key hplace, decide_eq_decide]
      constructor
      · intro heq
        exact ((List.getElem?_inj hlt hkeys.nodup).mp (hgroup.trans (heq ▸ hplace.symm))).symm
      · rintro rfl
        exact Option.some.inj (hplace.symm.trans hgroup)
    rw [List.filter_congr hsame, filter_barsOf hkeys hpoint hgroup]
    rfl

/-- The bars of a series depend on the figures of the first points with each key only. -/
lemma barsOf_congr {points others : List (ChartPoint κ)}
    (h : ∀ key, (points.find? fun point => point.key = key).map ChartPoint.figures =
      (others.find? fun point => point.key = key).map ChartPoint.figures)
    (hkeys : keys.Pairwise (· < ·)) : barsOf points keys = barsOf others keys := by
  have hbar : ∀ (list : List (ChartPoint κ)) (place : κ × ℕ),
      ((list.find? fun point => point.key = place.1).map fun point =>
        (⟨place.2, point.value, point.error⟩ : Bar)) =
      ((list.find? fun point => point.key = place.1).map ChartPoint.figures).map fun figures =>
        ⟨place.2, figures.1, figures.2⟩ := by
    intro list place
    rw [Option.map_map]
    rfl
  rw [barsOf_eq hkeys, barsOf_eq hkeys]
  simp only [hbar, h]

end Views

section Ascending

variable [LT κ] [Std.Irrefl (fun a b : κ => a < b)]

/-- A point among points with ascending keys is found by its key. -/
lemma find?_of_ascending {points : List (ChartPoint κ)}
    (h : points.Pairwise fun a b => a.key < b.key) {point : ChartPoint κ} (hpoint : point ∈ points) :
    (points.find? fun other => other.key = point.key) = some point := by
  obtain ⟨before, after, rfl⟩ := List.append_of_mem hpoint
  refine List.find?_eq_some_iff_append.mpr ⟨by simp, before, after, rfl, fun other hother => ?_⟩
  have hlt := (List.pairwise_append.mp h).2.2 other hother point List.mem_cons_self
  rw [Bool.not_eq_true', decide_eq_false_iff_not]
  intro hsame
  exact Std.Irrefl.irrefl point.key (by simpa [hsame] using hlt)

variable [IsTrans κ (· < ·)]

/-- Points with ascending keys are found in order. -/
lemma filterMap_find?_of_ascending {γ : Type} (view : κ → ChartPoint κ → γ) {keys : List κ}
    (hkeys : keys.Pairwise (· < ·)) {points : List (ChartPoint κ)}
    (hpoints : points.Pairwise fun a b => a.key < b.key) (hmem : ∀ point ∈ points, point.key ∈ keys) :
    (keys.filterMap fun key => (points.find? fun point => point.key = key).map (view key)) =
      points.map fun point => view point.key point := by
  induction keys generalizing points with
  | nil =>
    obtain rfl := List.eq_nil_iff_forall_not_mem.mpr fun point hpoint =>
      absurd (hmem point hpoint) List.not_mem_nil
    rfl
  | cons first rest ih =>
    obtain ⟨hfirst, hrest⟩ := List.pairwise_cons.mp hkeys
    cases points with
    | nil => simp
    | cons point points =>
      obtain ⟨hpoint, hlater⟩ := List.pairwise_cons.mp hpoints
      by_cases heq : point.key = first
      · -- the point is that of the first key, and all others are behind it
        have hothers : ∀ other ∈ points, other.key ∈ rest := fun other hother =>
          (List.mem_cons.mp (hmem other (List.mem_cons_of_mem _ hother))).resolve_left fun hsame =>
            Std.Irrefl.irrefl first (by simpa [heq, hsame] using hpoint other hother)
        have hskip : ∀ key ∈ rest, ((point :: points).find? fun other => other.key = key) =
            points.find? fun other => other.key = key := fun key hkey =>
          List.find?_cons_of_neg fun hsame => by
            rw [decide_eq_true_eq, heq] at hsame
            exact Std.Irrefl.irrefl first (by simpa [hsame] using hfirst key hkey)
        rw [List.filterMap_cons, List.find?_cons_of_pos (by simpa using heq), List.map_cons,
          ← ih hrest hlater hothers, ← heq]
        simp only [Option.map_some, List.cons.injEq, true_and]
        exact List.filterMap_congr fun key hkey => by rw [hskip key hkey]
      · -- no point has the first key
        have hbehind : point.key ∈ rest :=
          (List.mem_cons.mp (hmem point List.mem_cons_self)).resolve_left heq
        have hnone : ((point :: points).find? fun other => other.key = first) = none := by
          refine List.find?_eq_none.mpr fun other hother hsame => ?_
          rw [decide_eq_true_eq] at hsame
          rcases List.mem_cons.mp hother with rfl | hother
          · exact heq hsame
          · have hlt := IsTrans.trans _ _ _ (hfirst _ hbehind) (hpoint other hother)
            exact Std.Irrefl.irrefl first (by simpa [hsame] using hlt)
        have hothers : ∀ other ∈ point :: points, other.key ∈ rest := fun other hother =>
          (List.mem_cons.mp (hmem other hother)).resolve_left fun hsame => by
            have := List.find?_eq_none.mp hnone other hother
            exact this (by simpa using hsame)
        rw [List.filterMap_cons, hnone]
        exact ih hrest hpoints hothers

end Ascending

end Bars

/-! ## Charts of series -/

/-- Only one series has its label. -/
lemma filter_label {series : List (PointSeries κ)} (hlabels : (series.map PointSeries.label).Nodup)
    {s : PointSeries κ} (hs : s ∈ series) : (series.filter fun t => t.label = s.label) = [s] := by
  obtain ⟨before, after, rfl⟩ := List.append_of_mem hs
  rw [List.map_append, List.map_cons, List.nodup_append, List.nodup_cons] at hlabels
  obtain ⟨-, ⟨hafter, -⟩, hbefore⟩ := hlabels
  have hnone : ∀ part : List (PointSeries κ), s.label ∉ part.map PointSeries.label →
      (part.filter fun t => t.label = s.label) = [] := by
    intro part hpart
    refine List.filter_eq_nil_iff.mpr fun t ht heq => hpart ?_
    exact List.mem_map.mpr ⟨t, ht, of_decide_eq_true heq⟩
  have hfront : s.label ∉ before.map PointSeries.label := by
    intro hmem
    exact hbefore _ hmem _ List.mem_cons_self rfl
  rw [List.filter_append, List.filter_cons_of_pos (by simp), hnone before hfront,
    hnone after hafter, List.nil_append]

section Series

variable [DecidableEq κ] [LT κ] [DecidableLT κ] {text : κ → String} {series : List (PointSeries κ)}
  {xTitle yTitle : String} {yMax : Option Float}

/-- The groups are those of the keys of all points. -/
lemma mem_groups_ofSeries {group : String} :
    group ∈ (ofSeries text series xTitle yTitle yMax).groups ↔
      ∃ s ∈ series, ∃ point ∈ s.points, text point.key = group := by
  simp only [ofSeries, List.mem_map, mem_sortedKeys, mem_allKeys_present]
  constructor
  · rintro ⟨_, ⟨s, hs, point, hpoint, rfl⟩, rfl⟩
    exact ⟨s, hs, point, hpoint, rfl⟩
  · rintro ⟨s, hs, point, hpoint, rfl⟩
    exact ⟨point.key, ⟨s, hs, point, hpoint, rfl⟩, rfl⟩

/-- A bar stands under the label of its series and in the group of the key of its point. -/
lemma exists_point_of_mem_bars {shown : BarSeries}
    (hshown : shown ∈ (ofSeries text series xTitle yTitle yMax).series) {bar : Bar}
    (hbar : bar ∈ shown.bars) :
    ∃ s ∈ series, shown.label = s.label ∧ ∃ point ∈ s.points,
      (ofSeries text series xTitle yTitle yMax).groups[bar.group]? = some (text point.key) := by
  simp only [ofSeries, List.mem_map, List.mem_filter] at hshown
  obtain ⟨s, ⟨hs, -⟩, rfl⟩ := hshown
  obtain ⟨point, hpoint, hkey, -⟩ := exists_of_mem_barsOf hbar
  refine ⟨s, hs, rfl, point, hpoint.mem, ?_⟩
  rw [ofSeries, List.getElem?_map, hkey]
  rfl

variable [IsTrans κ (· < ·)] [Std.Trichotomous (fun a b : κ => a < b)]

variable (text series xTitle yTitle yMax) in
/-- The groups are those of the keys of all points, in ascending order. -/
lemma groups_ofSeries : ∃ keys : List κ,
    (ofSeries text series xTitle yTitle yMax).groups = keys.map text ∧ keys.Pairwise (· < ·) ∧
      ∀ key, key ∈ keys ↔ ∃ s ∈ series, ∃ point ∈ s.points, point.key = key :=
  ⟨_, rfl, pairwise_sortedKeys _, fun _ => mem_sortedKeys.trans mem_allKeys_present⟩

variable [Std.Irrefl (fun a b : κ => a < b)]

/-- The series of a chart, with the bars of each in the order of the keys. -/
theorem series_ofSeries : (ofSeries text series xTitle yTitle yMax).series =
    (series.filter fun s => !s.points.isEmpty).map fun s => ⟨s.label,
      (sortedKeys (allKeys (series.filter fun t => !t.points.isEmpty))).zipIdx.filterMap fun place =>
        (s.points.find? fun point => point.key = place.1).map fun point =>
          ⟨place.2, point.value, point.error⟩⟩ := by
  rw [ofSeries]
  simp only [barsOf_eq (pairwise_sortedKeys _)]

/-- No series of a chart is empty. -/
lemma bars_ne_nil_of_mem_series {shown : BarSeries}
    (hshown : shown ∈ (ofSeries text series xTitle yTitle yMax).series) : shown.bars ≠ [] := by
  simp only [ofSeries, List.mem_map, List.mem_filter, Bool.not_eq_true', List.isEmpty_eq_false_iff]
    at hshown
  obtain ⟨s, ⟨hs, hpoints⟩, rfl⟩ := hshown
  obtain ⟨point, hpoint⟩ := List.exists_mem_of_ne_nil _ hpoints
  obtain ⟨first, hfirst, -⟩ := exists_isFirst hpoint
  have hkey : first.key ∈ sortedKeys (allKeys (series.filter fun t => !t.points.isEmpty)) :=
    mem_sortedKeys.mpr (mem_allKeys_present.mpr ⟨s, hs, first, hfirst.mem, rfl⟩)
  obtain ⟨group, hgroup⟩ := List.mem_iff_getElem?.mp hkey
  exact List.ne_nil_of_mem (bar_mem_barsOf (pairwise_sortedKeys _) hfirst hgroup)

/-- A chart of series is empty if there is no point. -/
lemma isEmpty_ofSeries : (ofSeries text series xTitle yTitle yMax).isEmpty = true ↔
    ∀ s ∈ series, s.points = [] := by
  rw [isEmpty, List.all_eq_true]
  constructor
  · intro h s hs
    by_contra hpoints
    have hpresent : s ∈ series.filter fun t => !t.points.isEmpty :=
      List.mem_filter.mpr ⟨hs, by simpa using hpoints⟩
    obtain ⟨shown, hshown⟩ : ∃ shown, shown ∈ (ofSeries text series xTitle yTitle yMax).series :=
      ⟨_, List.mem_map.mpr ⟨s, hpresent, rfl⟩⟩
    exact bars_ne_nil_of_mem_series hshown (List.isEmpty_iff.mp (h shown hshown))
  · intro h shown hshown
    simp only [ofSeries, List.mem_map, List.mem_filter, Bool.not_eq_true',
      List.isEmpty_eq_false_iff] at hshown
    obtain ⟨s, ⟨hs, hpoints⟩, -⟩ := hshown
    exact absurd (h s hs) hpoints

/-- What can be read from a chart of series. -/
theorem reading_ofSeries :
    (ofSeries text series xTitle yTitle yMax).reading =
      (series.filter fun s => !s.points.isEmpty).map fun s =>
        (s.label, (sortedKeys (allKeys (series.filter fun t => !t.points.isEmpty))).filterMap fun key =>
          (s.points.find? fun point => point.key = key).map fun point =>
            (some (text key), point.figures)) := by
  rw [reading, ofSeries, List.map_map]
  refine List.map_congr_left fun s _ => Prod.ext rfl ?_
  refine map_barsOf s.points (pairwise_sortedKeys _) fun group key hkey point => ?_
  rw [List.getElem?_map, hkey]
  rfl

lemma nodup_groups_ofSeries (htext : Function.Injective text) :
    (ofSeries text series xTitle yTitle yMax).groups.Nodup :=
  (nodup_sortedKeys _).map htext

/-- Under the label of a series and in the group of a key there is one bar for the first point of
the series with that key. -/
theorem barsAt_ofSeries (htext : Function.Injective text)
    (hlabels : (series.map PointSeries.label).Nodup) {s : PointSeries κ} (hs : s ∈ series) (key : κ) :
    ((ofSeries text series xTitle yTitle yMax).barsAt s.label (text key)).map Bar.figures =
      ((s.points.find? fun point => point.key = key).map ChartPoint.figures).toList := by
  set keys := sortedKeys (allKeys (series.filter fun t => !t.points.isEmpty)) with hkeys
  have hshown : ((ofSeries text series xTitle yTitle yMax).series.filter fun t =>
      t.label = s.label) =
      ([s].filter fun t => !t.points.isEmpty).map fun t => ⟨t.label, barsOf t.points keys⟩ := by
    rw [ofSeries, List.filter_map, ← filter_label hlabels hs, List.filter_filter, List.filter_filter]
    simp only [Bool.and_comm, Function.comp_def]
    rfl
  rw [barsAt, hshown]
  cases hempty : s.points.isEmpty with
  | true =>
    rw [List.isEmpty_iff] at hempty
    simp [hempty]
  | false =>
    have hpoints : ∀ point ∈ s.points, point.key ∈ keys := by
      intro point hpoint
      rw [hkeys, mem_sortedKeys, mem_allKeys_present]
      exact ⟨s, hs, point, hpoint, rfl⟩
    have hhere : ∀ (bar : Bar) other, keys[bar.group]? = some other →
        decide ((ofSeries text series xTitle yTitle yMax).groups[bar.group]? = some (text key)) =
          decide (other = key) := by
      intro bar other hother
      simp only [ofSeries, ← hkeys, List.getElem?_map, hother, Option.map_some, Option.some.injEq,
        htext.eq_iff]
    simp only [hempty, List.filter_cons, Bool.not_false, if_true, List.filter_nil, List.map_cons,
      List.map_nil, List.flatMap_cons, List.flatMap_nil, List.append_nil]
    exact map_figures_filter_barsOf (pairwise_sortedKeys _) hpoints key hhere

/-- A chart of series depends on the figures of the first points with each key only. -/
theorem ofSeries_congr {ι : Type} {items : List ι} {s t : ι → PointSeries κ}
    (hlabel : ∀ i ∈ items, (s i).label = (t i).label)
    (hpoints : ∀ i ∈ items, ∀ key,
      ((s i).points.find? fun point => point.key = key).map ChartPoint.figures =
        ((t i).points.find? fun point => point.key = key).map ChartPoint.figures) :
    ofSeries text (items.map s) xTitle yTitle yMax = ofSeries text (items.map t) xTitle yTitle yMax := by
  have hmem : ∀ i ∈ items, ∀ key,
      (∃ point ∈ (s i).points, point.key = key) ↔ ∃ point ∈ (t i).points, point.key = key := by
    intro i hi key
    have hfind := congrArg Option.isSome (hpoints i hi key)
    rw [Option.isSome_map, Option.isSome_map, Bool.eq_iff_iff, List.find?_isSome,
      List.find?_isSome] at hfind
    simpa using hfind
  have hpresent : ∀ i ∈ items, (!(s i).points.isEmpty) = !(t i).points.isEmpty := by
    intro i hi
    have hany : ∀ points : List (ChartPoint κ),
        (!points.isEmpty) = true ↔ ∃ key, ∃ point ∈ points, point.key = key := by
      intro points
      rw [Bool.not_eq_true', List.isEmpty_eq_false_iff_exists_mem]
      exact ⟨fun ⟨point, hpoint⟩ => ⟨_, point, hpoint, rfl⟩, fun ⟨_, point, hpoint, _⟩ =>
        ⟨point, hpoint⟩⟩
    rw [Bool.eq_iff_iff, hany, hany]
    exact exists_congr (hmem i hi)
  have hkeys : sortedKeys (allKeys ((items.map s).filter fun u => !u.points.isEmpty)) =
      sortedKeys (allKeys ((items.map t).filter fun u => !u.points.isEmpty)) := by
    refine sortedKeys_congr fun key => ?_
    rw [mem_allKeys_present, mem_allKeys_present]
    simp only [List.mem_map, exists_exists_and_eq_and]
    exact exists_congr fun i => and_congr_right fun hi => hmem i hi key
  simp only [ofSeries, hkeys, BarChart.mk.injEq, and_true, true_and]
  simp only [List.filter_map, Function.comp_def, List.map_map, List.filter_congr hpresent]
  refine List.map_congr_left fun i hi => ?_
  have hitem := (List.mem_filter.mp hi).1
  rw [hlabel i hitem, barsOf_congr (hpoints i hitem) (pairwise_sortedKeys _)]

variable (text xTitle yTitle yMax) in
/-- From a chart of series with ascending keys these series are read, without the empty ones. -/
theorem reading_ofSeries_of_ascending
    (h : ∀ s ∈ series, s.points.Pairwise fun a b => a.key < b.key) :
    (ofSeries text series xTitle yTitle yMax).reading =
      (series.filter fun s => !s.points.isEmpty).map fun s =>
        (s.label, s.points.map fun point => (some (text point.key), point.figures)) := by
  rw [reading_ofSeries]
  refine List.map_congr_left fun s hs => Prod.ext rfl ?_
  refine filterMap_find?_of_ascending (fun key point => (some (text key), point.figures))
    (pairwise_sortedKeys _) (h s (List.mem_filter.mp hs).1) fun point hpoint => ?_
  rw [mem_sortedKeys]
  exact List.mem_flatMap.mpr ⟨s, hs, List.mem_map_of_mem hpoint⟩

end Series

/-! ## Two charts of the same places -/

end BarChart

end BenchReport
