import Mathlib
import BenchReport.Chart.Bar

/-!
# The bars of one series

A series is laid out in three steps, and what each of them does is said here on its own.

Of the points with the same key only the first one is kept (`IsFirst`, `BarChart.mem_firstPoints`), so no
two of those that are kept have the same key.  Its key is searched among the keys of the groups by
halving them.  A place that is found always has the key (`BarChart.getElem?_of_search`), but only among
ascending keys are all keys found (`BarChart.exists_search_of_mem`), and a point whose key is not found
would be left out without a word.  Sorting the bars by their groups puts them into strictly ascending
order, since no two of them are in the same group (`BarChart.ascending_barsOf`).

All in all the bars of a series are those of its first points, each in the group of its key
(`BarChart.mem_barsOf`).
-/

namespace BenchReport

variable {κ : Type}

/-! ## First points -/

/-- Whether a point is the first one with its key. -/
def IsFirst (points : List (ChartPoint κ)) (point : ChartPoint κ) : Prop :=
  ∃ before after, points = before ++ point :: after ∧ ∀ other ∈ before, other.key ≠ point.key

lemma isFirst_cons {first point : ChartPoint κ} {points : List (ChartPoint κ)} :
    IsFirst (first :: points) point ↔
      point = first ∨ IsFirst points point ∧ first.key ≠ point.key := by
  constructor
  · rintro ⟨before, after, hpoints, hbefore⟩
    cases before with
    | nil =>
      obtain ⟨rfl, -⟩ := List.cons.inj hpoints
      exact .inl rfl
    | cons head before =>
      obtain ⟨rfl, rfl⟩ := List.cons.inj hpoints
      rw [List.forall_mem_cons] at hbefore
      exact .inr ⟨⟨before, after, rfl, hbefore.2⟩, hbefore.1⟩
  · rintro (rfl | ⟨⟨before, after, rfl, hbefore⟩, hne⟩)
    · exact ⟨[], points, rfl, by simp⟩
    · exact ⟨first :: before, after, rfl, List.forall_mem_cons.mpr ⟨hne, hbefore⟩⟩

lemma IsFirst.mem {points : List (ChartPoint κ)} {point : ChartPoint κ} (h : IsFirst points point) :
    point ∈ points := by
  obtain ⟨before, after, rfl, -⟩ := h
  exact List.mem_append_right _ List.mem_cons_self

section Points

variable [DecidableEq κ] {points : List (ChartPoint κ)} {point : ChartPoint κ}

/-- The first point with a key is the one that is found. -/
lemma isFirst_iff {key : κ} :
    (points.find? fun other => other.key = key) = some point ↔
      IsFirst points point ∧ point.key = key := by
  rw [List.find?_eq_some_iff_append]
  simp only [decide_eq_true_eq, Bool.not_eq_true', decide_eq_false_iff_not, IsFirst]
  constructor
  · rintro ⟨rfl, before, after, hpoints, hbefore⟩
    exact ⟨⟨before, after, hpoints, hbefore⟩, rfl⟩
  · rintro ⟨⟨before, after, hpoints, hbefore⟩, rfl⟩
    exact ⟨rfl, before, after, hpoints, hbefore⟩

/-- A key that occurs has a first point. -/
lemma exists_isFirst (h : point ∈ points) : ∃ first, IsFirst points first ∧ first.key = point.key := by
  obtain ⟨first, hfirst⟩ : ∃ first, (points.find? fun other => other.key = point.key) = some first :=
    Option.isSome_iff_exists.mp (List.find?_isSome.mpr ⟨point, h, by simp⟩)
  exact ⟨first, isFirst_iff.mp hfirst⟩

namespace BarChart

/-- The points that are kept are the first ones with a key that has not been seen. -/
lemma mem_firstPoints {seen : List κ} :
    point ∈ firstPoints seen points ↔ IsFirst points point ∧ point.key ∉ seen := by
  induction points generalizing seen with
  | nil => simp [firstPoints, IsFirst]
  | cons first points ih =>
    rw [firstPoints, isFirst_cons]
    split_ifs with hseen
    · rw [ih]
      constructor
      · rintro ⟨hpoint, hnew⟩
        exact ⟨.inr ⟨hpoint, fun heq => hnew (heq ▸ hseen)⟩, hnew⟩
      · rintro ⟨rfl | ⟨hpoint, -⟩, hnew⟩
        · exact absurd hseen hnew
        · exact ⟨hpoint, hnew⟩
    · rw [List.mem_cons, ih, List.mem_cons, not_or]
      constructor
      · rintro (rfl | ⟨hpoint, hne, hnew⟩)
        · exact ⟨.inl rfl, hseen⟩
        · exact ⟨.inr ⟨hpoint, Ne.symm hne⟩, hnew⟩
      · rintro ⟨rfl | ⟨hpoint, hne⟩, hnew⟩
        · exact .inl rfl
        · exact .inr ⟨hpoint, Ne.symm hne, hnew⟩

/-- No two points that are kept have the same key. -/
lemma pairwise_firstPoints (seen : List κ) (points : List (ChartPoint κ)) :
    (firstPoints seen points).Pairwise fun a b => a.key ≠ b.key := by
  induction points generalizing seen with
  | nil => exact .nil
  | cons first points ih =>
    rw [firstPoints]
    split_ifs
    · exact ih seen
    · refine List.pairwise_cons.mpr ⟨fun point hpoint heq => ?_, ih _⟩
      exact (mem_firstPoints.mp hpoint).2 (heq ▸ List.mem_cons_self)

end BarChart

end Points

namespace BarChart

/-! ## The search for a key -/

/-- Ascending keys that stand before and behind one of them are smaller and larger ones. -/
lemma mem_half_of_mem [LT κ] {below above : List κ} {key middle : κ}
    (hkeys : (below ++ middle :: above).Pairwise (· < ·)) (hkey : key ∈ below ++ middle :: above)
    (hne : key ≠ middle) : (key ∈ below ∧ key < middle) ∨ (key ∈ above ∧ middle < key) := by
  obtain ⟨-, hrest, hbelow⟩ := List.pairwise_append.mp hkeys
  rcases List.mem_append.mp hkey with hkey | hkey
  · exact .inl ⟨hkey, hbelow key hkey middle List.mem_cons_self⟩
  · have habove := (List.mem_cons.mp hkey).resolve_left hne
    exact .inr ⟨habove, List.rel_of_pairwise_cons hrest habove⟩

section Search

variable [DecidableEq κ] [LT κ] [DecidableLT κ] {key : κ} {keys : List κ}

/-- A place that is found has the key. -/
lemma getElem?_of_search {i : ℕ} (h : search key keys = some i) : keys[i]? = some key := by
  fun_induction search key keys generalizing i with
  | case1 => cases h
  | case2 keys above hdrop =>
    obtain rfl := Option.some.inj h
    rw [← Nat.add_zero (keys.length / 2), ← List.getElem?_drop, hdrop]
    rfl
  | case3 keys middle above hdrop hne hlt ih =>
    have hi := ih h
    rw [List.getElem?_take] at hi
    split_ifs at hi
    exact hi
  | case4 keys middle above hdrop hne hge ih =>
    obtain ⟨j, hj, rfl⟩ := Option.map_eq_some_iff.mp h
    rw [Nat.add_assoc, ← List.getElem?_drop, hdrop, Nat.add_comm 1]
    exact ih hj

variable [IsTrans κ (· < ·)] [Std.Irrefl (fun a b : κ => a < b)]

/-- Among ascending keys every key is found. -/
lemma exists_search_of_mem (hkeys : keys.Pairwise (· < ·)) (hkey : key ∈ keys) :
    ∃ i, search key keys = some i := by
  fun_induction search key keys with
  | case1 keys hdrop =>
    have hlength := congrArg List.length hdrop
    rw [List.length_drop, List.length_nil] at hlength
    obtain rfl : keys = [] := List.length_eq_zero_iff.mp (by omega)
    cases hkey
  | case2 => exact ⟨_, rfl⟩
  | case3 keys middle above hdrop hne hlt ih =>
    have hsplit : keys.take (keys.length / 2) ++ middle :: above = keys := by
      rw [← hdrop, List.take_append_drop]
    rcases mem_half_of_mem (hsplit.symm ▸ hkeys) (hsplit.symm ▸ hkey) hne with ⟨hbelow, -⟩ | ⟨-, hgt⟩
    · exact ih (hkeys.sublist (List.take_sublist _ _)) hbelow
    · exact absurd (IsTrans.trans _ _ _ hlt hgt) (Std.Irrefl.irrefl _)
  | case4 keys middle above hdrop hne hge ih =>
    have hsplit : keys.take (keys.length / 2) ++ middle :: above = keys := by
      rw [← hdrop, List.take_append_drop]
    rcases mem_half_of_mem (hsplit.symm ▸ hkeys) (hsplit.symm ▸ hkey) hne with ⟨-, hlt⟩ | ⟨habove, -⟩
    · exact absurd hlt hge
    · have hrest : above.Pairwise (· < ·) :=
        (List.pairwise_cons.mp (hdrop ▸ hkeys.sublist (List.drop_sublist _ _))).2
      obtain ⟨i, hi⟩ := ih hrest habove
      exact ⟨_, by rw [hi]; rfl⟩

/-- Among ascending keys a key is found at its place. -/
lemma search_eq_some_iff (hkeys : keys.Pairwise (· < ·)) {i : ℕ} :
    search key keys = some i ↔ keys[i]? = some key := by
  refine ⟨getElem?_of_search, fun hi => ?_⟩
  obtain ⟨j, hj⟩ := exists_search_of_mem hkeys (List.mem_of_getElem? hi)
  obtain ⟨hlt, -⟩ := List.getElem?_eq_some_iff.mp hi
  rw [hj, (List.getElem?_inj hlt hkeys.nodup).mp (hi.trans (getElem?_of_search hj).symm)]

end Search

/-! ## The bars -/

/-- An item of ascending items is found by what they ascend by. -/
lemma filter_eq_singleton {α : Type} {rank : α → ℕ} {items : List α}
    (h : items.Pairwise fun a b => rank a < rank b) {item : α} (hitem : item ∈ items) :
    (items.filter fun other => rank other = rank item) = [item] := by
  obtain ⟨before, after, rfl⟩ := List.append_of_mem hitem
  obtain ⟨-, hafter, hbefore⟩ := List.pairwise_append.mp h
  have hfront : (before.filter fun other => rank other = rank item) = [] := by
    refine List.filter_eq_nil_iff.mpr fun other hother heq => ?_
    exact (hbefore other hother item List.mem_cons_self).ne (of_decide_eq_true heq)
  have hback : (after.filter fun other => rank other = rank item) = [] := by
    refine List.filter_eq_nil_iff.mpr fun other hother heq => ?_
    exact (List.rel_of_pairwise_cons hafter hother).ne' (of_decide_eq_true heq)
  rw [List.filter_append, List.filter_cons_of_pos (by simp), hfront, hback, List.nil_append]

section Bars

variable [DecidableEq κ] [LT κ] [DecidableLT κ] {points : List (ChartPoint κ)} {keys : List κ}

/-- The bars of a series stand in the groups from left to right, at most one in each. -/
lemma ascending_barsOf (points : List (ChartPoint κ)) (keys : List κ) :
    (barsOf points keys).Pairwise fun a b => a.group < b.group := by
  have hsorted : (barsOf points keys).Pairwise fun a b => a.group ≤ b.group := by
    refine (List.pairwise_mergeSort (fun a b c hab hbc => ?_) (fun a b => ?_) _).imp of_decide_eq_true
    · exact decide_eq_true ((of_decide_eq_true hab).trans (of_decide_eq_true hbc))
    · simpa using Nat.le_total a.group b.group
  -- two bars in one group would have points with the key of that group
  have hdifferent : ((firstPoints [] points).filterMap (bar? keys)).Pairwise
      fun a b => a.group ≠ b.group := by
    refine List.pairwise_filterMap.mpr ((pairwise_firstPoints [] points).imp ?_)
    rintro point other hne a ha b hb heq
    obtain ⟨i, hi, rfl⟩ := Option.map_eq_some_iff.mp ha
    obtain ⟨j, hj, rfl⟩ := Option.map_eq_some_iff.mp hb
    obtain rfl : i = j := heq
    exact hne (Option.some.inj ((getElem?_of_search hi).symm.trans (getElem?_of_search hj)))
  have hbars : (barsOf points keys).Pairwise fun a b => a.group ≠ b.group :=
    (List.mergeSort_perm _ _).symm.pairwise hdifferent fun h => h.symm
  exact hsorted.imp₂ (fun _ _ hle hne => lt_of_le_of_ne hle hne) hbars

/-- A bar is that of a first point, in the group of its key. -/
lemma exists_of_mem_barsOf {bar : Bar} (h : bar ∈ barsOf points keys) :
    ∃ point, IsFirst points point ∧ keys[bar.group]? = some point.key ∧
      bar = ⟨bar.group, point.value, point.error⟩ := by
  rw [barsOf, List.mem_mergeSort, List.mem_filterMap] at h
  obtain ⟨point, hpoint, hbar⟩ := h
  obtain ⟨group, hgroup, rfl⟩ := Option.map_eq_some_iff.mp hbar
  exact ⟨point, (mem_firstPoints.mp hpoint).1, getElem?_of_search hgroup, rfl⟩

variable [IsTrans κ (· < ·)] [Std.Irrefl (fun a b : κ => a < b)]

/-- If the keys ascend, the first point of each of them has its bar. -/
lemma bar_mem_barsOf (hkeys : keys.Pairwise (· < ·)) {point : ChartPoint κ}
    (hpoint : IsFirst points point) {group : ℕ} (hgroup : keys[group]? = some point.key) :
    ⟨group, point.value, point.error⟩ ∈ barsOf points keys := by
  rw [barsOf, List.mem_mergeSort, List.mem_filterMap]
  refine ⟨point, mem_firstPoints.mpr ⟨hpoint, List.not_mem_nil⟩, ?_⟩
  rw [bar?, (search_eq_some_iff hkeys).mpr hgroup]
  rfl

/-- The bars of a series are those of its first points, each in the group of its key. -/
theorem mem_barsOf (hkeys : keys.Pairwise (· < ·)) {bar : Bar} :
    bar ∈ barsOf points keys ↔ ∃ point, IsFirst points point ∧ keys[bar.group]? = some point.key ∧
      bar = ⟨bar.group, point.value, point.error⟩ := by
  refine ⟨exists_of_mem_barsOf, ?_⟩
  rintro ⟨point, hpoint, hgroup, hbar⟩
  rw [hbar]
  exact bar_mem_barsOf hkeys hpoint hgroup

/-- In the group of a key there is the bar of its first point, and no other one. -/
lemma filter_barsOf (hkeys : keys.Pairwise (· < ·)) {point : ChartPoint κ}
    (hpoint : IsFirst points point) {group : ℕ} (hgroup : keys[group]? = some point.key) :
    ((barsOf points keys).filter fun bar => bar.group = group) = [⟨group, point.value, point.error⟩] :=
  filter_eq_singleton (ascending_barsOf points keys) (bar_mem_barsOf hkeys hpoint hgroup)

/-- The bars of a series come in the order of the keys: for each of them the bar of its first point, if
it has one. -/
theorem barsOf_eq (hkeys : keys.Pairwise (· < ·)) : barsOf points keys =
    keys.zipIdx.filterMap fun place =>
      (points.find? fun point => point.key = place.1).map fun point =>
        ⟨place.2, point.value, point.error⟩ := by
  have : Std.Antisymm fun a b : Bar => a.group < b.group := ⟨fun _ _ hab hba => absurd hab hba.asymm⟩
  have hplaces : keys.zipIdx.Pairwise fun a b => a.2 < b.2 :=
    List.pairwise_iff_getElem.mpr fun i j _ _ hlt => by simpa using hlt
  refine (ascending_barsOf points keys).eq_of_mem_iff ?_ fun bar => ?_
  · refine List.pairwise_filterMap.mpr (hplaces.imp ?_)
    rintro ⟨key, group⟩ ⟨other, later⟩ hlt a ha b hb
    obtain ⟨_, -, rfl⟩ := Option.map_eq_some_iff.mp ha
    obtain ⟨_, -, rfl⟩ := Option.map_eq_some_iff.mp hb
    exact hlt
  · rw [mem_barsOf hkeys, List.mem_filterMap]
    constructor
    · rintro ⟨point, hpoint, hgroup, hbar⟩
      refine ⟨(point.key, bar.group), List.mem_zipIdx_iff_getElem?.mpr hgroup, ?_⟩
      rw [isFirst_iff.mpr ⟨hpoint, rfl⟩, hbar, Option.map_some]
    · rintro ⟨⟨key, group⟩, hmem, hbar⟩
      obtain ⟨point, hfind, rfl⟩ := Option.map_eq_some_iff.mp hbar
      obtain ⟨hpoint, rfl⟩ := isFirst_iff.mp hfind
      exact ⟨point, hpoint, List.mem_zipIdx_iff_getElem?.mp hmem, rfl⟩

end Bars

end BarChart

end BenchReport
