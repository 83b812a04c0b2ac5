import Mathlib
import BenchReport.Journal.Noted
import BenchReport.Log.Name

/-!
# Scans

A scan looks at places in a fixed order, takes what it finds there and stops at the first fault.
`Scans fault found step places` says that a step does this: its outcome is the error of the first of
the places that has one (`fault`), and if none has, the findings at all places in order (`found`).
Scans are put together by `Scans.gather`, however deep the loops are nested, so the outcome of a
whole collection is told by one list of places.

Where the places ascend in some order, the fault that ends a scan can be told without the list: it is
the one of the lowest place that has a fault (`FirstFault`, `Scans.eq_error_iff`).  Loops over
ascending counts and numbers visit places in ascending order (`ascending_flatMap`).

A loop whose steps find several things at once is told step by step (`Noted.outcome_gather_eq_ok`,
`Noted.outcome_gather_eq_error`).  A loop that stops at the first item with a property is told by that
item and the ones before it (`FirstWith`).
-/

namespace BenchReport

section

variable {ε α β κ : Type}

/-! ## A value or a fault -/

/-- The value, unless there is a fault. -/
def unlessFault (fault : Option ε) (value : α) : Except ε α :=
  match fault with
  | some error => .error error
  | none => .ok value

lemma unlessFault_eq_ok {fault : Option ε} {value found : α} :
    unlessFault fault value = .ok found ↔ fault = none ∧ value = found := by
  cases fault <;> simp [unlessFault]

lemma unlessFault_eq_error {fault : Option ε} {value : α} {error : ε} :
    unlessFault fault value = .error error ↔ fault = some error := by
  cases fault <;> simp [unlessFault]

/-! ## Items with their findings -/

/-- Where each item has a finding there is a list of them. -/
lemma exists_forall₂_iff {r : α → β → Prop} {items : List α} :
    (∃ found, List.Forall₂ r items found) ↔ ∀ item ∈ items, ∃ value, r item value := by
  induction items with
  | nil => simp
  | cons head rest ih =>
    rw [List.forall_mem_cons, ← ih]
    constructor
    · rintro ⟨_, hfound⟩
      cases hfound with
      | cons hvalue hlater => exact ⟨⟨_, hvalue⟩, _, hlater⟩
    · rintro ⟨⟨value, hvalue⟩, later, hlater⟩
      exact ⟨value :: later, .cons hvalue hlater⟩

/-! ## The first fault -/

/-- The first item of a list with a property, and the items before it. -/
def FirstWith (p : α → Prop) (items before : List α) (item : α) : Prop :=
  p item ∧ (∀ earlier ∈ before, ¬ p earlier) ∧ ∃ after, items = before ++ item :: after

lemma firstWith_cons_of_pos {p : α → Prop} {head : α} {rest before : List α} {item : α} (h : p head) :
    FirstWith p (head :: rest) before item ↔ before = [] ∧ item = head := by
  constructor
  · rintro ⟨-, hbefore, after, hsplit⟩
    cases before with
    | nil => exact ⟨rfl, (List.cons.inj hsplit).1.symm⟩
    | cons earlier before =>
      obtain rfl := (List.cons.inj hsplit).1
      exact absurd h (hbefore _ List.mem_cons_self)
  · rintro ⟨rfl, rfl⟩
    exact ⟨h, by simp, rest, rfl⟩

lemma firstWith_cons_of_neg {p : α → Prop} {head : α} {rest before : List α} {item : α}
    (h : ¬ p head) : FirstWith p (head :: rest) before item ↔
      ∃ later, before = head :: later ∧ FirstWith p rest later item := by
  constructor
  · rintro ⟨hitem, hbefore, after, hsplit⟩
    cases before with
    | nil =>
      obtain rfl := (List.cons.inj hsplit).1
      exact absurd hitem h
    | cons earlier before =>
      obtain ⟨rfl, hrest⟩ := List.cons.inj hsplit
      exact ⟨before, rfl, hitem, (List.forall_mem_cons.mp hbefore).2, after, hrest⟩
  · rintro ⟨later, rfl, hitem, hbefore, after, rfl⟩
    exact ⟨hitem, List.forall_mem_cons.mpr ⟨h, hbefore⟩, after, rfl⟩

lemma exists_firstWith {p : α → Prop} {items : List α} (h : ∃ item ∈ items, p item) :
    ∃ before item, FirstWith p items before item := by
  induction items with
  | nil => simp at h
  | cons head rest ih =>
    by_cases hhead : p head
    · exact ⟨[], head, (firstWith_cons_of_pos hhead).mpr ⟨rfl, rfl⟩⟩
    · obtain ⟨before, item, hitem⟩ := ih (by simpa [hhead] using h)
      exact ⟨head :: before, item, (firstWith_cons_of_neg hhead).mpr ⟨before, rfl, hitem⟩⟩

lemma not_firstWith_nil {p : α → Prop} {before : List α} {item : α} :
    ¬ FirstWith p [] before item := by
  rintro ⟨-, -, after, hsplit⟩
  simp at hsplit

lemma findSome?_flatMap {ι : Type} {places : List κ} {itemsOf : κ → List ι} {fault : ι → Option ε} :
    (places.flatMap itemsOf).findSome? fault =
      places.findSome? fun place => (itemsOf place).findSome? fault := by
  induction places with
  | nil => rfl
  | cons place rest ih =>
    rw [List.flatMap_cons, List.findSome?_append, List.findSome?_cons, ih]
    cases (itemsOf place).findSome? fault <;> rfl

/-- The fault of the lowest one of the places that are looked at and have a fault. -/
def FirstFault (looked : κ → Prop) (height : κ → List ℕ) (fault : κ → ε → Prop) (error : ε) : Prop :=
  ∃ place, looked place ∧ fault place error ∧
    ∀ other, looked other → height other < height place → ∀ cause, ¬ fault other cause

/-- Among ascending places, the first one with a fault is the lowest one. -/
lemma findSome?_eq_some_iff_firstFault {places : List κ} {height : κ → List ℕ}
    (hascending : places.Pairwise fun a b => height a < height b) {fault : κ → Option ε} {error : ε} :
    places.findSome? fault = some error ↔
      FirstFault (· ∈ places) height (fun place cause => fault place = some cause) error := by
  rw [List.findSome?_eq_some_iff]
  constructor
  · rintro ⟨before, place, after, rfl, hfault, hbefore⟩
    refine ⟨place, by simp, hfault, fun other hother hlower cause hcause => ?_⟩
    obtain ⟨-, hafter, -⟩ := List.pairwise_append.mp hascending
    rcases List.mem_append.mp hother with hother | hother
    · exact absurd hcause (by simp [hbefore other hother])
    · rcases List.mem_cons.mp hother with rfl | hother
      · exact lt_irrefl _ hlower
      · exact lt_asymm hlower (List.rel_of_pairwise_cons hafter hother)
  · rintro ⟨place, hmem, hfault, hlowest⟩
    obtain ⟨before, after, rfl⟩ := List.append_of_mem hmem
    refine ⟨before, place, after, rfl, hfault, fun other hother => ?_⟩
    obtain ⟨-, -, hbefore⟩ := List.pairwise_append.mp hascending
    exact Option.eq_none_iff_forall_ne_some.mpr fun cause =>
      hlowest other (List.mem_append_left _ hother) (hbefore _ hother _ List.mem_cons_self) cause

/-! ## Ascending places -/

lemma append_lt_append_left (front : List ℕ) {a b : List ℕ} (h : a < b) : front ++ a < front ++ b := by
  induction front with
  | nil => exact h
  | cons n front ih => exact List.cons_lt_cons_iff.mpr (.inr ⟨rfl, ih⟩)

lemma append_lt_append {a b : List ℕ} (hlength : a.length = b.length) (h : a < b) (c d : List ℕ) :
    a ++ c < b ++ d := by
  induction a generalizing b with
  | nil =>
    obtain rfl := List.length_eq_zero_iff.mp hlength.symm
    exact absurd h (lt_irrefl _)
  | cons n a ih =>
    obtain ⟨m, b, rfl⟩ := List.exists_cons_of_length_eq_add_one hlength.symm
    rcases List.cons_lt_cons_iff.mp h with hlt | ⟨rfl, hlt⟩
    · exact List.cons_lt_cons_iff.mpr (.inl hlt)
    · exact List.cons_lt_cons_iff.mpr (.inr ⟨rfl, ih (Nat.succ.inj hlength) hlt⟩)

/-- A loop over ascending items visits ascending places, if the item decides which of the places of two
items are higher. -/
lemma ascending_flatMap (height : κ → List ℕ) (front : List ℕ) {rank : α → ℕ} {items : List α}
    {placesOf : α → List κ} (hitems : items.Pairwise fun a b => rank a < rank b)
    (hplaces : ∀ item, (placesOf item).Pairwise fun a b => height a < height b)
    (hrank : ∀ item, ∀ place ∈ placesOf item, ∃ back, height place = front ++ rank item :: back) :
    (items.flatMap placesOf).Pairwise fun a b => height a < height b := by
  refine List.pairwise_flatMap.mpr ⟨fun item _ => hplaces item, hitems.imp ?_⟩
  intro a b hab place hplace other hother
  obtain ⟨back, hback⟩ := hrank a place hplace
  obtain ⟨back', hback'⟩ := hrank b other hother
  rw [hback, hback']
  exact append_lt_append_left front (List.cons_lt_cons_iff.mpr (.inl hab))

/-- Ascending items are different items. -/
lemma nodup_of_ascending {γ : Type} [Preorder γ] {height : α → γ} {items : List α}
    (hascending : items.Pairwise fun a b => height a < height b) : items.Nodup := by
  refine hascending.imp ?_
  rintro a b hlt rfl
  exact lt_irrefl _ hlt

/-- Ascending keys are different keys. -/
lemma nodup_map_of_ascending {height : κ → List ℕ} {keyOf : α → κ} {items : List α}
    (hascending : items.Pairwise fun a b => height (keyOf a) < height (keyOf b)) :
    (items.map keyOf).Nodup :=
  nodup_of_ascending (List.pairwise_map.mpr hascending)

/-- Ascending lists with the same items are the same. -/
lemma eq_of_ascending {height : κ → List ℕ} {places others : List κ}
    (hplaces : places.Pairwise fun a b => height a < height b)
    (hothers : others.Pairwise fun a b => height a < height b)
    (h : ∀ place, place ∈ places ↔ place ∈ others) : places = others := by
  have : Std.Irrefl fun a b => height a < height b := ⟨fun _ => lt_irrefl _⟩
  have : Std.Antisymm fun a b => height a < height b :=
    ⟨fun _ _ hab hba => absurd hba (lt_asymm hab)⟩
  exact hplaces.eq_of_mem_iff hothers h

/-- Two of some ascending items stand next to each other if there is no place for another one. -/
lemma exists_neighbours {height : α → List ℕ} {items : List α}
    (hascending : items.Pairwise fun a b => height a < height b) {a b : α} (ha : a ∈ items)
    (hb : b ∈ items) (hab : height a < height b)
    (hbetween : ∀ c, height a < height c → ¬ height c < height b) :
    ∃ before after, items = before ++ a :: b :: after := by
  obtain ⟨before, rest, rfl⟩ := List.append_of_mem ha
  obtain ⟨-, hrest, hbefore⟩ := List.pairwise_append.mp hascending
  have hmem : b ∈ rest := by
    rcases List.mem_append.mp hb with hb | hb
    · exact absurd (hbefore b hb a List.mem_cons_self) (lt_asymm hab)
    · rcases List.mem_cons.mp hb with rfl | hb
      · exact absurd hab (lt_irrefl _)
      · exact hb
  obtain ⟨between, after, rfl⟩ := List.append_of_mem hmem
  cases between with
  | nil => exact ⟨before, after, rfl⟩
  | cons c between =>
    have hac := List.rel_of_pairwise_cons hrest List.mem_cons_self
    have hcb := List.rel_of_pairwise_cons (List.pairwise_cons.mp hrest).2 (a := c) (by simp : b ∈ _)
    exact absurd hcb (hbetween c hac)

/-! ## Scans -/

/-- Whether a step takes what it finds at the places, one after the other, up to the first fault. -/
def Scans (fault : κ → Option ε) (found : κ → Option β) (step : Noted ε (List β))
    (places : List κ) : Prop :=
  step.outcome = unlessFault (places.findSome? fault) (places.filterMap found)

namespace Scans

variable {fault : κ → Option ε} {found : κ → Option β} {step : Noted ε (List β)} {places : List κ}

/-- A step that finds nothing looks at no place. -/
lemma none : Scans fault found (pure []) [] := rfl

/-- A step that looks at one place. -/
lemma single {place : κ} (h : step.outcome = unlessFault (fault place) (found place).toList) :
    Scans fault found step [place] := by
  rw [Scans, h, List.findSome?_singleton]
  cases hfound : found place <;> simp [hfound]

/-- A step behind another one looks at its places behind those of the other. -/
lemma append {first second : Noted ε (List β)} {others : List κ}
    (hfirst : Scans fault found first places) (hsecond : Scans fault found second others) :
    Scans fault found (do let a ← first; let b ← second; pure (a ++ b)) (places ++ others) := by
  rw [Scans, Noted.outcome_bind, hfirst, List.findSome?_append, List.filterMap_append]
  cases places.findSome? fault with
  | some error => rfl
  | none =>
    rw [Option.none_or, unlessFault, Except.bind, Noted.outcome_bind, hsecond]
    cases others.findSome? fault <;> rfl

/-- A loop over scans is a scan. -/
lemma gather {find : α → Noted ε (List β)} {placesOf : α → List κ}
    (h : ∀ item, Scans fault found (find item) (placesOf item)) (items : List α) :
    Scans fault found (Noted.gather find items) (items.flatMap placesOf) := by
  induction items with
  | nil => exact none
  | cons item rest ih =>
    rw [List.flatMap_cons]
    exact (h item).append ih

/-- A scan that succeeds has met no fault and has taken everything. -/
lemma eq_ok_iff (h : Scans fault found step places) {rows : List β} :
    step.outcome = .ok rows ↔
      (∀ place ∈ places, fault place = .none) ∧ rows = places.filterMap found := by
  rw [h, unlessFault_eq_ok, List.findSome?_eq_none_iff, eq_comm (a := rows)]

/-- A scan that fails has met the fault of the lowest place that has one. -/
lemma eq_error_iff (h : Scans fault found step places) {height : κ → List ℕ}
    (hascending : places.Pairwise fun a b => height a < height b) {error : ε} :
    step.outcome = .error error ↔
      FirstFault (· ∈ places) height (fun place cause => fault place = some cause) error := by
  rw [h, unlessFault_eq_error, findSome?_eq_some_iff_firstFault hascending]

/-- The findings of a scan come one by one from the places where there is something. -/
lemma forall₂_filterMap (found : κ → Option β) (places : List κ) :
    List.Forall₂ (fun place row => found place = some row)
      (places.filter fun place => (found place).isSome) (places.filterMap found) := by
  induction places with
  | nil => exact .nil
  | cons place places ih =>
    cases hfound : found place with
    | none => simpa [hfound] using ih
    | some row => simpa [hfound] using ih

/-- A scan fails if any of its places has a fault. -/
lemma exists_error_iff (h : Scans fault found step places) :
    (∃ error, step.outcome = .error error) ↔
      ∃ place error, place ∈ places ∧ fault place = some error := by
  constructor
  · rintro ⟨error, herror⟩
    rw [h, unlessFault_eq_error] at herror
    obtain ⟨place, hplace, hfault⟩ := List.exists_of_findSome?_eq_some herror
    exact ⟨place, error, hplace, hfault⟩
  · rintro ⟨place, error, hplace, hfault⟩
    cases hfirst : places.findSome? fault with
    | none =>
      rw [List.findSome?_eq_none_iff.mp hfirst place hplace] at hfault
      cases hfault
    | some cause => exact ⟨cause, by rw [h, hfirst]; rfl⟩

/-- The fault that ends a scan with some items at every place is that of the lowest item at the lowest
place. -/
lemma eq_error_iff_items {ι : Type} {itemsOf : κ → List ι} {faultOf : κ → ι → Option ε}
    (h : Scans (fun place => (itemsOf place).findSome? (faultOf place)) found step places)
    {height : κ → List ℕ} (hascending : places.Pairwise fun a b => height a < height b) {depth : ℕ}
    (hdepth : ∀ place, (height place).length = depth) {rank : ι → ℕ}
    (hitems : ∀ place, (itemsOf place).Pairwise fun a b => rank a < rank b) {error : ε} :
    step.outcome = .error error ↔
      FirstFault (fun item : κ × ι => item.1 ∈ places ∧ item.2 ∈ itemsOf item.1)
        (fun item => height item.1 ++ [rank item.2])
        (fun item cause => faultOf item.1 item.2 = some cause) error := by
  have hflat : places.findSome? (fun place => (itemsOf place).findSome? (faultOf place)) =
      (places.flatMap fun place => (itemsOf place).map (place, ·)).findSome?
        fun item => faultOf item.1 item.2 := by
    rw [findSome?_flatMap]
    simp only [List.findSome?_map, Function.comp_def]
  have hsorted : (places.flatMap fun place => (itemsOf place).map (place, ·)).Pairwise
      fun a b => height a.1 ++ [rank a.2] < height b.1 ++ [rank b.2] := by
    refine List.pairwise_flatMap.mpr ⟨fun place _ => ?_, hascending.imp ?_⟩
    · refine List.pairwise_map.mpr ((hitems place).imp ?_)
      intro a b hab
      exact append_lt_append_left _ (List.cons_lt_cons_iff.mpr (.inl hab))
    · intro a b hab x hx y hy
      obtain ⟨_, -, rfl⟩ := List.mem_map.mp hx
      obtain ⟨_, -, rfl⟩ := List.mem_map.mp hy
      exact append_lt_append ((hdepth a).trans (hdepth b).symm) hab _ _
  have hmem : ∀ item : κ × ι, (item ∈ places.flatMap fun place => (itemsOf place).map (place, ·)) ↔
      item.1 ∈ places ∧ item.2 ∈ itemsOf item.1 := by
    rintro ⟨place, item⟩
    simp [List.mem_flatMap]
  rw [h, unlessFault_eq_error, hflat, findSome?_eq_some_iff_firstFault hsorted]
  simp only [hmem]

/-! ### Findings that tell their places -/

section Placed

variable {place : β → κ} (hplace : ∀ spot row, found spot = some row → place row = spot)

include hplace

lemma mem_filterMap {row : β} :
    row ∈ places.filterMap found ↔ place row ∈ places ∧ found (place row) = some row := by
  rw [List.mem_filterMap]
  constructor
  · rintro ⟨spot, hspot, hfound⟩
    obtain rfl := hplace spot row hfound
    exact ⟨hspot, hfound⟩
  · rintro ⟨hspot, hfound⟩
    exact ⟨_, hspot, hfound⟩

/-- A scan takes something from a place if it looks there and there is something. -/
lemma exists_mem_filterMap {spot : κ} :
    (∃ row ∈ places.filterMap found, place row = spot) ↔
      spot ∈ places ∧ (found spot).isSome = true := by
  constructor
  · rintro ⟨row, hrow, rfl⟩
    obtain ⟨hspot, hfound⟩ := (mem_filterMap hplace).mp hrow
    exact ⟨hspot, Option.isSome_of_eq_some hfound⟩
  · rintro ⟨hspot, hsome⟩
    obtain ⟨row, hfound⟩ := Option.isSome_iff_exists.mp hsome
    exact ⟨row, List.mem_filterMap.mpr ⟨spot, hspot, hfound⟩, hplace spot row hfound⟩

/-- The findings of a scan ascend as its places do. -/
lemma ascending_filterMap {height : κ → List ℕ}
    (hascending : places.Pairwise fun a b => height a < height b) :
    (places.filterMap found).Pairwise fun a b => height (place a) < height (place b) := by
  refine hascending.filterMap _ ?_
  intro a b hlt row hrow other hother
  rwa [hplace a row hrow, hplace b other hother]

end Placed

end Scans

end

/-! ## Loops step by step -/

/-- Where all steps of a scan succeed, it gives their findings together. -/
lemma Noted.outcome_gather_eq_ok {ε α β : Type} {find : α → Noted ε (List β)} {value : α → List β}
    {items : List α} (h : ∀ item ∈ items, (find item).outcome = .ok (value item)) :
    (gather find items).outcome = .ok (items.flatMap value) := by
  induction items with
  | nil => rfl
  | cons item rest ih =>
    rw [gather, outcome_bind, h item List.mem_cons_self]
    simp only [Except.bind, outcome_bind, List.flatMap_cons,
      ih fun other hother => h other (List.mem_cons_of_mem _ hother), outcome_pure]

/-- The first step of a loop that fails ends it. -/
lemma Noted.outcome_gather_eq_error {ε α β : Type} {find : α → Noted ε (List β)}
    {before after : List α} {item : α} {error : ε}
    (hbefore : ∀ other ∈ before, ∃ value, (find other).outcome = .ok value)
    (h : (find item).outcome = .error error) :
    (gather find (before ++ item :: after)).outcome = .error error := by
  induction before with
  | nil =>
    rw [List.nil_append, gather, outcome_bind, h]
    rfl
  | cons first rest ih =>
    obtain ⟨value, hvalue⟩ := hbefore first List.mem_cons_self
    rw [List.cons_append, gather, outcome_bind, hvalue]
    simp only [Except.bind, outcome_bind,
      ih fun other hother => hbefore other (List.mem_cons_of_mem _ hother)]

/-! ## Counts in ascending order -/

lemma toNat_ofNat_of_le {n : ℕ} {last : UInt32} (h : n ≤ last.toNat) : (UInt32.ofNat n).toNat = n :=
  UInt32.toNat_ofNat_of_lt' (h.trans_lt last.toNat_lt)

lemma mem_countsUpTo {n last : UInt32} : n ∈ countsUpTo last ↔ n ≤ last := by
  rw [countsUpTo, List.mem_map, UInt32.le_iff_toNat_le]
  constructor
  · rintro ⟨m, hm, rfl⟩
    have hle : m ≤ last.toNat := Nat.le_of_lt_succ (List.mem_range.mp hm)
    rwa [toNat_ofNat_of_le hle]
  · intro h
    exact ⟨n.toNat, List.mem_range.mpr (Nat.lt_succ_of_le h), UInt32.ofNat_toNat⟩

lemma mem_countsBelow {n bound : UInt32} : n ∈ countsBelow bound ↔ n < bound := by
  rw [countsBelow, List.mem_map, UInt32.lt_iff_toNat_lt]
  constructor
  · rintro ⟨m, hm, rfl⟩
    have hlt : m < bound.toNat := List.mem_range.mp hm
    rwa [toNat_ofNat_of_le hlt.le]
  · intro h
    exact ⟨n.toNat, List.mem_range.mpr h, UInt32.ofNat_toNat⟩

lemma ascending_counts {size : ℕ} (last : UInt32) (h : size ≤ last.toNat + 1) :
    ((List.range size).map UInt32.ofNat).Pairwise fun a b => a.toNat < b.toNat := by
  refine List.pairwise_map.mpr (List.pairwise_lt_range.imp_of_mem ?_)
  intro a b ha hb hab
  have hbound : ∀ n ∈ List.range size, n ≤ last.toNat := by
    intro n hn
    have := List.mem_range.mp hn
    omega
  rwa [toNat_ofNat_of_le (hbound a ha), toNat_ofNat_of_le (hbound b hb)]

lemma ascending_countsUpTo (last : UInt32) :
    (countsUpTo last).Pairwise fun a b => a.toNat < b.toNat :=
  ascending_counts last le_rfl

lemma ascending_countsBelow (bound : UInt32) :
    (countsBelow bound).Pairwise fun a b => a.toNat < b.toNat :=
  ascending_counts bound (Nat.le_succ _)

lemma ascending_protocols : Protocol.all.Pairwise fun a b => a.harnessId < b.harnessId := by
  decide

end BenchReport
