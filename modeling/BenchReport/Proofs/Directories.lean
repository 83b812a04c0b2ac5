import BenchReport.Proofs.Trails
import BenchReport.Proofs.Utf8

/-!
# Making directories

`FileTree.ensureDirectories` makes a directory and what is missing above it.  It may fail half way,
and then what was made stays.  Three things hold in either case.

* Nothing changes but that there are new directories under free names on the way along the path
  (`FileTree.grows_ensureDirectories`).
* If it succeeds, the directory is there (`FileTree.stands_ensureDirectories`).
* Doing it again changes nothing and succeeds or fails as before
  (`FileTree.ensureDirectories_again`).

They rest on what the paths above a path are (`Path.Under`, `Path.isChain_parents`): each of them
names the front of the way along the path below, but for single dots and doubled slashes, so it
leads to a directory wherever the path below leads anywhere (`FileTree.stands_of_under`).
-/

namespace BenchReport

/-! ## The paths above -/

namespace Path

/-- Whether one path is that of a directory above another one. -/
structure Under (path above : Path) : Prop where
  /-- The way along the path above is the front of the other one, but for single dots. -/
  steps : ∃ front back, path.steps = front ++ back ∧ back ≠ [] ∧
    above.steps.filter (· != ".") = front.filter (· != ".")
  /-- Both ways start at the same place. -/
  absolute : above.isAbsolute = path.isAbsolute
  /-- The path above is as legal as the other one, if it is not empty. -/
  legal : path.IsLegal → above.text ≠ "" → above.IsLegal

/-- Leaving characters out makes a text no longer. -/
lemma utf8ByteSize_ofList_le {short long : List Char} (h : short.Sublist long) :
    (String.ofList short).utf8ByteSize ≤ (String.ofList long).utf8ByteSize := by
  induction h with
  | slnil => exact le_rfl
  | cons c _ ih =>
    rw [utf8ByteSize_ofList_cons]
    exact ih.trans (Nat.le_add_left _ _)
  | cons_cons c _ ih =>
    rw [utf8ByteSize_ofList_cons, utf8ByteSize_ofList_cons]
    exact Nat.add_le_add_left ih _

/-- A path whose characters are among those of a legal one is legal. -/
lemma IsLegal.of_sublist {path other : Path} (h : path.IsLegal)
    (hchars : other.text.toList.Sublist path.text.toList) (hother : other.text ≠ "") :
    other.IsLegal where
  nul hnul := h.nul (hchars.subset hnul)
  nonempty := hother
  short := by
    have hsize := utf8ByteSize_ofList_le hchars
    rw [String.ofList_toList, String.ofList_toList] at hsize
    exact hsize.trans h.short

/-! ### Paths made of steps -/

/-- Whether a text can be a step of a path. -/
def IsStep (text : String) : Prop := text ≠ "" ∧ slash ∉ text.toList

lemma parts_of_isStep {step : String} (h : IsStep step) : parts step.toList = [step.toList] := by
  have hplain : ∀ c ∈ step.toList, (c == slash) = false := by
    intro c hc
    rw [beq_eq_false_iff_ne]
    exact ne_of_mem_of_not_mem hc h.2
  rw [parts, List.splitOnP_eq_singleton hplain]
  simp [h.1]

lemma parts_slash_cons (rest : List Char) : parts (slash :: rest) = parts rest :=
  parts_append_slash [] rest

lemma isStep_of_mem_steps {path : Path} {step : String} (h : step ∈ path.steps) : IsStep step := by
  obtain ⟨part, hpart, rfl⟩ := List.mem_map.mp h
  obtain ⟨hsplit, hne⟩ := List.mem_filter.mp hpart
  constructor
  · intro heq
    rw [← String.toList_inj, String.toList_ofList] at heq
    simp [heq] at hne
  · rw [String.toList_ofList]
    exact fun hslash => absurd (mem_of_mem_splitOnP hsplit _ hslash).2 (by simp)

lemma toList_ofSteps (absolute : Bool) (steps : List String) : (ofSteps absolute steps).text.toList =
    (if absolute then [slash] else []) ++ [slash].intercalate (steps.map String.toList) := by
  have hsep : "/".toList = [slash] := rfl
  rw [ofSteps, String.toList_append, String.toList_intercalate, hsep]
  cases absolute <;> rfl

lemma steps_ofSteps (absolute : Bool) {steps : List String} (h : ∀ step ∈ steps, IsStep step) :
    (ofSteps absolute steps).steps = steps := by
  have hparts : parts ([slash].intercalate (steps.map String.toList)) = steps.map String.toList := by
    induction steps with
    | nil => rfl
    | cons step rest ih =>
      have hstep := parts_of_isStep (h step List.mem_cons_self)
      have hrest := ih fun other hother => h other (List.mem_cons_of_mem _ hother)
      cases rest with
      | nil => simpa using hstep
      | cons next rest =>
        rw [List.map_cons, List.map_cons, List.intercalate_cons_cons, List.append_assoc,
          List.singleton_append, parts_append_slash, hstep, ← List.map_cons, hrest]
        rfl
  have hsteps : (ofSteps absolute steps).steps =
      (parts (ofSteps absolute steps).text.toList).map String.ofList := rfl
  rw [hsteps, toList_ofSteps]
  cases absolute with
  | false => rw [if_neg (by simp), List.nil_append, hparts]; simp
  | true => rw [if_pos rfl, List.singleton_append, parts_slash_cons, hparts]; simp

lemma isAbsolute_ofSteps (absolute : Bool) {steps : List String} (h : ∀ step ∈ steps, IsStep step) :
    (ofSteps absolute steps).isAbsolute = absolute := by
  rw [isAbsolute, toList_ofSteps]
  cases absolute with
  | true => rfl
  | false =>
    rw [if_neg (by simp), List.nil_append, beq_eq_false_iff_ne]
    cases steps with
    | nil => simp
    | cons step rest =>
      obtain ⟨hne, hslash⟩ := h step List.mem_cons_self
      obtain ⟨c, chars, hchars⟩ := List.exists_cons_of_ne_nil (mt String.toList_eq_nil_iff.mp hne)
      have hhead : ([slash].intercalate ((step :: rest).map String.toList)).head? = some c := by
        rw [List.map_cons, hchars]
        cases rest <;> simp [List.intercalate_cons_cons]
      rw [hhead]
      intro heq
      rw [hchars, Option.some.inj heq] at hslash
      exact hslash List.mem_cons_self

lemma intercalate_sublist {α : Type} (separator : List α) {short long : List (List α)}
    (h : short.Sublist long) : (separator.intercalate short).Sublist (separator.intercalate long) := by
  induction h with
  | slnil => exact List.Sublist.refl _
  | @cons short long item hsub ih =>
    cases long with
    | nil =>
      rw [List.sublist_nil.mp hsub]
      exact List.nil_sublist _
    | cons next rest =>
      rw [List.intercalate_cons_cons]
      exact ih.trans (List.sublist_append_right _ _)
  | @cons_cons short long item hsub ih =>
    cases short with
    | nil =>
      cases long with
      | nil => exact List.Sublist.refl _
      | cons next rest =>
        rw [List.intercalate_cons_cons, List.append_assoc]
        simp
    | cons first others =>
      cases long with
      | nil => cases hsub
      | cons next rest =>
        rw [List.intercalate_cons_cons, List.intercalate_cons_cons]
        exact List.Sublist.append_left ih _

/-- Leaving steps out leaves characters out. -/
lemma ofSteps_sublist {path : Path} {steps : List String} (h : steps.Sublist path.steps) :
    (ofSteps path.isAbsolute steps).text.toList.Sublist path.text.toList := by
  have hjoin : ∀ chars : List Char, (steps.map String.toList).Sublist (parts chars) →
      ([slash].intercalate (steps.map String.toList)).Sublist chars := by
    intro chars hparts
    have hall := intercalate_sublist [slash] (hparts.trans List.filter_sublist)
    rwa [← List.splitOn_eq_splitOnP, List.intercalate_splitOn] at hall
  have hparts : (steps.map String.toList).Sublist (parts path.text.toList) := by
    have hmap := h.map String.toList
    have hsteps : path.steps.map String.toList = parts path.text.toList := by
      have hparts : path.steps = (parts path.text.toList).map String.ofList := rfl
      rw [hparts, List.map_map]
      simp [Function.comp_def]
    rwa [hsteps] at hmap
  rw [toList_ofSteps]
  cases habsolute : path.isAbsolute with
  | false =>
    rw [if_neg (by simp), List.nil_append]
    exact hjoin _ hparts
  | true =>
    rw [isAbsolute, beq_iff_eq] at habsolute
    obtain ⟨rest, hrest⟩ := List.head?_eq_some_iff.mp habsolute
    rw [hrest, parts_slash_cons] at hparts
    rw [if_pos rfl, hrest]
    exact (hjoin _ hparts).cons_cons _

/-! ### The paths above a path -/

/-- The steps of a path that are not its last one lead to a path above. -/
lemma under_ofSteps {path : Path} {steps : List String} (hsteps : steps.Sublist path.steps)
    (hfront : ∃ front back, path.steps = front ++ back ∧ back ≠ [] ∧
      steps.filter (· != ".") = front.filter (· != ".")) :
    path.Under (ofSteps path.isAbsolute steps) := by
  have hlegal : ∀ step ∈ steps, IsStep step := fun step hstep =>
    isStep_of_mem_steps (hsteps.subset hstep)
  refine ⟨?_, isAbsolute_ofSteps _ hlegal, fun h hne => h.of_sublist (ofSteps_sublist hsteps) hne⟩
  rwa [steps_ofSteps _ hlegal]

lemma moves_sublist (path : Path) : path.moves.Sublist path.steps := by
  rw [moves]
  split
  · rename_i hsteps
    rw [hsteps]
    exact List.filter_sublist.cons_cons _
  · exact List.filter_sublist

/-- The first moves of a path go along a front of its steps. -/
lemma exists_front_of_take_moves (path : Path) {n : ℕ} (h : n < path.moves.length) :
    ∃ front back, path.steps = front ++ back ∧ back ≠ [] ∧
      (path.moves.take n).filter (· != ".") = front.filter (· != ".") := by
  -- the same for steps of which all single dots are left out
  have hplain : ∀ (steps : List String) {n : ℕ}, n < (steps.filter (· != ".")).length →
      ∃ front back, steps = front ++ back ∧ back ≠ [] ∧
        ((steps.filter (· != ".")).take n).filter (· != ".") = front.filter (· != ".") := by
    intro steps n hn
    obtain ⟨front, back, hsplit, hfront, hback⟩ := List.filter_eq_append_iff.mp
      (List.take_append_drop n (steps.filter (· != "."))).symm
    refine ⟨front, back, hsplit, ?_, ?_⟩
    · rintro rfl
      have hlength := congrArg List.length hback
      rw [List.filter_nil, List.length_drop, List.length_nil] at hlength
      omega
    · rw [← hfront, List.filter_filter]
      simp
  rw [moves] at h ⊢
  split at h
  · rename_i rest _ hsteps
    rw [hsteps]
    cases n with
    | zero => exact ⟨[], _, rfl, List.cons_ne_nil _ _, rfl⟩
    | succ n =>
      obtain ⟨front, back, rfl, hback, hfront⟩ := hplain rest (Nat.lt_of_succ_lt_succ h)
      refine ⟨"." :: front, back, rfl, hback, ?_⟩
      rw [List.take_succ_cons, List.filter_cons_of_neg (by simp), List.filter_cons_of_neg (by simp),
        hfront]
  · exact hplain path.steps h

/-- Each of the paths above a path is above the one before. -/
theorem isChain_parents (path : Path) : List.IsChain Under (path :: path.parents) := by
  have hlegal : ∀ n, ∀ step ∈ path.moves.take n, IsStep step := fun n step hstep =>
    isStep_of_mem_steps ((moves_sublist path).subset (List.mem_of_mem_take hstep))
  have hrange : ∀ n, (List.range (n + 1)).reverse = n :: (List.range n).reverse := by
    intro n
    rw [List.range_succ, List.reverse_append]
    rfl
  have hfront : ∀ n ≤ path.moves.length, List.IsChain Under
      (ofSteps path.isAbsolute (path.moves.take n) ::
        (List.range n).reverse.map fun m => ofSteps path.isAbsolute (path.moves.take m)) := by
    intro n hn
    induction n with
    | zero => exact .singleton _
    | succ n ih =>
      rw [hrange, List.map_cons, List.isChain_cons_cons]
      refine ⟨?_, ih (by omega)⟩
      have hsteps := steps_ofSteps path.isAbsolute (hlegal (n + 1))
      have hlast : path.moves.take (n + 1) = path.moves.take n ++ [path.moves[n]] :=
        List.take_succ_eq_append_getElem hn
      have hsub : (path.moves.take n).Sublist
          (ofSteps path.isAbsolute (path.moves.take (n + 1))).steps := by
        rw [hsteps, hlast]
        exact List.sublist_append_left _ _
      have hunder := under_ofSteps hsub ⟨_, _, hsteps.trans hlast, List.cons_ne_nil _ _, rfl⟩
      rwa [isAbsolute_ofSteps _ (hlegal (n + 1))] at hunder
  rw [parents]
  cases hlength : path.moves.length with
  | zero => exact .singleton _
  | succ n =>
    rw [hrange, List.map_cons, List.isChain_cons_cons]
    exact ⟨under_ofSteps ((List.take_sublist _ _).trans (moves_sublist path))
      (exists_front_of_take_moves path (by omega)), hfront n (by omega)⟩

end Path

namespace FileTree

variable {tree made grown : FileTree} {path above : Path}

/-! ## Trees that grow -/

/-- Whether a tree comes from another one by making directories under free names at some places. -/
structure Grows (tree grown : FileTree) (places : List Location) : Prop where
  home : grown.home = tree.home
  entries : ∀ location, grown.find? location = tree.find? location ∨
    tree.find? location = none ∧ grown.find? location = some .directory ∧ location ∈ places

namespace Grows

variable {places others : List Location}

lemma refl (tree : FileTree) (places : List Location) : Grows tree tree places where
  home := rfl
  entries _ := .inl rfl

lemma trans {last : FileTree} (h : Grows tree grown places) (h' : Grows grown last places) :
    Grows tree last places where
  home := h'.home.trans h.home
  entries location := by
    rcases h'.entries location with heq | ⟨hnone, hnew, hplace⟩
    · rw [heq]
      exact h.entries location
    · rcases h.entries location with heq | ⟨-, hdirectory, -⟩
      · exact .inr ⟨heq ▸ hnone, hnew, hplace⟩
      · rw [hnone] at hdirectory
        cases hdirectory

lemma mono (h : Grows tree grown places) (hsub : places ⊆ others) : Grows tree grown others where
  home := h.home
  entries location := (h.entries location).imp_right fun ⟨hnone, hnew, hplace⟩ =>
    ⟨hnone, hnew, hsub hplace⟩

/-- What stands somewhere stays. -/
lemma find?_eq_some (h : Grows tree grown places) {location : Location} {entry : Entry}
    (hfind : tree.find? location = some entry) : grown.find? location = some entry := by
  rcases h.entries location with heq | ⟨hnone, -, -⟩
  · rw [heq, hfind]
  · rw [hfind] at hnone
    cases hnone

end Grows

/-- Steps to a free name end at a location where nothing stands. -/
lemma find?_of_follow_free {here location : Location} {steps : List String}
    (h : tree.follow here steps = .ok (.free location)) : tree.find? location = none := by
  induction steps generalizing here with
  | nil =>
    obtain ⟨entry, -, heq⟩ := follow_nil.mp h
    cases heq
  | cons step rest ih =>
    obtain ⟨-, -, hrest | ⟨-, hnone, heq⟩⟩ := follow_cons_eq_ok h
    · exact ih hrest
    · obtain rfl := Spot.free.inj heq
      exact hnone

lemma makeDirectory_eq_ok : tree.makeDirectory path = .ok made ↔
    ∃ location, tree.resolve path = .ok (.free location) ∧ made = tree.put location .directory := by
  rw [makeDirectory]
  cases tree.resolve path with
  | error cause => simp
  | ok spot => cases spot <;> simp [eq_comm]

lemma grows_makeDirectory (h : tree.makeDirectory path = .ok made) :
    Grows tree made (trail tree.home path) := by
  obtain ⟨location, hresolve, rfl⟩ := makeDirectory_eq_ok.mp h
  obtain ⟨-, hfollow⟩ := resolve_eq_ok.mp hresolve
  have hnone := find?_of_follow_free hfollow
  refine ⟨rfl, fun other => ?_⟩
  by_cases hother : other = location
  · subst hother
    have hplace : tree.find? other ≠ some .directory := by simp [hnone]
    exact .inr ⟨hnone, find?_put_self tree _ (ne_nil_of_find?_ne_directory hplace),
      location_mem_trailFrom hfollow⟩
  · exact .inl (find?_put_of_ne tree _ hother)

/-! ## One directory -/

/-- Whether there is a directory at a path; an empty path needs none. -/
def Stands (tree : FileTree) (path : Path) : Prop := path.text = "" ∨ tree.isDirectory path = true

/-- Above a path that leads anywhere there is a directory. -/
lemma stands_of_under (h : path.Under above) {spot : Spot} (hresolve : tree.resolve path = .ok spot) :
    tree.Stands above := by
  by_cases hempty : above.text = ""
  · exact .inl hempty
  obtain ⟨hlegal, hfollow⟩ := resolve_eq_ok.mp hresolve
  obtain ⟨front, back, hsplit, hback, hfront⟩ := h.steps
  rw [hsplit] at hfollow
  obtain ⟨there, hleads, -⟩ := exists_leads_of_follow_append hback hfollow
  rw [← leads_filter_dot, ← hfront, leads_filter_dot] at hleads
  have hstart : tree.start above = tree.start path := by rw [start, start, h.absolute]
  rw [← hstart] at hleads
  exact .inr (isDirectory_iff.mpr ⟨there, resolve_eq_ok.mpr ⟨h.legal hlegal hempty, hleads⟩⟩)

/-- The way to a directory above is part of the way along the path. -/
lemma trail_subset_of_under (h : path.Under above) (home : Location) :
    trail home above ⊆ trail home path := by
  obtain ⟨front, back, hsplit, -, hfront⟩ := h.steps
  intro location hlocation
  rw [trail, h.absolute, ← mem_trailFrom_filter_dot, hfront, mem_trailFrom_filter_dot] at hlocation
  rw [trail, hsplit]
  exact trailFrom_append_subset _ _ _ hlocation

lemma ensureDirectory_of_isDirectory (h : tree.isDirectory path = true) :
    tree.ensureDirectory path = (tree, .ok ()) := by
  obtain ⟨there, hresolve⟩ := isDirectory_iff.mp h
  rw [ensureDirectory, makeDirectory, hresolve]
  simp only [h, if_true]

lemma grows_ensureDirectory (tree : FileTree) (path : Path) :
    Grows tree (tree.ensureDirectory path).1 (trail tree.home path) := by
  rw [ensureDirectory]
  cases h : tree.makeDirectory path with
  | ok made => exact grows_makeDirectory h
  | error cause => exact .refl _ _

lemma isDirectory_of_ensureDirectory (h : tree.ensureDirectory path = (made, .ok ())) :
    made.isDirectory path = true := by
  rw [ensureDirectory] at h
  cases hmake : tree.makeDirectory path with
  | ok new =>
    rw [hmake] at h
    obtain ⟨rfl, -⟩ := Prod.mk.inj h
    obtain ⟨location, hresolve, rfl⟩ := makeDirectory_eq_ok.mp hmake
    have hopen : (Spot.free location).IsOpen := trivial
    exact isDirectory_iff.mpr ⟨location, resolve_put hopen _ hresolve⟩
  | error cause =>
    rw [hmake] at h
    obtain ⟨rfl, hok⟩ := Prod.mk.inj h
    by_contra hdirectory
    rw [if_neg hdirectory] at hok
    cases hok

/-- A directory that cannot be made changes nothing. -/
lemma ensureDirectory_eq_error {cause : AccessError}
    (h : tree.ensureDirectory path = (made, .error cause)) :
    made = tree ∧ tree.makeDirectory path = .error cause ∧ tree.isDirectory path = false := by
  rw [ensureDirectory] at h
  cases hmake : tree.makeDirectory path with
  | ok new =>
    rw [hmake] at h
    cases (Prod.mk.inj h).2
  | error other =>
    rw [hmake] at h
    obtain ⟨rfl, herror⟩ := Prod.mk.inj h
    split_ifs at herror with hdirectory
    obtain rfl := Except.error.inj herror
    exact ⟨rfl, rfl, by simpa using hdirectory⟩

/-! ## A directory and those above -/

/-- Where the directory is there already, nothing is made. -/
lemma ensureBelow_of_stands (h : tree.Stands path) (parents : List Path) :
    tree.ensureBelow path parents = (tree, .ok ()) := by
  rcases h with hempty | hdirectory
  · cases parents <;> simp [ensureBelow, hempty]
  · obtain ⟨there, hresolve⟩ := isDirectory_iff.mp hdirectory
    have hmake : tree.makeDirectory path = .error .alreadyExists := by rw [makeDirectory, hresolve]
    cases parents <;> simp [ensureBelow, hmake, ensureDirectory_of_isDirectory hdirectory]

lemma not_isEmpty_of_ensureBelow {parents : List Path} {cause : AccessError}
    (h : tree.ensureBelow path parents = (made, .error cause)) : ¬ path.text.isEmpty = true := by
  intro hempty
  rw [ensureBelow_of_stands (.inl (String.isEmpty_iff.mp hempty))] at h
  cases (Prod.mk.inj h).2

lemma grows_ensureBelow {parents : List Path} (h : List.IsChain Path.Under (path :: parents)) :
    Grows tree (tree.ensureBelow path parents).1 (trail tree.home path) := by
  induction parents generalizing path with
  | nil =>
    rw [ensureBelow]
    split_ifs
    · exact .refl _ _
    · exact grows_ensureDirectory _ _
  | cons above rest ih =>
    obtain ⟨hunder, hrest⟩ := List.isChain_cons_cons.mp h
    have habove := (ih hrest).mono (trail_subset_of_under hunder tree.home)
    rw [ensureBelow]
    split_ifs
    · exact .refl _ _
    · split
      · split
        · rename_i hdeeper
          rwa [hdeeper] at habove
        · rename_i deeper hdeeper
          rw [hdeeper] at habove
          have hlast := grows_ensureDirectory deeper path
          rw [habove.home] at hlast
          exact habove.trans hlast
      · exact grows_ensureDirectory _ _

lemma stands_of_ensureBelow {parents : List Path}
    (h : tree.ensureBelow path parents = (made, .ok ())) : made.Stands path := by
  cases parents with
  | nil =>
    rw [ensureBelow] at h
    split_ifs at h with hempty
    · exact .inl (String.isEmpty_iff.mp hempty)
    · exact .inr (isDirectory_of_ensureDirectory h)
  | cons above rest =>
    rw [ensureBelow] at h
    split_ifs at h with hempty
    · exact .inl (String.isEmpty_iff.mp hempty)
    · split at h
      · split at h
        · cases (Prod.mk.inj h).2
        · exact .inr (isDirectory_of_ensureDirectory h)
      · exact .inr (isDirectory_of_ensureDirectory h)

/-- A directory that could not be made with those above cannot be made afterwards either, and what
was made above it is not made again.  Had the paths above been the obstacle and the directory been
there now, there would be directories above it now. -/
lemma ensureBelow_again_of_error {parents : List Path}
    (hchain : List.IsChain Path.Under (path :: parents)) {cause : AccessError}
    (h : tree.ensureBelow path parents = (made, .error cause)) :
    ∃ later, made.ensureBelow path parents = (made, .error later) := by
  induction parents generalizing path cause with
  | nil =>
    have hagain := h
    have hempty := not_isEmpty_of_ensureBelow h
    rw [ensureBelow, if_neg hempty] at h
    obtain ⟨rfl, -, -⟩ := ensureDirectory_eq_error h
    exact ⟨cause, hagain⟩
  | cons above rest ih =>
    obtain ⟨hunder, hrest⟩ := List.isChain_cons_cons.mp hchain
    have hagain := h
    have hempty := not_isEmpty_of_ensureBelow h
    rw [ensureBelow, if_neg hempty] at h
    -- what making the directory alone comes to, where it is not there
    have hlast : ∀ {deeper : FileTree}, deeper.isDirectory path = false → ∀ {found : AccessError},
        deeper.makeDirectory path = .error found →
          deeper.ensureDirectory path = (deeper, .error found) := by
      intro deeper hdirectory found hmake
      rw [ensureDirectory, hmake]
      simp only [hdirectory, Bool.false_eq_true, if_false]
    split at h
    · split at h
      · -- a directory above could not be made
        rename_i deeper found hdeeper
        obtain ⟨rfl, -⟩ := Prod.mk.inj h
        obtain ⟨later, hlater⟩ := ih hrest hdeeper
        have hmissing : ¬ deeper.Stands above := fun hstands => by
          rw [ensureBelow_of_stands hstands] at hlater
          cases (Prod.mk.inj hlater).2
        have hdirectory : deeper.isDirectory path = false := by
          rw [Bool.eq_false_iff]
          intro hdirectory
          obtain ⟨there, hresolve⟩ := isDirectory_iff.mp hdirectory
          exact hmissing (stands_of_under hunder hresolve)
        rw [ensureBelow, if_neg hempty]
        cases hmake : deeper.makeDirectory path with
        | ok new =>
          obtain ⟨location, hresolve, -⟩ := makeDirectory_eq_ok.mp hmake
          exact absurd (stands_of_under hunder hresolve) hmissing
        | error found =>
          cases found with
          | notFound => exact ⟨later, by simp only [hlater]⟩
          | _ => exact ⟨_, hlast hdirectory hmake⟩
      · -- those above are there, but not this one
        rename_i deeper hdeeper
        obtain ⟨rfl, hmake, hdirectory⟩ := ensureDirectory_eq_error h
        have habove := ensureBelow_of_stands (stands_of_ensureBelow hdeeper) rest
        rw [ensureBelow, if_neg hempty, hmake]
        cases cause with
        | notFound => exact ⟨_, by simp only [habove]; exact h⟩
        | _ => exact ⟨_, h⟩
    · obtain ⟨rfl, -, -⟩ := ensureDirectory_eq_error h
      exact ⟨cause, hagain⟩

/-! ## Directories -/

/-- Making directories changes nothing but that there are new ones on the way along the path. -/
theorem grows_ensureDirectories (tree : FileTree) (path : Path) :
    Grows tree (tree.ensureDirectories path).1 (trail tree.home path) :=
  grows_ensureBelow path.isChain_parents

/-- A directory that was made with those above is there. -/
theorem stands_ensureDirectories (h : tree.ensureDirectories path = (made, .ok ())) :
    made.Stands path :=
  stands_of_ensureBelow h

/-- Making directories again changes nothing, and it succeeds or fails as before. -/
theorem ensureDirectories_again {outcome : Except AccessError Unit}
    (h : tree.ensureDirectories path = (made, outcome)) :
    ∃ later, made.ensureDirectories path = (made, later) ∧ later.isOk = outcome.isOk := by
  cases outcome with
  | ok found =>
    exact ⟨.ok (), ensureBelow_of_stands (stands_ensureDirectories h) _, rfl⟩
  | error cause =>
    obtain ⟨later, hlater⟩ := ensureBelow_again_of_error path.isChain_parents h
    exact ⟨_, hlater, rfl⟩

/-! ## Files in a directory -/

/-- Where a directory stands, a file can be written under every name in it that is not that of a
directory and that the system takes. -/
theorem exists_place? {dir : Path} (hdir : tree.Stands dir)
    (hhome : tree.find? tree.home = some .directory) {name : String} (hname : Path.IsName name)
    (hnameShort : name.utf8ByteSize ≤ longestName) (hnul : '\x00' ∉ name.toList)
    (hplain : tree.isDirectory (dir.join name) = false)
    (hshort : (dir.join name).text.utf8ByteSize ≤ longestPath) :
    ∃ place, tree.place? (dir.join name) = some place := by
  have htext : (dir.join name).text = dir.text ++ dir.separator ++ name :=
    Path.join_text (Path.isAbsolute_of_isName hname)
  -- the directory is a legal path that leads somewhere, or it is empty
  obtain ⟨hdirNul, there, hleads⟩ : '\x00' ∉ dir.text.toList ∧
      ∃ there, tree.Leads (tree.start dir) dir.steps there := by
    rcases hdir with hempty | hdirectory
    · obtain rfl : dir = ⟨""⟩ := by rw [← hempty]
      exact ⟨List.not_mem_nil, tree.home, leads_nil.mpr ⟨rfl, hhome⟩⟩
    · obtain ⟨there, hresolve⟩ := isDirectory_iff.mp hdirectory
      obtain ⟨hlegal, hleads⟩ := resolve_eq_ok.mp hresolve
      exact ⟨hlegal.nul, there, hleads⟩
  have hlegal : (dir.join name).IsLegal := by
    refine ⟨?_, ?_, hshort⟩
    · have hseparator : '\x00' ∉ dir.separator.toList := by
        rw [Path.separator]
        split_ifs <;> decide
      rw [htext, String.toList_append, String.toList_append, List.mem_append, List.mem_append]
      tauto
    · rw [htext, ne_eq, String.append_eq_empty_iff]
      exact fun hnil => hname.1 hnil.2
  have hslash : (dir.join name).endsInSlash = false := by
    rw [Path.endsInSlash, htext, String.toList_append, List.getLast?_append, beq_eq_false_iff_ne]
    intro heq
    cases hlast : name.toList.getLast? with
    | none => exact hname.1 (String.toList_eq_nil_iff.mp (List.getLast?_eq_none_iff.mp hlast))
    | some c =>
      rw [hlast] at heq
      obtain rfl := Option.some.inj heq
      exact hname.2.1 (List.mem_of_getLast? hlast)
  have hresolve : tree.resolve (dir.join name) = tree.follow there [name] := by
    rw [resolve_eq_follow hlegal, start, Path.isAbsolute_join dir hname, Path.steps_join dir hname]
    exact follow_append_of_leads hleads [name]
  have hthere := hleads.find?_there
  cases hfind : tree.find? (there ++ [name]) with
  | none =>
    have hfree := hresolve.trans (follow_of_free hthere hname hnameShort hfind)
    exact ⟨_, place?_eq_some.mpr ⟨hslash, .free (there ++ [name]), trivial, rfl, hfree⟩⟩
  | some entry =>
    have htaken : tree.resolve (dir.join name) = .ok (.taken (there ++ [name]) entry) := by
      rw [← towards_of_isName hname] at hfind ⊢
      rw [hresolve, follow_cons hthere (.inr (.inr hnameShort)) fun _ =>
        Option.isSome_of_eq_some hfind]
      exact follow_nil.mpr ⟨entry, hfind, rfl⟩
    cases entry with
    | directory =>
      rw [isDirectory_iff.mpr ⟨_, htaken⟩] at hplain
      cases hplain
    | file content =>
      exact ⟨_, place?_eq_some.mpr
        ⟨hslash, .taken (there ++ [name]) (.file content), trivial, rfl, htaken⟩⟩

end FileTree

end BenchReport
