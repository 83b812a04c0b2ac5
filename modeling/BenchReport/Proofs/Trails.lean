import BenchReport.Command.Footprint
import BenchReport.Proofs.Siblings

/-!
# Ways through a tree

A path is followed step by step, and every step but the last one starts in a directory.  So the way
along the front of a path leads to a directory (`FileTree.exists_leads_of_follow_append`), from
where the rest is followed as if it stood alone (`FileTree.follow_append_of_leads`), and single dots
make no difference (`FileTree.leads_filter_dot`).

`FileTree.Leads` says that steps lead to a directory.  It needs the directories on the way only, so
it stays true in every tree that has them (`FileTree.Leads.mono`).  An entry that is put where there
is no directory cannot be met on the way, and names that are not its own pass by it
(`FileTree.follow_put_of_names`).

`FileTree.place?` is where a file at the end of a path stands, or would stand if it were written.
Writing a file puts it there and does nothing else (`FileTree.write_eq_ok`).
-/

namespace BenchReport

/-! ## Sizes of texts -/

lemma utf8ByteSize_ofList_cons (c : Char) (rest : List Char) :
    (String.ofList (c :: rest)).utf8ByteSize =
      c.utf8Size + (String.ofList rest).utf8ByteSize := by
  rw [String.ofList_cons, String.utf8ByteSize_append, String.utf8ByteSize_singleton]

/-- No character takes more than four bytes. -/
lemma utf8ByteSize_le (text : String) : text.utf8ByteSize ≤ 4 * text.length := by
  obtain ⟨chars, rfl⟩ : ∃ chars, text = String.ofList chars := ⟨_, text.ofList_toList.symm⟩
  induction chars with
  | nil => decide
  | cons c rest ih =>
    have hc := c.utf8Size_le_four
    rw [String.length_ofList] at ih ⊢
    rw [utf8ByteSize_ofList_cons, List.length_cons]
    omega

namespace Path

/-- Whether the system takes the path at all: it is neither empty nor too long and has no NUL. -/
structure IsLegal (path : Path) : Prop where
  nul : '\x00' ∉ path.text.toList
  nonempty : path.text ≠ ""
  short : path.text.utf8ByteSize ≤ FileTree.longestPath

end Path

namespace FileTree

/-- Where the way along a path starts. -/
def start (tree : FileTree) (path : Path) : Location := if path.isAbsolute then [] else tree.home

lemma resolve_eq_follow {tree : FileTree} {path : Path} (h : path.IsLegal) :
    tree.resolve path = tree.follow (tree.start path) path.steps := by
  have hnul : path.text.toList.contains '\x00' = false := by
    rw [Bool.eq_false_iff, ne_eq, List.contains_iff_mem]
    exact h.nul
  have hempty : path.text.isEmpty = false := String.isEmpty_eq_false_iff.mpr h.nonempty
  rw [resolve, hnul, hempty, if_neg (by simp), if_neg (by simp), if_neg (not_lt.mpr h.short), start]

lemma resolve_eq_ok {tree : FileTree} {path : Path} {spot : Spot} :
    tree.resolve path = .ok spot ↔
      path.IsLegal ∧ tree.follow (tree.start path) path.steps = .ok spot := by
  constructor
  · intro h
    have hlegal : path.IsLegal := by
      rw [resolve] at h
      split_ifs at h with hnul hempty hlong
      all_goals
        exact ⟨fun hmem => hnul (List.contains_iff_mem.mpr hmem),
          fun heq => hempty (String.isEmpty_iff.mpr heq), not_lt.mp hlong⟩
    exact ⟨hlegal, by rw [← resolve_eq_follow hlegal, h]⟩
  · rintro ⟨hlegal, h⟩
    rw [resolve_eq_follow hlegal, h]

/-- A path that is followed in the same way leads to the same. -/
lemma resolve_congr {tree other : FileTree} {path : Path}
    (h : tree.follow (tree.start path) path.steps = other.follow (other.start path) path.steps) :
    tree.resolve path = other.resolve path := by
  by_cases hlegal : path.IsLegal
  · rw [resolve_eq_follow hlegal, resolve_eq_follow hlegal, h]
  · rw [resolve, resolve]
    split_ifs with hnul hempty hlong
    · rfl
    · rfl
    · rfl
    all_goals
      exact absurd ⟨fun hmem => hnul (List.contains_iff_mem.mpr hmem),
        fun heq => hempty (String.isEmpty_iff.mpr heq), not_lt.mp hlong⟩ hlegal

lemma lookup_congr {tree other : FileTree} {path : Path}
    (h : tree.resolve path = other.resolve path) : tree.lookup path = other.lookup path := by
  rw [lookup, lookup, h]

lemma isDirectory_iff {tree : FileTree} {path : Path} :
    tree.isDirectory path = true ↔ ∃ there, tree.resolve path = .ok (.taken there .directory) := by
  rw [isDirectory, lookup]
  cases tree.resolve path with
  | error cause => simp
  | ok spot =>
    cases spot with
    | free location => simp
    | taken location entry =>
      cases entry with
      | directory => simp
      | file content => by_cases hslash : path.endsInSlash = true <;> simp [hslash]

/-! ## One step -/

variable {tree : FileTree} {here there : Location} {spot : Spot}

/-- The location that a step is about. -/
def towards (here : Location) (step : String) : Location :=
  if step == "." then here else if step == ".." then here.dropLast else here ++ [step]

lemma towards_of_isName {step : String} (h : Path.IsName step) :
    towards here step = here ++ [step] := by
  simp [towards, h.2.2.1, h.2.2.2]

/-- Whether a step is not refused for its length. -/
def Passable (step : String) : Prop :=
  step = "." ∨ step = ".." ∨ step.utf8ByteSize ≤ longestName

/-- A step that goes on goes on from the location that it is about. -/
lemma follow_cons {step : String} {rest : List String} (hhere : tree.find? here = some .directory)
    (hstep : Passable step) (hrest : rest = [] → (tree.find? (towards here step)).isSome = true) :
    tree.follow here (step :: rest) = tree.follow (towards here step) rest := by
  rw [follow, hhere, towards]
  dsimp only
  split_ifs with hdot hup hlong hfree
  · rfl
  · rfl
  · exfalso
    rcases hstep with rfl | rfl | hshort
    · exact hdot rfl
    · exact hup rfl
    · exact absurd hlong (not_lt.mpr hshort)
  · exfalso
    rw [Bool.and_eq_true, List.isEmpty_iff] at hfree
    have hsome := hrest hfree.1
    rw [towards, if_neg hdot, if_neg hup, Option.isSome_iff_ne_none] at hsome
    exact hsome (Option.isNone_iff_eq_none.mp hfree.2)
  · rfl

/-- A step that succeeds starts in a directory, and it goes on or ends at a free name. -/
lemma follow_cons_eq_ok {step : String} {rest : List String}
    (h : tree.follow here (step :: rest) = .ok spot) :
    tree.find? here = some .directory ∧ Passable step ∧
      (tree.follow (towards here step) rest = .ok spot ∨
        rest = [] ∧ tree.find? (towards here step) = none ∧ spot = .free (towards here step)) := by
  rw [follow] at h
  split at h
  · cases h
  · cases h
  · rename_i hhere
    refine ⟨hhere, ?_⟩
    dsimp only at h
    rw [towards]
    split_ifs at h ⊢ with hdot hup hlong hfree
    · exact ⟨.inl (by simpa using hdot), .inl h⟩
    · exact ⟨.inr (.inl (by simpa using hup)), .inl h⟩
    · rw [Bool.and_eq_true, List.isEmpty_iff, Option.isNone_iff_eq_none] at hfree
      exact ⟨.inr (.inr (not_lt.mp hlong)), .inr ⟨hfree.1, hfree.2, (Except.ok.inj h).symm⟩⟩
    · exact ⟨.inr (.inr (not_lt.mp hlong)), .inl h⟩

lemma follow_nil : tree.follow here [] = .ok spot ↔
    ∃ entry, tree.find? here = some entry ∧ spot = .taken here entry := by
  rw [follow]
  cases tree.find? here with
  | none => simp
  | some entry => simp [eq_comm]

/-- A name under which nothing stands is free. -/
lemma follow_of_free {name : String} (hhere : tree.find? here = some .directory)
    (hname : Path.IsName name) (hshort : name.utf8ByteSize ≤ longestName)
    (hfree : tree.find? (here ++ [name]) = none) :
    tree.follow here [name] = .ok (.free (here ++ [name])) := by
  obtain ⟨-, -, hdot, hup⟩ := hname
  rw [follow, hhere]
  simp [hdot, hup, not_lt.mpr hshort, hfree]

/-! ## Ways to directories -/

/-- Whether steps lead to a directory. -/
def Leads (tree : FileTree) (here : Location) (steps : List String) (there : Location) : Prop :=
  tree.follow here steps = .ok (.taken there .directory)

lemma leads_nil : tree.Leads here [] there ↔ here = there ∧ tree.find? here = some .directory := by
  rw [Leads, follow_nil]
  constructor
  · rintro ⟨entry, hfind, heq⟩
    obtain ⟨rfl, rfl⟩ := Spot.taken.inj heq
    exact ⟨rfl, hfind⟩
  · rintro ⟨rfl, hfind⟩
    exact ⟨_, hfind, rfl⟩

lemma Leads.find?_here {steps : List String} (h : tree.Leads here steps there) :
    tree.find? here = some .directory := by
  cases steps with
  | nil => exact (leads_nil.mp h).2
  | cons step rest => exact (follow_cons_eq_ok h).1

lemma leads_cons {step : String} {rest : List String} : tree.Leads here (step :: rest) there ↔
    tree.find? here = some .directory ∧ Passable step ∧
      tree.Leads (towards here step) rest there := by
  constructor
  · intro h
    obtain ⟨hhere, hstep, hrest | ⟨-, -, heq⟩⟩ := follow_cons_eq_ok h
    · exact ⟨hhere, hstep, hrest⟩
    · cases heq
  · rintro ⟨hhere, hstep, hrest⟩
    rw [Leads, follow_cons hhere hstep fun _ => Option.isSome_of_eq_some hrest.find?_here]
    exact hrest

lemma Leads.find?_there {steps : List String} (h : tree.Leads here steps there) :
    tree.find? there = some .directory := by
  induction steps generalizing here with
  | nil =>
    obtain ⟨rfl, hfind⟩ := leads_nil.mp h
    exact hfind
  | cons step rest ih => exact ih (leads_cons.mp h).2.2

/-- A way to a directory is the same in every tree that has the directories. -/
lemma Leads.mono {other : FileTree} (hkeep : ∀ location,
      tree.find? location = some .directory → other.find? location = some .directory)
    {steps : List String} (h : tree.Leads here steps there) : other.Leads here steps there := by
  induction steps generalizing here with
  | nil =>
    obtain ⟨heq, hfind⟩ := leads_nil.mp h
    exact leads_nil.mpr ⟨heq, hkeep _ hfind⟩
  | cons step rest ih =>
    obtain ⟨hhere, hstep, hrest⟩ := leads_cons.mp h
    exact leads_cons.mpr ⟨hkeep _ hhere, hstep, ih hrest⟩

/-- What is a directory stays one in every tree that has the directories. -/
lemma isDirectory_mono {other : FileTree} (hhome : other.home = tree.home)
    (hkeep : ∀ location,
      tree.find? location = some .directory → other.find? location = some .directory)
    {path : Path} (h : tree.isDirectory path = true) : other.isDirectory path = true := by
  obtain ⟨there, hresolve⟩ := isDirectory_iff.mp h
  obtain ⟨hlegal, hleads⟩ := resolve_eq_ok.mp hresolve
  have hstart : other.start path = tree.start path := by rw [start, start, hhome]
  refine isDirectory_iff.mpr ⟨there, resolve_eq_ok.mpr ⟨hlegal, ?_⟩⟩
  rw [hstart]
  exact Leads.mono hkeep hleads

/-- Behind a way to a directory the rest is followed from there. -/
lemma follow_append_of_leads {front : List String} (h : tree.Leads here front there)
    (back : List String) : tree.follow here (front ++ back) = tree.follow there back := by
  induction front generalizing here with
  | nil =>
    obtain ⟨rfl, -⟩ := leads_nil.mp h
    rfl
  | cons step rest ih =>
    obtain ⟨hhere, hstep, hrest⟩ := leads_cons.mp h
    rw [List.cons_append, follow_cons hhere hstep fun _ => Option.isSome_of_eq_some hrest.find?_here,
      ih hrest]

/-- The front of a way leads to a directory. -/
lemma exists_leads_of_follow_append {front back : List String} (hback : back ≠ [])
    (h : tree.follow here (front ++ back) = .ok spot) :
    ∃ there, tree.Leads here front there ∧ tree.follow there back = .ok spot := by
  induction front generalizing here with
  | nil =>
    obtain ⟨step, rest, rfl⟩ := List.exists_cons_of_ne_nil hback
    exact ⟨here, leads_nil.mpr ⟨rfl, (follow_cons_eq_ok h).1⟩, h⟩
  | cons step rest ih =>
    obtain ⟨hhere, hstep, hrest | ⟨hnil, -, -⟩⟩ := follow_cons_eq_ok h
    · obtain ⟨there, hleads, hfollow⟩ := ih hrest
      exact ⟨there, leads_cons.mpr ⟨hhere, hstep, hleads⟩, hfollow⟩
    · exact absurd (List.append_eq_nil_iff.mp hnil).2 hback

/-- Single dots make no difference. -/
lemma leads_filter_dot {steps : List String} :
    tree.Leads here (steps.filter (· != ".")) there ↔ tree.Leads here steps there := by
  induction steps generalizing here with
  | nil => rfl
  | cons step rest ih =>
    by_cases hdot : step = "."
    · subst hdot
      have hstay : towards here "." = here := rfl
      rw [List.filter_cons_of_neg (by simp), ih, leads_cons, hstay]
      exact ⟨fun h => ⟨h.find?_here, .inl rfl, h⟩, fun h => h.2.2⟩
    · rw [List.filter_cons_of_pos (by simpa using hdot), leads_cons, leads_cons, ih]

/-! ## The locations on a way -/

lemma trailFrom_cons (here : Location) (step : String) (rest : List String) :
    trailFrom here (step :: rest) = here :: trailFrom (towards here step) rest := rfl

lemma here_mem_trailFrom (here : Location) (steps : List String) : here ∈ trailFrom here steps := by
  cases steps <;> exact List.mem_cons_self

lemma location_mem_trailFrom {steps : List String} (h : tree.follow here steps = .ok spot) :
    spot.location ∈ trailFrom here steps := by
  induction steps generalizing here with
  | nil =>
    obtain ⟨entry, -, rfl⟩ := follow_nil.mp h
    exact here_mem_trailFrom _ _
  | cons step rest ih =>
    obtain ⟨-, -, hrest | ⟨-, -, rfl⟩⟩ := follow_cons_eq_ok h
    · exact List.mem_cons_of_mem _ (ih hrest)
    · exact List.mem_cons_of_mem _ (here_mem_trailFrom _ _)

lemma trailFrom_append_subset (here : Location) (front back : List String) :
    trailFrom here front ⊆ trailFrom here (front ++ back) := by
  induction front generalizing here with
  | nil =>
    intro location hlocation
    obtain rfl := List.mem_singleton.mp hlocation
    exact here_mem_trailFrom _ _
  | cons step rest ih => exact List.cons_subset_cons _ (ih _)

lemma mem_trailFrom_filter_dot {steps : List String} {location : Location} :
    location ∈ trailFrom here (steps.filter (· != ".")) ↔ location ∈ trailFrom here steps := by
  induction steps generalizing here with
  | nil => rfl
  | cons step rest ih =>
    by_cases hdot : step = "."
    · subst hdot
      have hstay : towards here "." = here := rfl
      rw [List.filter_cons_of_neg (by simp), ih, trailFrom_cons, hstay, List.mem_cons]
      refine (or_iff_right_of_imp ?_).symm
      rintro rfl
      exact here_mem_trailFrom _ _
    · rw [List.filter_cons_of_pos (by simpa using hdot), trailFrom_cons, trailFrom_cons, List.mem_cons,
        List.mem_cons, ih]

/-! ## Ways past an entry -/

/-- An entry that is put where there is no directory leaves all directories. -/
lemma find?_put_of_directory {location other : Location} {entry : Entry}
    (hplace : tree.find? location ≠ some .directory) (h : tree.find? other = some .directory) :
    (tree.put location entry).find? other = some .directory := by
  have hne : other ≠ location := by
    rintro rfl
    exact hplace h
  rw [find?_put_of_ne tree entry hne, h]

lemma isDirectory_put {location : Location} {entry : Entry} {path : Path}
    (hplace : tree.find? location ≠ some .directory) (h : tree.isDirectory path = true) :
    (tree.put location entry).isDirectory path = true := by
  have hhome : (tree.put location entry).home = tree.home := rfl
  exact isDirectory_mono hhome (fun _ => find?_put_of_directory hplace) h

/-- Names that are not that of an entry are followed past it. -/
lemma follow_put_of_names {location : Location} (entry : Entry) {names : List String}
    (hnames : ∀ name ∈ names, Path.IsName name ∧ location.getLast? ≠ some name)
    (hhere : here ≠ location) :
    (tree.put location entry).follow here names = tree.follow here names := by
  induction names generalizing here with
  | nil => rw [follow, follow, find?_put_of_ne tree entry hhere]
  | cons name rest ih =>
    obtain ⟨⟨-, -, hdot, hup⟩, hlast⟩ := hnames name List.mem_cons_self
    have hnext : here ++ [name] ≠ location := by
      rintro rfl
      exact hlast List.getLast?_concat
    have hrest := ih (fun other hother => hnames other (List.mem_cons_of_mem _ hother)) hnext
    rw [follow, follow, find?_put_of_ne tree entry hhere]
    simp only [beq_iff_eq, hdot, hup, if_false, find?_put_of_ne tree entry hnext, hrest]

/-- Behind a directory, names that are not that of an entry lead past it. -/
lemma resolve_put_of_names {location : Location} (entry : Entry)
    (hplace : tree.find? location ≠ some .directory) {dir path : Path}
    (hdir : tree.Leads (tree.start dir) dir.steps there) {names : List String}
    (hsteps : path.steps = dir.steps ++ names) (habsolute : path.isAbsolute = dir.isAbsolute)
    (hnames : ∀ name ∈ names, Path.IsName name ∧ location.getLast? ≠ some name) :
    (tree.put location entry).resolve path = tree.resolve path := by
  have hstart : tree.start path = tree.start dir := by rw [start, start, habsolute]
  have hput : (tree.put location entry).Leads (tree.start dir) dir.steps there :=
    hdir.mono fun _ => find?_put_of_directory hplace
  have hthere : there ≠ location := by
    rintro rfl
    exact hplace hdir.find?_there
  refine resolve_congr ?_
  rw [show (tree.put location entry).start path = tree.start dir from hstart, hstart, hsteps,
    follow_append_of_leads hput, follow_append_of_leads hdir,
    follow_put_of_names entry hnames hthere]

/-! ## Where files stand -/

/-- Where a file stands that is written at a path, if one can be written there. -/
def place? (tree : FileTree) (path : Path) : Option Location :=
  match tree.resolve path with
  | .ok (.free location) | .ok (.taken location (.file _)) =>
    if path.endsInSlash then none else some location
  | _ => none

variable {path dir : Path} {place : Location} {name other : String}

lemma place?_eq_some : tree.place? path = some place ↔ path.endsInSlash = false ∧
    ∃ spot : Spot, spot.IsOpen ∧ spot.location = place ∧ tree.resolve path = .ok spot := by
  rw [place?]
  cases tree.resolve path with
  | error cause => simp
  | ok spot =>
    cases spot with
    | free location => simp [Spot.IsOpen, Spot.location]
    | taken location entry => cases entry <;> simp [Spot.IsOpen, Spot.location]

/-- A file is written by putting it at its place. -/
lemma write_eq_ok {changed : FileTree} {content : Content} :
    tree.write path content = .ok changed ↔
      ∃ place, tree.place? path = some place ∧ changed = tree.put place (.file content) := by
  rw [write, place?]
  cases tree.resolve path with
  | error cause => simp
  | ok spot =>
    by_cases hslash : path.endsInSlash = true
    · cases spot with
      | free location => simp [hslash]
      | taken location entry => cases entry <;> simp [hslash]
    · cases spot with
      | free location => simp [hslash, eq_comm]
      | taken location entry => cases entry <;> simp [hslash, eq_comm]

lemma find?_place (h : tree.place? path = some place) : tree.find? place ≠ some .directory := by
  obtain ⟨-, spot, hopen, rfl, hresolve⟩ := place?_eq_some.mp h
  exact find?_ne_directory_of_follow hopen (resolve_eq_ok.mp hresolve).2

lemma getLast?_place (hname : Path.IsName name) (h : tree.place? (dir.join name) = some place) :
    place.getLast? = some name := by
  obtain ⟨-, spot, -, rfl, hresolve⟩ := place?_eq_some.mp h
  obtain ⟨-, hfollow⟩ := resolve_eq_ok.mp hresolve
  rw [Path.steps_join dir hname] at hfollow
  exact getLast?_of_follow hname hfollow

/-- A file stays where it is when it is written again. -/
lemma place?_put_self (h : tree.place? path = some place) (content : Content) :
    (tree.put place (.file content)).place? path = some place := by
  obtain ⟨hslash, spot, hopen, rfl, hresolve⟩ := place?_eq_some.mp h
  exact place?_eq_some.mpr
    ⟨hslash, .taken spot.location (.file content), trivial, rfl, resolve_put hopen _ hresolve⟩

lemma read_put (h : tree.place? path = some place) (content : Content) :
    (tree.put place (.file content)).read path = .ok content.data :=
  read_write (write_eq_ok.mpr ⟨place, h, rfl⟩)

/-- A file that is written in a directory leaves the ways to the other ones. -/
lemma resolve_put_of_ne (hname : Path.IsName name) (hother : Path.IsName other)
    (hne : other ≠ name) (h : tree.place? (dir.join name) = some place) (entry : Entry) :
    (tree.put place entry).resolve (dir.join other) = tree.resolve (dir.join other) := by
  have hlast := getLast?_place hname h
  obtain ⟨-, spot, -, -, hresolve⟩ := place?_eq_some.mp h
  obtain ⟨-, hfollow⟩ := resolve_eq_ok.mp hresolve
  rw [Path.steps_join dir hname] at hfollow
  obtain ⟨there, hleads, -⟩ := exists_leads_of_follow_append (List.cons_ne_nil _ _) hfollow
  have hstart : tree.start (dir.join name) = tree.start dir := by
    rw [start, start, Path.isAbsolute_join dir hname]
  rw [hstart] at hleads
  refine resolve_put_of_names entry (find?_place h) hleads (Path.steps_join dir hother)
    (Path.isAbsolute_join dir hother) fun found hfound => ?_
  obtain rfl := List.mem_singleton.mp hfound
  exact ⟨hother, fun heq => hne (Option.some.inj (heq.symm.trans hlast))⟩

lemma place?_congr {other : FileTree} (h : tree.resolve path = other.resolve path) :
    tree.place? path = other.place? path := by
  rw [place?, place?, h]

end FileTree

end BenchReport
