import BenchReport.Proofs.ClientLogs
import BenchReport.Proofs.ReportNames

/-!
# Trees that differ in one file

Two trees may be the same but for the file at one location, which may also be in one of them only
(`FileTree.SameElsewhere`).  A path passes through directories, and those are the same in both
(`FileTree.SameDirectories`), so a path that ends in a name has the same place in both
(`FileTree.SameDirectories.place?_eq`).  Hence what is read of a log is the same unless the location
is its place (`FileTree.SameElsewhere.sampleAt_log`).

The errors may differ also where the location is on the way to the place.  A path that does not meet
the location at all is followed in the same way (`FileTree.SameElsewhere.lookup_eq`).

The path of a log ends in a name whatever the name of the tree is (`LogName.exists_steps_path`), and
where that has no slash, different logs have different places (`LogName.eq_of_place?_eq`).
-/

namespace BenchReport

/-! ## Last names of paths -/

namespace Path

/-- A word at the end of a text is the end of the last one of its parts. -/
lemma exists_parts_append {word : List Char} (hne : word ≠ []) (hword : slash ∉ word)
    (text : List Char) :
    ∃ front start, parts (text ++ word) = front ++ [start ++ word] ∧ slash ∉ start := by
  -- the induction moves the characters behind the last slash over to the word
  suffices h : ∀ start, slash ∉ start →
      ∃ front start', parts (text ++ (start ++ word)) = front ++ [start' ++ word] ∧
        slash ∉ start' from h [] List.not_mem_nil
  induction text using List.reverseRecOn with
  | nil =>
    intro start hstart
    refine ⟨[], start, parts_of_slash_notMem (by simp [hne]) ?_, hstart⟩
    rw [List.nil_append, List.mem_append, not_or]
    exact ⟨hstart, hword⟩
  | append_singleton text c ih =>
    intro start hstart
    by_cases hc : c = slash
    · subst hc
      have hlast : parts (start ++ word) = [start ++ word] := by
        refine parts_of_slash_notMem (by simp [hne]) ?_
        rw [List.mem_append, not_or]
        exact ⟨hstart, hword⟩
      refine ⟨parts text, start, ?_, hstart⟩
      rw [List.append_assoc, List.singleton_append, parts_append_slash, hlast]
    · have hcons : slash ∉ c :: start := by
        rw [List.mem_cons, not_or]
        exact ⟨fun heq => hc heq.symm, hstart⟩
      rw [List.append_assoc]
      exact ih (c :: start) hcons

end Path

namespace LogName

lemma exists_below_eq (log : LogName) : ∃ before, log.below = before ++ log.fileName := by
  rw [below]
  cases log.directory with
  | none => exact ⟨"", (String.empty_append).symm⟩
  | some sub => exact ⟨sub ++ "/", rfl⟩

/-- The path of a log ends in a name that ends in a count behind an underscore. -/
lemma exists_steps_path (log : LogName) (dir : Path) : ∃ front name,
    (log.path dir).steps = front ++ [name] ∧ Path.IsName name ∧ EndsInCount '_' name := by
  obtain ⟨before, hbelow⟩ := log.exists_below_eq
  obtain ⟨stem, n, hfile, hstem⟩ := log.endsInCount_fileName
  obtain ⟨init, hinit⟩ := List.getLast?_eq_some_iff.mp hstem
  have hword : Path.slash ∉ '_' :: (countText n).toList := by
    rw [List.mem_cons, not_or]
    exact ⟨by decide, slashFree_countText n⟩
  have htext : (log.path dir).text.toList =
      (dir.text ++ dir.separator ++ before).toList ++ init ++ '_' :: (countText n).toList := by
    rw [path_text, hbelow, hfile]
    simp [hinit]
  obtain ⟨front, start, hparts, hstart⟩ := Path.exists_parts_append (List.cons_ne_nil _ _) hword
    ((dir.text ++ dir.separator ++ before).toList ++ init)
  have hcount : EndsInCount '_' (String.ofList (start ++ '_' :: (countText n).toList)) := by
    refine ⟨String.ofList (start ++ ['_']), n, ?_, by simp⟩
    rw [← String.toList_inj]
    simp
  refine ⟨front.map String.ofList, String.ofList (start ++ '_' :: (countText n).toList), ?_,
    hcount.isName ?_, hcount⟩
  · have hsteps : (log.path dir).steps = (Path.parts (log.path dir).text.toList).map String.ofList :=
      rfl
    rw [hsteps, htext, hparts, List.map_append, List.map_singleton]
  · rw [String.toList_ofList, List.mem_append, not_or]
    exact ⟨hstart, hword⟩

end LogName

/-! ## Samples -/

lemma Log.sampleAt_eq_some {files : FileTree} {columns : Columns} {path : Path} {found : Sample} :
    sampleAt files columns path = some found ↔ ∃ content,
      files.lookup path = .ok (.file content) ∧ sample path columns content.data = .ok (some found) := by
  rw [sampleAt]
  cases files.lookup path with
  | error cause => simp
  | ok entry =>
    cases entry with
    | directory => simp
    | file content =>
      cases hsample : sample path columns content.data with
      | error error => simp [hsample]
      | ok sample => simp [hsample]

/-! ## Places and entries -/

/-- What stands at a spot, if anything does. -/
def Spot.standing : Spot → Option Entry
  | .taken _ entry => some entry
  | .free _ => none

namespace FileTree

variable {tree files others : FileTree} {here location place : Location} {path : Path}

/-- A path ends at what stands in the tree. -/
lemma find?_location_of_follow {spot : Spot} {steps : List String}
    (h : tree.follow here steps = .ok spot) : tree.find? spot.location = spot.standing := by
  induction steps generalizing here with
  | nil =>
    obtain ⟨entry, hfind, rfl⟩ := follow_nil.mp h
    exact hfind
  | cons step rest ih =>
    obtain ⟨-, -, hrest | ⟨-, hfree, rfl⟩⟩ := follow_cons_eq_ok h
    · exact ih hrest
    · exact hfree

/-- A path names a file if the file stands at its place. -/
lemma lookup_eq_file_iff {content : Content} : tree.lookup path = .ok (.file content) ↔
    ∃ place, tree.place? path = some place ∧ tree.find? place = some (.file content) := by
  constructor
  · intro h
    rw [lookup] at h
    split at h
    · cases h
    · cases h
    · cases h
    · rename_i place found hresolve
      split_ifs at h with hslash
      obtain rfl := Entry.file.inj (Except.ok.inj h)
      have hplace : tree.place? path = some place :=
        place?_eq_some.mpr
          ⟨Bool.eq_false_iff.mpr hslash, .taken place (.file _), trivial, rfl, hresolve⟩
      exact ⟨place, hplace, find?_location_of_follow (resolve_eq_ok.mp hresolve).2⟩
  · rintro ⟨place, hplace, hfile⟩
    obtain ⟨hslash, spot, -, rfl, hresolve⟩ := place?_eq_some.mp hplace
    have hspot := find?_location_of_follow (resolve_eq_ok.mp hresolve).2
    rw [hfile] at hspot
    cases spot with
    | free location => cases hspot
    | taken location entry =>
      obtain rfl := Option.some.inj hspot
      rw [lookup, hresolve]
      simp [hslash]

/-- The place of a path that ends in a name is under this name in the directory to which the front of
the path leads. -/
lemma place?_eq_some_of_steps {front : List String} {name : String} (hname : Path.IsName name)
    (hsteps : path.steps = front ++ [name]) : tree.place? path = some place ↔
      path.endsInSlash = false ∧ path.IsLegal ∧ name.utf8ByteSize ≤ longestName ∧
        tree.find? place ≠ some .directory ∧
          ∃ there, tree.Leads (tree.start path) front there ∧ place = there ++ [name] := by
  rw [place?_eq_some]
  constructor
  · rintro ⟨hslash, spot, hopen, rfl, hresolve⟩
    obtain ⟨hlegal, hfollow⟩ := resolve_eq_ok.mp hresolve
    have hplain := find?_ne_directory_of_follow hopen hfollow
    rw [hsteps] at hfollow
    obtain ⟨there, hleads, hlast⟩ := exists_leads_of_follow_append (List.cons_ne_nil _ _) hfollow
    obtain ⟨-, hpassable, hend⟩ := follow_cons_eq_ok hlast
    have hshort := (hpassable.resolve_left hname.2.2.1).resolve_left hname.2.2.2
    rw [towards_of_isName hname] at hend
    refine ⟨hslash, hlegal, hshort, hplain, there, hleads, ?_⟩
    rcases hend with hend | ⟨-, -, rfl⟩
    · obtain ⟨entry, -, rfl⟩ := follow_nil.mp hend
      rfl
    · rfl
  · rintro ⟨hslash, hlegal, hshort, hplain, there, hleads, rfl⟩
    have hfollow := follow_append_of_leads hleads [name]
    rw [← hsteps] at hfollow
    refine ⟨hslash, ?_⟩
    cases hfind : tree.find? (there ++ [name]) with
    | none =>
      rw [follow_of_free hleads.find?_there hname hshort hfind] at hfollow
      exact ⟨.free (there ++ [name]), trivial, rfl, resolve_eq_ok.mpr ⟨hlegal, hfollow⟩⟩
    | some entry =>
      have htowards : (tree.find? (towards there name)).isSome = true := by
        rw [towards_of_isName hname, hfind]
        rfl
      have hstep : tree.follow there [name] = tree.follow (towards there name) [] :=
        follow_cons hleads.find?_there (.inr (.inr hshort)) fun _ => htowards
      rw [towards_of_isName hname, follow_nil.mpr ⟨entry, hfind, rfl⟩] at hstep
      refine ⟨.taken (there ++ [name]) entry, ?_, rfl,
        resolve_eq_ok.mpr ⟨hlegal, hfollow.trans hstep⟩⟩
      cases entry with
      | directory => exact absurd hfind hplain
      | file content => exact trivial

/-! ## What a path meets -/

/-- The locations that a path meets tell where it leads. -/
lemma follow_congr {steps : List String}
    (h : ∀ location ∈ trailFrom here steps, others.find? location = files.find? location) :
    files.follow here steps = others.follow here steps := by
  induction steps generalizing here with
  | nil => rw [follow, follow, h here List.mem_cons_self]
  | cons step rest ih =>
    have hnext : ∀ location ∈ trailFrom (towards here step) rest,
        others.find? location = files.find? location :=
      fun location hlocation => h location (List.mem_cons_of_mem _ hlocation)
    have hrest := ih hnext
    have hthere := hnext _ (here_mem_trailFrom _ _)
    rw [follow, follow, h here List.mem_cons_self]
    rw [towards] at hrest hthere
    split_ifs at hrest hthere with hdot hup
    · simp only [hdot, if_true, hrest]
    · simp only [hdot, hup, if_true, if_false, Bool.false_eq_true, hrest]
    · simp only [hdot, hup, if_false, Bool.false_eq_true, hrest, hthere]

/-- Names lead to the location that has them behind the start. -/
lemma location_of_follow_names {names : List String} (hnames : ∀ name ∈ names, Path.IsName name)
    {spot : Spot} (h : tree.follow here names = .ok spot) : spot.location = here ++ names := by
  induction names generalizing here with
  | nil =>
    obtain ⟨entry, -, rfl⟩ := follow_nil.mp h
    exact (List.append_nil here).symm
  | cons name rest ih =>
    have hname : towards here name = here ++ [name] :=
      towards_of_isName (hnames name List.mem_cons_self)
    obtain ⟨-, -, hrest | ⟨rfl, -, rfl⟩⟩ := follow_cons_eq_ok h
    · have hlocation := ih (fun other hother => hnames other (List.mem_cons_of_mem _ hother)) hrest
      rw [hlocation, hname, List.append_assoc, List.singleton_append]
    · exact hname

/-! ## The same directories -/

/-- Whether two trees have the same directories, and relative paths start in the same one. -/
structure SameDirectories (files others : FileTree) : Prop where
  home : others.home = files.home
  directories : ∀ location,
    others.find? location = some .directory ↔ files.find? location = some .directory

namespace SameDirectories

lemma refl (files : FileTree) : SameDirectories files files := ⟨rfl, fun _ => Iff.rfl⟩

variable (h : SameDirectories files others)

include h

lemma symm : SameDirectories others files :=
  ⟨h.home.symm, fun location => (h.directories location).symm⟩

lemma trans {last : FileTree} (hlast : SameDirectories others last) : SameDirectories files last :=
  ⟨hlast.home.trans h.home, fun location =>
    (hlast.directories location).trans (h.directories location)⟩

lemma start_eq (path : Path) : others.start path = files.start path := by
  rw [start, start, h.home]

lemma place?_mono {front : List String} {name : String} (hname : Path.IsName name)
    (hsteps : path.steps = front ++ [name]) (hplace : files.place? path = some place) :
    others.place? path = some place := by
  rw [place?_eq_some_of_steps hname hsteps] at hplace ⊢
  obtain ⟨hslash, hlegal, hshort, hplain, there, hleads, hthere⟩ := hplace
  refine ⟨hslash, hlegal, hshort, mt (h.directories place).mp hplain, there, ?_, hthere⟩
  rw [h.start_eq]
  exact hleads.mono fun location => (h.directories location).mpr

/-- A path that ends in a name has the same place. -/
lemma place?_eq {front : List String} {name : String} (hname : Path.IsName name)
    (hsteps : path.steps = front ++ [name]) : others.place? path = files.place? path :=
  Option.ext fun _ => ⟨h.symm.place?_mono hname hsteps, h.place?_mono hname hsteps⟩

end SameDirectories

/-- A file that is put where there is no directory makes and replaces none. -/
lemma sameDirectories_put (content : Content) (h : files.find? location ≠ some .directory) :
    SameDirectories files (files.put location (.file content)) := by
  refine ⟨rfl, fun other => ?_⟩
  by_cases hother : other = location
  · subst hother
    rw [find?_put_self files _ (ne_nil_of_find?_ne_directory h)]
    simp [h]
  · rw [find?_put_of_ne files _ hother]

/-! ## The same elsewhere -/

/-- Whether two trees differ in nothing but the file at a location, which one of them may lack. -/
structure SameElsewhere (files others : FileTree) (location : Location) : Prop where
  home : others.home = files.home
  entries : ∀ other, other ≠ location → others.find? other = files.find? other
  /-- There is no directory at the location, but a file or nothing. -/
  plain : files.find? location ≠ some .directory
  plain' : others.find? location ≠ some .directory

/-- A file that is put where there is no directory is the only difference. -/
lemma sameElsewhere_put (content : Content) (h : files.find? location ≠ some .directory) :
    SameElsewhere files (files.put location (.file content)) location where
  home := rfl
  entries _ hne := find?_put_of_ne files _ hne
  plain := h
  plain' := by
    rw [find?_put_self files _ (ne_nil_of_find?_ne_directory h)]
    simp

namespace SameElsewhere

variable (h : SameElsewhere files others location)

include h

lemma symm : SameElsewhere others files location :=
  ⟨h.home.symm, fun other hne => (h.entries other hne).symm, h.plain', h.plain⟩

lemma sameDirectories : SameDirectories files others := by
  refine ⟨h.home, fun other => ?_⟩
  by_cases hother : other = location
  · subst hother
    exact iff_of_false h.plain' h.plain
  · rw [h.entries other hother]

/-- A log that does not stand at the location is found in both trees or in none. -/
lemma lookup_log_eq_file_iff (log : LogName) (dir : Path)
    (hplace : files.place? (log.path dir) ≠ some location) {content : Content} :
    others.lookup (log.path dir) = .ok (.file content) ↔
      files.lookup (log.path dir) = .ok (.file content) := by
  obtain ⟨front, name, hsteps, hname, -⟩ := log.exists_steps_path dir
  rw [lookup_eq_file_iff, lookup_eq_file_iff, h.sameDirectories.place?_eq hname hsteps]
  refine exists_congr fun place => and_congr_right fun hfound => ?_
  have hne : place ≠ location := by
    rintro rfl
    exact hplace hfound
  rw [h.entries place hne]

/-- What is read of a log that does not stand at the location is the same. -/
lemma sampleAt_log (columns : Columns) (log : LogName) (dir : Path)
    (hplace : files.place? (log.path dir) ≠ some location) :
    Log.sampleAt others columns (log.path dir) = Log.sampleAt files columns (log.path dir) := by
  refine Option.ext fun sample => ?_
  simp only [Log.sampleAt_eq_some, h.lookup_log_eq_file_iff log dir hplace]

/-- A path that does not meet the location is followed in the same way. -/
lemma lookup_eq (hoff : location ∉ trail files.home path) : others.lookup path = files.lookup path := by
  refine (lookup_congr (resolve_congr ?_)).symm
  rw [h.sameDirectories.start_eq]
  refine follow_congr fun other hother => h.entries other ?_
  rintro rfl
  exact hoff hother

end SameElsewhere

end FileTree

/-! ## Places of logs -/

namespace LogName

variable {files : FileTree} {dir : Path} {place : Location}

lemma names_injective : Function.Injective names := by
  intro a b h
  refine below_injective ?_
  rw [names, names] at h
  rw [below, below]
  cases ha : a.directory <;> cases hb : b.directory <;> simp_all

/-- A log stands behind the directory of results, under its names. -/
lemma exists_place_eq {log : LogName} (hfree : ∀ text ∈ log.tree?, SlashFree text)
    (h : files.place? (log.path dir) = some place) :
    ∃ there, files.Leads (files.start dir) dir.steps there ∧ place = there ++ log.names := by
  obtain ⟨hsteps, habsolute⟩ := log.steps_path hfree dir
  obtain ⟨-, spot, -, rfl, hresolve⟩ := FileTree.place?_eq_some.mp h
  obtain ⟨-, hfollow⟩ := FileTree.resolve_eq_ok.mp hresolve
  rw [FileTree.start, habsolute, hsteps] at hfollow
  obtain ⟨there, hleads, hnames⟩ :=
    FileTree.exists_leads_of_follow_append (List.append_ne_nil_of_right_ne_nil _ (by simp)) hfollow
  exact ⟨there, hleads, FileTree.location_of_follow_names
    (fun name hname => (names_spec hfree name hname).1) hnames⟩

/-- No two logs have the same place. -/
lemma eq_of_place?_eq {a b : LogName} (ha : ∀ text ∈ a.tree?, SlashFree text)
    (hb : ∀ text ∈ b.tree?, SlashFree text) (hplace : files.place? (a.path dir) = some place)
    (hplace' : files.place? (b.path dir) = some place) : a = b := by
  obtain ⟨there, hleads, rfl⟩ := exists_place_eq ha hplace
  obtain ⟨there', hleads', heq⟩ := exists_place_eq hb hplace'
  obtain ⟨rfl, -⟩ := Spot.taken.inj (Except.ok.inj (hleads.symm.trans hleads'))
  exact names_injective (List.append_cancel_left heq)

/-- No log has the place of a report, whatever the name of the tree is. -/
lemma place?_ne_of_isReportName {name : String} (hname : Report.IsReportName name)
    (hlast : place.getLast? = some name) (log : LogName) (dir : Path) :
    files.place? (log.path dir) ≠ some place := by
  intro h
  obtain ⟨front, last, hsteps, hfile, hlog⟩ := log.exists_steps_path dir
  obtain ⟨-, -, -, -, there, -, rfl⟩ := (FileTree.place?_eq_some_of_steps hfile hsteps).mp h
  rw [List.getLast?_concat] at hlast
  obtain rfl := Option.some.inj hlast
  obtain ⟨c, hdigit, hne, hreport⟩ := hname.endsInCount
  exact hne (hreport.unique hlog hdigit (by decide))

end LogName

end BenchReport
