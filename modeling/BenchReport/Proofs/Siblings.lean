import BenchReport.Proofs.Files

/-!
# What a written file leaves alone

Different names in a directory lead to different places (`FileTree.getLast?_of_follow`), and writing a
file makes no file at any other place (`FileTree.follow_of_follow_put`).  So of the paths in a directory
only the one that was written can have become the path of a file (`FileTree.isFile_of_isFile_write`).
-/

namespace BenchReport

/-! ## Names in a directory -/

namespace Path

/-- Whether a text can be the name of a file: no slash, and not one of the steps that stay or go up. -/
def IsName (name : String) : Prop :=
  name ≠ "" ∧ slash ∉ name.toList ∧ name ≠ "." ∧ name ≠ ".."

/-- The parts of a text between its slashes, without empty ones. -/
def parts (text : List Char) : List (List Char) :=
  (text.splitOnP (· == slash)).filter fun part => !part.isEmpty

lemma parts_append_slash (front back : List Char) :
    parts (front ++ slash :: back) = parts front ++ parts back := by
  rw [parts, List.splitOnP_append_cons front back (by simp), List.filter_append]
  rfl

/-- A text without slashes is its only part. -/
lemma parts_of_slash_notMem {text : List Char} (hne : text ≠ []) (h : slash ∉ text) :
    parts text = [text] := by
  have hplain : ∀ c ∈ text, (c == slash) = false := by
    intro c hc
    rw [beq_eq_false_iff_ne]
    exact ne_of_mem_of_not_mem hc h
  rw [parts, List.splitOnP_eq_singleton hplain]
  simp [hne]

lemma parts_of_isName {name : String} (h : IsName name) : parts name.toList = [name.toList] :=
  parts_of_slash_notMem (by simpa using h.1) h.2.1

lemma isAbsolute_of_isName {name : String} (h : IsName name) : isAbsolute ⟨name⟩ = false := by
  rw [isAbsolute, beq_eq_false_iff_ne]
  exact fun hhead => h.2.1 (List.mem_of_mem_head? hhead)

/-- A name is one more step. -/
lemma steps_join (dir : Path) {name : String} (h : IsName name) :
    (dir.join name).steps = dir.steps ++ [name] := by
  have habsolute := isAbsolute_of_isName h
  -- whatever stands between the directory and the name
  have hparts : parts (dir.join name).text.toList = parts dir.text.toList ++ [name.toList] := by
    rw [join_text habsolute, separator, String.toList_append, String.toList_append,
      ← parts_of_isName h]
    split_ifs with hseparator
    · rcases Bool.or_eq_true_iff.mp hseparator with hnil | hend
      · rw [String.isEmpty_iff.mp hnil]
        rfl
      · rw [endsInSlash, beq_iff_eq] at hend
        obtain ⟨front, hfront⟩ := List.getLast?_eq_some_iff.mp hend
        have hnil : parts [] = [] := rfl
        have hjoin : front ++ [slash] ++ "".toList ++ name.toList =
            front ++ slash :: name.toList := by simp
        rw [hfront, hjoin, parts_append_slash, parts_append_slash, hnil, List.append_nil]
    · have hjoin : dir.text.toList ++ "/".toList ++ name.toList =
          dir.text.toList ++ slash :: name.toList := by simp [slash]
      rw [hjoin, parts_append_slash]
  have hsteps : ∀ path : Path, path.steps = (parts path.text.toList).map String.ofList :=
    fun _ => rfl
  rw [hsteps, hparts, List.map_append, List.map_singleton, String.ofList_toList, hsteps]

/-- A path with a name behind it starts where it started. -/
lemma isAbsolute_join (dir : Path) {name : String} (h : IsName name) :
    (dir.join name).isAbsolute = dir.isAbsolute := by
  have hname := isAbsolute_of_isName h
  rw [isAbsolute, isAbsolute, join_text hname, String.toList_append, String.toList_append]
  cases htext : dir.text.toList with
  | nil =>
    have hempty : dir.text = "" := String.toList_eq_nil_iff.mp htext
    rw [isAbsolute] at hname
    simpa [separator, hempty] using hname
  | cons c rest => rfl

end Path

/-! ## Files at other places -/

namespace FileTree

/-- A path that ends in a name leads to a place of that name. -/
lemma getLast?_of_follow {tree : FileTree} {spot : Spot} {name : String} (hname : Path.IsName name)
    {here : Location} {steps : List String} (h : tree.follow here (steps ++ [name]) = .ok spot) :
    spot.location.getLast? = some name := by
  induction steps generalizing here with
  | nil =>
    obtain ⟨-, -, hdot, hup⟩ := hname
    rw [List.nil_append, follow] at h
    split at h
    · cases h
    · cases h
    · simp only [beq_iff_eq, hdot, hup, if_false] at h
      split_ifs at h with hlong hfree
      · obtain rfl := Except.ok.inj h
        simp [Spot.location]
      · rw [follow] at h
        split at h
        · obtain rfl := Except.ok.inj h
          simp [Spot.location]
        · cases h
  | cons step rest ih =>
    rw [List.cons_append, follow] at h
    split at h
    · cases h
    · cases h
    · dsimp only at h
      split_ifs at h with hdot hup hlong hfree
      · exact ih h
      · exact ih h
      · simp at hfree
      · exact ih h

/-- Putting a file where there is no directory makes no file at another place. -/
lemma follow_of_follow_put {tree : FileTree} {location found : Location} {content old : Content}
    (hplace : tree.find? location ≠ some .directory) (hne : found ≠ location) {here : Location}
    {steps : List String}
    (h : (tree.put location (.file content)).follow here steps = .ok (.taken found (.file old))) :
    tree.follow here steps = .ok (.taken found (.file old)) := by
  have hlocation := ne_nil_of_find?_ne_directory hplace
  induction steps generalizing here with
  | nil =>
    rw [follow] at h ⊢
    split at h
    · rename_i entry hfind
      obtain ⟨rfl, rfl⟩ := Spot.taken.inj (Except.ok.inj h)
      rw [find?_put_of_ne tree _ hne] at hfind
      rw [hfind]
    · cases h
  | cons step rest ih =>
    rw [follow] at h ⊢
    split at h
    · cases h
    · cases h
    · rename_i hhere
      -- there is a directory at `here` and a file at the place that was written
      have hother : here ≠ location := by
        rintro rfl
        rw [find?_put_self tree _ hlocation] at hhere
        cases hhere
      rw [find?_put_of_ne tree _ hother] at hhere
      rw [hhere]
      dsimp only at h ⊢
      split_ifs at h with hdot hup hlong hfree
      · rw [if_pos hdot]
        exact ih h
      · rw [if_neg hdot, if_pos hup]
        exact ih h
      · cases h
      · have hnext := ih h
        have hstay : ¬(rest.isEmpty && (tree.find? (here ++ [step])).isNone) = true := by
          intro hfree'
          rw [Bool.and_eq_true, List.isEmpty_iff, Option.isNone_iff_eq_none] at hfree'
          rw [hfree'.1, follow, hfree'.2] at hnext
          cases hnext
        rw [if_neg hdot, if_neg hup, if_neg hlong, if_neg hstay]
        exact hnext

/-- A file that is written in a directory is the only one that is made. -/
theorem isFile_of_isFile_write {tree changed : FileTree} {dir : Path} {name other : String}
    {content : Content} (hname : Path.IsName name) (hother : Path.IsName other) (hne : other ≠ name)
    (h : tree.write (dir.join name) content = .ok changed)
    (hfile : changed.isFile (dir.join other) = true) : tree.isFile (dir.join other) = true := by
  obtain ⟨spot, hopen, hresolve, hwrite⟩ :=
    write_eq_put ((exists_write_iff _ _ _).mp ⟨changed, h⟩) content
  obtain rfl := Except.ok.inj (h.symm.trans hwrite)
  have hlast : ∀ {files : FileTree} {found : Spot} {word : String}, Path.IsName word →
      files.resolve (dir.join word) = .ok found → found.location.getLast? = some word := by
    intro files found word hword hfound
    rw [resolve, Path.steps_join dir hword] at hfound
    split_ifs at hfound <;> exact getLast?_of_follow hword hfound
  have hplace : tree.find? spot.location ≠ some .directory := by
    rw [resolve] at hresolve
    split_ifs at hresolve <;> exact find?_ne_directory_of_follow hopen hresolve
  rw [isFile, lookup] at hfile
  cases hnew : (tree.put spot.location (.file content)).resolve (dir.join other) with
  | error cause => simp [hnew] at hfile
  | ok found =>
    cases found with
    | free location => simp [hnew] at hfile
    | taken location entry =>
      cases entry with
      | directory => simp [hnew] at hfile
      | file old =>
        have hplace' : location ≠ spot.location := by
          intro heq
          have h1 := hlast hother hnew
          have h2 := hlast hname hresolve
          rw [Spot.location, heq, h2] at h1
          exact hne (Option.some.inj h1).symm
        have hold : tree.resolve (dir.join other) = .ok (.taken location (.file old)) := by
          rw [resolve] at hnew ⊢
          split_ifs at hnew ⊢ <;> exact follow_of_follow_put hplace hplace' hnew
        simpa [isFile, lookup, hold, hnew] using hfile

end FileTree

end BenchReport
