import Mathlib
import BenchReport.Journal.Noted

/-!
# Reading what was written

`FileTree.accepts` says where a file can stand: a path that does not end in a slash and that leads to
a file or to a free name in a directory.  It is exactly where `FileTree.write` succeeds
(`FileTree.exists_write_iff`), and a file that was written is read back whatever stood there before
(`FileTree.read_write`).

The step behind it is `FileTree.follow_put`.  A path passes through directories only, and the place of
a file is none, so putting a file there changes no earlier step of the path.
-/

namespace BenchReport

namespace Spot

/-- The location that a spot is about. -/
def location : Spot → Location
  | taken location _ => location
  | free location => location

/-- Whether a spot is no directory. -/
def IsOpen : Spot → Prop
  | taken _ .directory => False
  | _ => True

end Spot

namespace FileTree

/-- Whether a file can stand at a path, in place of another one or under a free name. -/
def accepts (tree : FileTree) (path : Path) : Bool :=
  !path.endsInSlash &&
    match tree.resolve path with
    | .ok (.free _) => true
    | .ok (.taken _ (.file _)) => true
    | _ => false

/-! ## Following a path to a file -/

/-- Where a path ends at a location that is no directory, there is none in the tree either. -/
lemma find?_ne_directory_of_follow {tree : FileTree} {spot : Spot} (hopen : spot.IsOpen)
    {here : Location} {steps : List String} (h : tree.follow here steps = .ok spot) :
    tree.find? spot.location ≠ some .directory := by
  induction steps generalizing here with
  | nil =>
    rw [follow] at h
    split at h
    · rename_i entry hfind
      obtain rfl := Except.ok.inj h
      intro hdir
      obtain rfl := Option.some.inj (hfind.symm.trans hdir)
      exact hopen
    · cases h
  | cons step rest ih =>
    rw [follow] at h
    split at h
    · cases h
    · cases h
    · dsimp only at h
      split_ifs at h with hdot hup hlong hfree
      · exact ih h
      · exact ih h
      · obtain rfl := Except.ok.inj h
        rw [Bool.and_eq_true, Option.isNone_iff_eq_none] at hfree
        rw [Spot.location, hfree.2]
        exact Option.some_ne_none _ |>.symm
      · exact ih h

/-- A location that is no directory is not the root. -/
lemma ne_nil_of_find?_ne_directory {tree : FileTree} {location : Location}
    (h : tree.find? location ≠ some .directory) : location ≠ [] := by
  rintro rfl
  exact h rfl

/-- A path that leads to where a file can stand leads to the file that is put there. -/
lemma follow_put {tree : FileTree} {spot : Spot} (hopen : spot.IsOpen) (entry : Entry)
    {here : Location} {steps : List String} (h : tree.follow here steps = .ok spot) :
    (tree.put spot.location entry).follow here steps = .ok (.taken spot.location entry) := by
  have hdir := find?_ne_directory_of_follow hopen h
  have hself : (tree.put spot.location entry).find? spot.location = some entry :=
    find?_put_self tree entry (ne_nil_of_find?_ne_directory hdir)
  induction steps generalizing here with
  | nil =>
    rw [follow] at h
    split at h
    · obtain rfl := Except.ok.inj h
      rw [follow]
      simp only [Spot.location] at hself ⊢
      rw [hself]
    · cases h
  | cons step rest ih =>
    rw [follow] at h ⊢
    split at h
    · cases h
    · cases h
    · rename_i hhere
      -- `here` is a directory, so it is not the place of the file
      have hne : here ≠ spot.location := by
        rintro rfl
        exact hdir hhere
      rw [find?_put_of_ne tree entry hne, hhere]
      dsimp only at h ⊢
      split_ifs at h with hdot hup hlong hfree
      · simp only [hdot, if_true]
        exact ih h
      · simp only [hdot, hup, if_true, if_false, Bool.false_eq_true]
        exact ih h
      · obtain rfl := Except.ok.inj h
        rw [Bool.and_eq_true, List.isEmpty_iff] at hfree
        simp only [Spot.location] at hself ⊢
        simp only [hdot, hup, hlong, hself, if_false, Option.isNone_some, Bool.and_false,
          Bool.false_eq_true]
        rw [hfree.1, follow, hself]
      · have hstay : ¬(rest.isEmpty &&
            ((tree.put spot.location entry).find? (here ++ [step])).isNone) = true := by
          by_cases hnext : here ++ [step] = spot.location
          · rw [hnext, hself]
            simp
          · rwa [find?_put_of_ne tree entry hnext]
        simp only [hdot, hup, hlong, hstay, if_false, Bool.false_eq_true]
        exact ih h

lemma resolve_put {tree : FileTree} {spot : Spot} (hopen : spot.IsOpen) (entry : Entry)
    {path : Path} (h : tree.resolve path = .ok spot) :
    (tree.put spot.location entry).resolve path = .ok (.taken spot.location entry) := by
  rw [resolve] at h ⊢
  split_ifs at h with hnul hempty hlong habsolute
  · rw [if_neg hnul, if_neg hempty, if_neg hlong, if_pos habsolute]
    exact follow_put hopen entry h
  · rw [if_neg hnul, if_neg hempty, if_neg hlong, if_neg habsolute]
    exact follow_put hopen entry h

/-! ## Writing and reading -/

/-- Where a file can stand, writing puts it there. -/
lemma write_eq_put {tree : FileTree} {path : Path} (h : tree.accepts path = true)
    (content : Content) :
    ∃ spot : Spot, spot.IsOpen ∧ tree.resolve path = .ok spot ∧
      tree.write path content = .ok (tree.put spot.location (.file content)) := by
  rw [accepts, Bool.and_eq_true, Bool.not_eq_true'] at h
  obtain ⟨hslash, h⟩ := h
  split at h
  · rename_i location hresolve
    refine ⟨.free location, trivial, hresolve, ?_⟩
    simp [write, hresolve, hslash, Spot.location]
  · rename_i location old hresolve
    refine ⟨.taken location (.file old), trivial, hresolve, ?_⟩
    simp [write, hresolve, hslash, Spot.location]
  · cases h

/-- A file can be written exactly where a file can stand. -/
theorem exists_write_iff (tree : FileTree) (path : Path) (content : Content) :
    (∃ changed, tree.write path content = .ok changed) ↔ tree.accepts path = true := by
  constructor
  · rintro ⟨changed, h⟩
    rw [write] at h
    split at h
    · cases h
    · cases h
    · split_ifs at h with hslash
      simp_all [accepts]
    · split_ifs at h with hslash
      simp_all [accepts]
  · intro h
    obtain ⟨spot, -, -, hwrite⟩ := write_eq_put h content
    exact ⟨_, hwrite⟩

/-- What was written is read back. -/
theorem read_write {tree changed : FileTree} {path : Path} {content : Content}
    (h : tree.write path content = .ok changed) : changed.read path = .ok content.data := by
  have haccepts := (exists_write_iff tree path content).mp ⟨changed, h⟩
  obtain ⟨spot, hopen, hresolve, hwrite⟩ := write_eq_put haccepts content
  obtain rfl := Except.ok.inj (h.symm.trans hwrite)
  rw [accepts, Bool.and_eq_true, Bool.not_eq_true'] at haccepts
  simp [read, lookup, resolve_put hopen _ hresolve, haccepts.1, bytesOf, Except.bind]

end FileTree
end BenchReport
