import BenchReport.Drawing.Svg
import BenchReport.Files.Access
import BenchReport.Files.Path
import BenchReport.Text.Utf8
/-!
# File trees

The files that a run can see and change, as a value.  A tree assigns an entry, a directory or a file
with content, to locations, which are lists of names from the root; the root itself is always a
directory.  Relative paths start at the tree's working directory.

`FileTree.resolve` follows a path name by name as the operating system does: every name but the last
has to be a directory, a single dot stays, two dots go up, and an error says what stood in the way.
All other operations go through it:

* `lookup` finds the entry of a path, `isFile` asks whether it is a file, `read` takes its bytes;
* `write` puts content at a path, `makeDirectory` a directory;
* `ensureDirectories` makes the directories on the way to a path as far as it can, and tells whether
  that was all the way;
* `remove` takes away an entry with everything below it.

The operations that change a tree return the new tree.  Whatever they put somewhere leaves all other
locations as they were (`find?_put_self`, `find?_put_of_ne`).
-/

namespace BenchReport

/-- What a file holds: bytes, or a figure, which stands for its picture. -/
inductive Content where
  | bytes (data : List UInt8)
  | drawn (figure : Figure)
  deriving DecidableEq, Repr

/-- The bytes that a reader of the file gets. -/
def Content.data : Content → List UInt8
  | bytes data => data
  | drawn figure => Utf8.ofString (Svg.document figure)

/-- What stands at a location. -/
inductive Entry where
  | directory
  | file (content : Content)
  deriving DecidableEq, Repr

/-- A place in a tree: the names on the way from the root. -/
abbrev Location := List String

/-- Directories and files, and the directory in which relative paths start. -/
structure FileTree where
  home : Location
  entries : List (Location × Entry)
  deriving DecidableEq, Repr

/-- Where a path leads: to an entry, or to a free name in a directory. -/
inductive Spot where
  | taken (location : Location) (entry : Entry)
  | free (location : Location)
  deriving DecidableEq, Repr

namespace FileTree

/-- A tree that holds nothing but its working directory and the directories above. -/
def empty (home : Location) : FileTree where
  home := home
  entries := (List.range home.length).map fun n => (home.take (n + 1), .directory)

/-! ## Locations -/

/-- The entry at a location. -/
def find? (tree : FileTree) : Location → Option Entry
  | [] => some .directory
  | location => tree.entries.lookup location

/-- The tree with another entry at a location. -/
def put (tree : FileTree) (location : Location) (entry : Entry) : FileTree :=
  { tree with entries := (location, entry) :: tree.entries.filter fun old => old.1 != location }

/-- The tree without a location and everything below it. -/
def drop (tree : FileTree) (location : Location) : FileTree :=
  { tree with entries := tree.entries.filter fun old => !location.isPrefixOf old.1 }

theorem lookup_filter_ne (entries : List (Location × Entry)) {location other : Location}
    (h : other ≠ location) :
    (entries.filter fun old => old.1 != location).lookup other = entries.lookup other := by
  induction entries with
  | nil => rfl
  | cons head tail ih =>
    obtain ⟨key, value⟩ := head
    by_cases hk : key = location
    · subst hk
      have ho : (other == key) = false := by simpa using h
      simp only [List.filter_cons, bne_self_eq_false, Bool.false_eq_true, if_false,
        List.lookup_cons, ho]
      exact ih
    · simp only [List.filter_cons, bne_iff_ne, ne_eq, hk, not_false_eq_true, if_true,
        List.lookup_cons, ih]

/-- What was put at a location is found there. -/
theorem find?_put_self (tree : FileTree) {location : Location} (entry : Entry)
    (h : location ≠ []) : (tree.put location entry).find? location = some entry := by
  obtain ⟨first, rest, rfl⟩ := List.exists_cons_of_ne_nil h
  simp [put, find?]

/-- Putting an entry at a location changes no other location. -/
theorem find?_put_of_ne (tree : FileTree) {location other : Location} (entry : Entry)
    (h : other ≠ location) : (tree.put location entry).find? other = tree.find? other := by
  cases other with
  | nil => rfl
  | cons first rest =>
    have ho : ((first :: rest) == location) = false := by simpa using h
    simp only [put, find?, List.lookup_cons, ho]
    exact lookup_filter_ne _ h

/-! ## Following a path -/

/-- The longest name, in bytes. -/
def longestName : Nat := 255

/-- The longest path, in bytes. -/
def longestPath : Nat := 4095

/-- Follows steps from a location. -/
def follow (tree : FileTree) : Location → List String → Except AccessError Spot
  | here, [] =>
    match tree.find? here with
    | some entry => .ok (.taken here entry)
    | none => .error .notFound
  | here, step :: rest =>
    match tree.find? here with
    | none => .error .notFound
    | some (.file _) => .error .notADirectory
    | some .directory =>
      if step == "." then tree.follow here rest
      else if step == ".." then tree.follow here.dropLast rest
      else if longestName < step.utf8ByteSize then .error .nameTooLong
      else
        let next := here ++ [step]
        if rest.isEmpty && (tree.find? next).isNone then .ok (.free next)
        else tree.follow next rest

/-- Follows a path. -/
def resolve (tree : FileTree) (path : Path) : Except AccessError Spot :=
  if path.text.toList.contains '\x00' then .error .nulInName
  else if path.text.isEmpty then .error .notFound
  else if longestPath < path.text.utf8ByteSize then .error .nameTooLong
  else tree.follow (if path.isAbsolute then [] else tree.home) path.steps

/-! ## Looking -/

/-- The entry that a path names. -/
def lookup (tree : FileTree) (path : Path) : Except AccessError Entry :=
  match tree.resolve path with
  | .error cause => .error cause
  | .ok (.free _) => .error .notFound
  | .ok (.taken _ .directory) => .ok .directory
  | .ok (.taken _ (.file content)) =>
    if path.endsInSlash then .error .notADirectory else .ok (.file content)

/-- The bytes of an entry; a directory has none. -/
def bytesOf : Entry → Except AccessError (List UInt8)
  | .directory => .error .isADirectory
  | .file content => .ok content.data

/-- The bytes of the file that a path names. -/
def read (tree : FileTree) (path : Path) : Except AccessError (List UInt8) :=
  (tree.lookup path).bind bytesOf

/-- Whether a path names a file. -/
def isFile (tree : FileTree) (path : Path) : Bool :=
  match tree.lookup path with
  | .ok (.file _) => true
  | _ => false

/-- Whether a path names a directory. -/
def isDirectory (tree : FileTree) (path : Path) : Bool :=
  match tree.lookup path with
  | .ok .directory => true
  | _ => false

/-! ## Changing -/

/-- Puts content at a path, in place of the file that was there. -/
def write (tree : FileTree) (path : Path) (content : Content) : Except AccessError FileTree :=
  match tree.resolve path with
  | .error cause => .error cause
  | .ok (.taken _ .directory) => .error .isADirectory
  | .ok (.taken location (.file _)) =>
    if path.endsInSlash then .error .isADirectory else .ok (tree.put location (.file content))
  | .ok (.free location) =>
    if path.endsInSlash then .error .isADirectory else .ok (tree.put location (.file content))

/-- Makes a directory at a free path. -/
def makeDirectory (tree : FileTree) (path : Path) : Except AccessError FileTree :=
  match tree.resolve path with
  | .error cause => .error cause
  | .ok (.taken _ _) => .error .alreadyExists
  | .ok (.free location) => .ok (tree.put location .directory)

/-- Makes a directory at a path unless there is one. -/
def ensureDirectory (tree : FileTree) (path : Path) : FileTree × Except AccessError Unit :=
  match tree.makeDirectory path with
  | .ok made => (made, .ok ())
  | .error cause => (tree, if tree.isDirectory path then .ok () else .error cause)

/-- Makes a directory at a path unless there is one, given the paths above, nearest first.  These are
made where something is missing on the way, and they stay if the directory itself cannot be made. -/
def ensureBelow (tree : FileTree) (path : Path) : List Path → FileTree × Except AccessError Unit
  | [] => if path.text.isEmpty then (tree, .ok ()) else tree.ensureDirectory path
  | above :: rest =>
    if path.text.isEmpty then (tree, .ok ())
    else
      match tree.makeDirectory path with
      | .error .notFound =>
        match tree.ensureBelow above rest with
        | (deeper, .error cause) => (deeper, .error cause)
        | (deeper, .ok ()) => deeper.ensureDirectory path
      | _ => tree.ensureDirectory path

/-- Makes a directory at a path, and those above it, unless there is one. -/
def ensureDirectories (tree : FileTree) (path : Path) : FileTree × Except AccessError Unit :=
  tree.ensureBelow path path.parents

/-- The tree with a directory at a path, and those above it. -/
def makeDirectories (tree : FileTree) (path : Path) : Except AccessError FileTree :=
  match tree.ensureDirectories path with
  | (made, .ok ()) => .ok made
  | (_, .error cause) => .error cause

/-- Puts content at a path, and makes the directories above it. -/
def install (tree : FileTree) (path : Path) (content : Content) : Except AccessError FileTree :=
  match path.parents with
  | [] => tree.write path content
  | above :: _ => (tree.makeDirectories above).bind fun made => made.write path content

/-- Takes away what a path names, with everything below it. -/
def remove (tree : FileTree) (path : Path) : Except AccessError FileTree :=
  match tree.lookup path, tree.resolve path with
  | .ok _, .ok (.taken location _) => .ok (tree.drop location)
  | .error cause, _ => .error cause
  | _, _ => .error .notFound

/-- Everything below the working directory, with the names on the way from there. -/
def below (tree : FileTree) : List (Location × Entry) :=
  tree.entries.filterMap fun (location, entry) =>
    if tree.home.isPrefixOf location && location.length != tree.home.length then
      some (location.drop tree.home.length, entry)
    else none

end FileTree

end BenchReport
