/-!
# Paths

A path is the text that names a place in the file tree, kept as it was written, because messages
repeat it.  `Path.join` puts a name below a directory; `Path.steps` are the parts between the
slashes, which is what a lookup follows; `Path.parents` are the paths of the directories above, the
nearest one first.

A join adds one slash unless the directory is empty or ends in one (`join_text`); a name that starts
with a slash is a path of its own.
-/

namespace BenchReport

/-- The text that names a place in the file tree. -/
structure Path where
  text : String
  deriving DecidableEq, Repr

namespace Path

/-- What separates the names in a path. -/
def slash : Char := '/'

/-- Whether the path starts at the root of the tree. -/
def isAbsolute (path : Path) : Bool := path.text.toList.head? == some slash

/-- Whether the path ends in a slash, so that it can only name a directory. -/
def endsInSlash (path : Path) : Bool := path.text.toList.getLast? == some slash

/-- What `join` puts between the directory and the name. -/
def separator (dir : Path) : String :=
  if dir.text.isEmpty || dir.endsInSlash then "" else "/"

/-- The path of `name` in the directory `dir`; an absolute name stands for itself. -/
def join (dir : Path) (name : String) : Path :=
  if isAbsolute ⟨name⟩ then ⟨name⟩ else ⟨dir.text ++ dir.separator ++ name⟩

theorem join_text {dir : Path} {name : String} (h : isAbsolute ⟨name⟩ = false) :
    (dir.join name).text = dir.text ++ dir.separator ++ name := by
  simp [join, h]

/-- The parts of the path between its slashes, without empty ones. -/
def steps (path : Path) : List String :=
  ((path.text.toList.splitOnP (· == slash)).filter (fun part => !part.isEmpty)).map String.ofList

/-- The steps that lead somewhere: a single dot counts only at the start of a relative path. -/
def moves (path : Path) : List String :=
  match path.isAbsolute, path.steps with
  | false, "." :: rest => "." :: rest.filter (· != ".")
  | _, steps => steps.filter (· != ".")

/-- The path that goes through `steps`, from the root or from the working directory. -/
def ofSteps (absolute : Bool) (steps : List String) : Path :=
  ⟨(if absolute then "/" else "") ++ String.intercalate "/" steps⟩

/-- The paths of the directories above, the nearest one first. -/
def parents (path : Path) : List Path :=
  let moves := path.moves
  (List.range moves.length).reverse.map fun n => ofSteps path.isAbsolute (moves.take n)

end Path

end BenchReport
