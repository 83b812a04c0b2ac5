import BenchReport.Collection.Error
import BenchReport.Plot.Error
import BenchReport.Style.Source
/-!
# Failures of commands

What a command that fails has to say: a message, and the wording of the errors behind it, the nearest
one first.  `Failure.lines` is the report that is printed.  It starts with the message; the errors
behind it follow one by one, numbered if there are several, and the lines of an error stay aligned
below each other.
-/

namespace BenchReport

/-- Why a command failed. -/
structure Failure where
  message : String
  /-- The errors behind, the nearest one first. -/
  causes : List String
  deriving DecidableEq, Repr

namespace Failure

/-- A failure that came up while something was done. -/
def during (activity : String) (failure : Failure) : Failure :=
  ⟨activity, failure.message :: failure.causes⟩

/-- The failure of an access. -/
def ofAccess (error : AccessError) : Failure := ⟨error.message, []⟩

/-- The failure of a collection. -/
def ofCollection (error : CollectionError) : Failure := ⟨error.message, error.causes⟩

/-- The failure of a plot. -/
def ofPlot (error : PlotError) : Failure := ⟨error.message, error.causes⟩

/-- The failure to load a style. -/
def ofStyle (error : StyleError) : Failure := ⟨error.message, error.causes⟩

/-! ## The printed report -/

/-- The lines of a text. -/
def linesOf (text : String) : List String := (text.toList.splitOnP (· == '\n')).map String.ofList

/-- The lines of a text behind a heading, and as far in as that where they go on. -/
def hung (heading text : String) : List String :=
  match linesOf text with
  | [] => []
  | first :: rest =>
    let margin := String.ofList (List.replicate heading.length ' ')
    (heading ++ first) :: rest.map (margin ++ ·)

/-- The heading of a numbered error. -/
def numbered (n : Nat) : String :=
  let digits := toString n
  String.ofList (List.replicate (5 - digits.length) ' ') ++ digits ++ ": "

/-- The lines for the errors behind a message. -/
def causeLines : List String → List String
  | [] => []
  | [cause] => hung "    " cause
  | causes => (causes.zipIdx.map fun (cause, n) => hung (numbered n) cause).flatten

/-- The report on a failure. -/
def lines (failure : Failure) : List String :=
  linesOf ("Error: " ++ failure.message) ++
    if failure.causes.isEmpty then [] else ["", "Caused by:"] ++ causeLines failure.causes

end Failure

end BenchReport
