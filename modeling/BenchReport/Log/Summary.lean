import BenchReport.Files.Path
import BenchReport.Number.Numeral
import BenchReport.Record
import BenchReport.Sample
import BenchReport.Text.Quoted
/-!
# The summary row of a log

A log is mostly prose.  Its figures stand in one row, which starts with two bars.  `Log.sample` reads
a log record by record up to the first such row and takes the wanted columns from it; what stands
behind that row has no influence.  A log without such a row has no sample.

The row itself has to be complete: each wanted column must be there (`missingField`) and hold a finite
number (`malformedField`).  The first column that does not decides which error it is.
-/

namespace BenchReport

/-- Why the sample of a log could not be read. -/
inductive SampleError where
  /-- The log could not be opened. -/
  | unreadable (path : Path) (cause : AccessError)
  /-- The log could not be read as records. -/
  | badRecord (path : Path) (cause : RecordError)
  /-- The summary row ends before a wanted column. -/
  | missingField (path : Path) (column : Nat)
  /-- A wanted column of the summary row is no finite number. -/
  | malformedField (path : Path) (column : Nat) (value : String)
  deriving DecidableEq, Repr

namespace SampleError

/-- The wording of a sample error. -/
def message : SampleError → String
  | unreadable path cause => "Failed to read " ++ path.text ++ ": " ++ cause.message
  | badRecord path cause => "Unreadable log " ++ path.text ++ ": " ++ cause.message
  | missingField path column =>
    "Sentinel row in " ++ path.text ++ " has no column " ++ toString column
  | malformedField path column value =>
    "Sentinel row in " ++ path.text ++ ": column " ++ toString column ++ " is not a number (" ++
      Text.quoted value ++ ")"

/-- The wording of the errors behind a sample error. -/
def causes : SampleError → List String
  | unreadable _ cause => [cause.message]
  | badRecord _ cause => [cause.message]
  | _ => []

end SampleError

namespace Log

/-- The first field of a summary row. -/
def sentinel : String := "||"

/-- Whether a record is a summary row. -/
def isSummary (record : Record) : Bool := record.fields.head? == some sentinel

/-- The finite number that a field writes. -/
def finite? (text : String) : Option Float := (Numeral.real? text).filter Float.isFinite

/-- The figure in one column of a summary row. -/
def figure (path : Path) (record : Record) (column : Nat) : Except SampleError Int :=
  match record.fields[column]? with
  | none => .error (.missingField path column)
  | some text =>
    match finite? text with
    | none => .error (.malformedField path column text)
    | some raw => .ok (thousands raw)

/-- The figures in the columns of a summary row. -/
def figures (path : Path) (record : Record) : List Nat → Except SampleError (List Int)
  | [] => .ok []
  | column :: rest =>
    match figure path record column with
    | .error error => .error error
    | .ok value => (figures path record rest).map (value :: ·)

/-- The sample in the first summary row of the records. -/
def firstSample (path : Path) (columns : Columns) : List Record.Raw → Except SampleError (Option Sample)
  | [] => .ok none
  | raw :: rest =>
    match raw.decode .dropped with
    | .error cause => .error (.badRecord path cause)
    | .ok record =>
      if isSummary record then
        (figures path record columns.indices).map fun values => some ⟨values⟩
      else firstSample path columns rest

/-- The sample in the bytes of a log.  The path only serves messages. -/
def sample (path : Path) (columns : Columns) (bytes : List UInt8) :
    Except SampleError (Option Sample) :=
  firstSample path columns (Record.split bytes)

end Log

end BenchReport
