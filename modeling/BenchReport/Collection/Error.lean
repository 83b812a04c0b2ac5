import BenchReport.Log.Summary
import BenchReport.Report.File
/-!
# Collection errors

Making a report fails either at a log that is broken or at the report itself.  This module also has
the wording of the note on a metric for which nothing was found.
-/

namespace BenchReport

/-- Why a report could not be made: a log is broken, or the report could not be written. -/
inductive CollectionError where
  | sample (cause : SampleError)
  | report (cause : ReportError)
  deriving DecidableEq, Repr

namespace CollectionError

/-- The wording of a collection error. -/
def message : CollectionError → String
  | sample cause => cause.message
  | report cause => cause.message

/-- The wording of the errors behind a collection error. -/
def causes : CollectionError → List String
  | sample cause => cause.causes
  | report cause => cause.causes

end CollectionError

/-- The note on a metric for which nothing was found. -/
def emptyReportText (metric : Metric) : String :=
  "No " ++ metric.title ++ " samples found, writing an empty report"

end BenchReport
