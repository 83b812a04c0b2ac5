import BenchReport.Drawing.Figure
import BenchReport.Journal.Noted
import BenchReport.Report.File
import BenchReport.Surface.Grid
/-!
# Plot errors

The ways in which a chart can fail to be made, and the one step that all charts end with: writing a
figure to the file tree.
-/

namespace BenchReport

/-- Why a chart could not be made. -/
inductive PlotError where
  /-- The figure could not be written. -/
  | render (path : Path) (cause : AccessError)
  /-- The samples of a surface could not be read. -/
  | points (cause : PointError)
  /-- The samples of a surface are too far apart. -/
  | tooLarge (cause : GridTooLarge)
  /-- A report could not be read. -/
  | report (cause : ReportError)
  deriving DecidableEq, Repr

/-- The wording of a point error. -/
def PointError.message : PointError → String
  | unreadable cause => "Failed to read plot input: " ++ cause.message
  | invalid line coordinate word =>
    "Invalid surface point on line " ++ toString line ++ ": " ++ word ++ " is not a valid " ++
      coordinate.title

/-- The wording of the errors behind a point error. -/
def PointError.causes : PointError → List String
  | unreadable cause => [cause.message]
  | invalid _ _ _ => []

/-- The wording for a grid that is too large. -/
def GridTooLarge.message (error : GridTooLarge) : String :=
  "Surface grid up to (" ++ toString error.maxX ++ ", " ++ toString error.maxY ++ ") exceeds " ++
    toString SurfaceGrid.cellLimit ++ " cells"

namespace PlotError

/-- The wording of a plot error. -/
def message : PlotError → String
  | render path cause =>
    "Failed to render " ++ path.text ++ ": backend error: Drawing backend error: " ++ cause.message
  | points cause => cause.message
  | tooLarge cause => cause.message
  | report cause => cause.message

/-- The wording of the errors behind a plot error. -/
def causes : PlotError → List String
  | render _ _ => []
  | points cause => cause.causes
  | tooLarge _ => []
  | report cause => cause.causes

end PlotError

namespace Plot

/-- Writes a figure. -/
def draw (path : Path) (figure : Figure) : Run PlotError Unit :=
  Run.change fun tree => (tree.write path (.drawn figure)).mapError (.render path)

end Plot

end BenchReport
