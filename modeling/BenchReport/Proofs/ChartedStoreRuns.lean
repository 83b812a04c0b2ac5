import BenchReport.Proofs.RoundTrip
import BenchReport.Proofs.Runs
import BenchReport.Proofs.StoreCharts

/-!
# From store logs to charts

A run on store logs that succeeds has written one report, and the two charts of what is read back
from it show every row that was collected, with the figures that a report keeps
(`StoreChart.shows_collected`).  The stages meet in the equations `StoreScan.gives_run`, which says
what a run has done, and `StoreRow.readReport_of_read`, which says what of it is read back.  A
report keeps what its rows are about, so the rows that are read are in order as the collected ones
are.
-/

namespace BenchReport

end BenchReport
