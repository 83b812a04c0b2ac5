import BenchReport.Number.Numeral
/-!
# Chart styles

The size of a chart in pixels, the size of its letters, and for charts of agreement runs the upper end
of the vertical axis for each metric.  Without an upper end, the axis follows the data.
-/

namespace BenchReport

/-- What charts look like. -/
structure Style where
  width : UInt32
  height : UInt32
  fontSize : UInt32
  /-- The upper end of the axis of response times. -/
  responseTimeMax : Option Float
  /-- The upper end of the axis of throughput. -/
  throughputMax : Option Float

/-- The style of charts for which nothing else is asked. -/
def Style.standard : Style where
  width := 800
  height := 450
  fontSize := 19
  responseTimeMax := some 250
  throughputMax := some 850

end BenchReport
