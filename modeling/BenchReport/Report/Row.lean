import BenchReport.Log.Name
import BenchReport.Number.Shortest
import BenchReport.Sample
/-!
# Report rows

A report is a text with one line for each row.  An `AgreementRow` is the aggregate of one
configuration of agreement runs, a `StoreRow` that of one configuration of key-value store runs.
`toLine` writes a row: fields between tabs, the variant in double quotes, and figures as whole
numbers (`whole`), without their fraction and within 64 bits.

The name of a report tells the metric and the largest count that was looked for (`agreementName`,
`storeName`).

`dump` is the form in which the journal shows rows.
-/

namespace BenchReport

/-- The row of one configuration of agreement runs. -/
structure AgreementRow where
  replicas : UInt32
  protocol : Protocol
  variant : Variant
  stats : MeanSpread

/-- The row of one configuration of key-value store runs. -/
structure StoreRow where
  clients : UInt32
  variant : Variant
  write : MeanSpread
  read : MeanSpread

namespace Report

/-- A figure as a report shows it. -/
def whole (figure : Float) : Int := Binary64.toWord figure

/-- The fields of a line, joined by tabs. -/
def line (fields : List String) : String := String.intercalate "\t" fields

/-- A variant as a report shows it. -/
def variantField (variant : Variant) : String := "\"" ++ variant.label ++ "\""

/-- The two fields of a mean and its spread. -/
def statsFields (stats : MeanSpread) : List String :=
  [toString (whole stats.mean), toString (whole stats.spread)]

/-- The name of a report on agreement runs with up to `maxReplicas` replicas. -/
def agreementName (metric : Metric) (maxReplicas : UInt32) : String :=
  metric.tag ++ "_r" ++ countText maxReplicas

/-- The name of a report on store runs with up to `maxClients` clients. -/
def storeName (metric : Metric) (maxClients : UInt32) : String :=
  metric.tag ++ "_numc" ++ countText maxClients

/-! ## Dumps -/

/-- A record in a dump: its name, and its fields with their names. -/
def dumpRecord (name : String) (fields : List (String × String)) : String :=
  name ++ " \x7b " ++ String.intercalate ", " (fields.map fun (key, value) => key ++ ": " ++ value) ++
    " \x7d"

/-- A list in a dump. -/
def dumpList (items : List String) : String := "[" ++ String.intercalate ", " items ++ "]"

/-- A mean and its spread in a dump. -/
def dumpStats (stats : MeanSpread) : String :=
  dumpRecord "MeanSpread" [("mean", Shortest.text stats.mean), ("spread", Shortest.text stats.spread)]

end Report

namespace AgreementRow

/-- The line of the row in a report. -/
def toLine (row : AgreementRow) : String :=
  Report.line ([countText row.replicas, row.protocol.label, Report.variantField row.variant] ++
    Report.statsFields row.stats)

/-- The row as the journal shows it. -/
def dump (row : AgreementRow) : String :=
  Report.dumpRecord "AgreeReportLine" [("replicas", countText row.replicas),
    ("protocol", row.protocol.name), ("variant", row.variant.name),
    ("stats", Report.dumpStats row.stats)]

end AgreementRow

namespace StoreRow

/-- The line of the row in a report. -/
def toLine (row : StoreRow) : String :=
  Report.line ([countText row.clients, Report.variantField row.variant] ++
    Report.statsFields row.write ++ Report.statsFields row.read)

/-- The row as the journal shows it. -/
def dump (row : StoreRow) : String :=
  Report.dumpRecord "KvsReportLine" [("clients", countText row.clients),
    ("variant", row.variant.name), ("write", Report.dumpStats row.write),
    ("read", Report.dumpStats row.read)]

end StoreRow

end BenchReport
