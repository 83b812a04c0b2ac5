import BenchReport.Journal.Noted
import BenchReport.Record
import BenchReport.Report.Row
/-!
# Report files

Reports written to the file tree and read back.

`Report.write` puts one line for each row at a path, in place of whatever file stood there.

Reading goes record by record and stops at the first fault.  Every record must have as many fields as
the first one, and then they must be texts.  They are read from left to right: a number that is none,
or a field that is missing, is a fault of the record (`badRecord`); after that the protocol and the
variant must be known names (`unknownLabel`).  Fields behind the ones that a row needs are not looked
at.  Integers may be written in hexadecimal digits after `0x`.
-/

namespace BenchReport

/-- Why a report could not be written or read. -/
inductive ReportError where
  /-- The report could not be written. -/
  | inaccessible (path : Path) (cause : AccessError)
  /-- The report could not be read as records of the right kind. -/
  | badRecord (path : Path) (cause : RecordError)
  /-- A row names no protocol or no variant. -/
  | unknownLabel (path : Path) (line : Nat) (cause : LabelError)
  deriving DecidableEq, Repr

namespace ReportError

/-- The wording of a report error. -/
def message : ReportError → String
  | inaccessible path cause => "Failed to access report " ++ path.text ++ ": " ++ cause.message
  | badRecord path cause => "Malformed report " ++ path.text ++ ": " ++ cause.message
  | unknownLabel path line cause =>
    "Invalid row in " ++ path.text ++ " at line " ++ toString line ++ ": " ++ cause.message

/-- The wording of the errors behind a report error. -/
def causes : ReportError → List String
  | inaccessible _ cause => [cause.message]
  | badRecord _ cause => [cause.message]
  | unknownLabel _ _ _ => []

end ReportError

/-! ## Typed fields -/

namespace Record

/-- Field `index` of a row of `size` fields. -/
def field (record : Record) (size index : Nat) : Except RecordError String :=
  match record.fields[index]? with
  | some text => .ok text
  | none => .error (.tooShort record.start index size)

/-- Reads an integer in decimal digits, or in hexadecimal ones after `0x`. -/
def integer {α : Type} (read : (radix : Nat) → List Char → Except NumeralError α) :
    List Char → Except NumeralError α
  | '0' :: 'x' :: digits => read 16 digits
  | digits => read 10 digits

/-- Field `index` of a row of `size` fields, read as an integer. -/
def integerField {α : Type} (read : (radix : Nat) → List Char → Except NumeralError α)
    (record : Record) (size index : Nat) : Except RecordError α :=
  match record.field size index with
  | .error cause => .error cause
  | .ok text => (integer read text.toList).mapError (.notNumber record.start index)

/-- Field `index` of a row of `size` fields, read as a count. -/
def countField (record : Record) (size index : Nat) : Except RecordError UInt32 :=
  (integerField (fun radix => Numeral.unsigned radix Numeral.maxU32) record size index).map
    UInt32.ofNat

/-- Field `index` of a row of `size` fields, read as a figure. -/
def figureField (record : Record) (size index : Nat) : Except RecordError Float :=
  (integerField (fun radix => Numeral.signed radix Numeral.maxI64) record size index).map
    Float.ofInt

end Record

namespace Report

/-! ## Writing -/

/-- The bytes of a report. -/
def bytes (lines : List String) : List UInt8 :=
  Utf8.ofString (String.join (lines.map (· ++ "\n")))

/-- Writes a report with the given lines. -/
def write (path : Path) (lines : List String) : Run ReportError Unit := do
  Run.change fun tree =>
    (tree.write path (.bytes (bytes lines))).mapError (.inaccessible path)
  Run.note .info .reportFile ("Printing output to " ++ path.text)

/-! ## Reading -/

/-- Why a record is no row. -/
inductive RowError where
  | record (cause : RecordError)
  | label (line : Nat) (cause : LabelError)
  deriving DecidableEq, Repr

/-- The error of a report that has a record that is no row. -/
def RowError.inReport (path : Path) : RowError → ReportError
  | record cause => .badRecord path cause
  | label line cause => .unknownLabel path line cause

/-- A record that has as many fields as the ones before, if there are any. -/
def checkLength (expected : Option Nat) (raw : Record.Raw) : Except RecordError Record.Raw :=
  match expected with
  | none => .ok raw
  | some n =>
    if raw.fields.length == n then .ok raw
    else .error (.unequalLengths raw.start raw.fields.length n)

/-- The rows of the records behind ones of `expected` fields. -/
def rowsFrom {α : Type} (toRow : Record → Except RowError α) :
    (expected : Option Nat) → List Record.Raw → Except RowError (List α)
  | _, [] => .ok []
  | expected, raw :: rest =>
    match (checkLength expected raw).bind (Record.Raw.decode .kept) with
    | .error cause => .error (.record cause)
    | .ok record =>
      match toRow record with
      | .error error => .error error
      | .ok row => (rowsFrom toRow (some record.fields.length) rest).map (row :: ·)

/-- The rows in the bytes of a report. -/
def rows {α : Type} (toRow : Record → Except RowError α) (data : List UInt8) :
    Except RowError (List α) :=
  rowsFrom toRow none (Record.split data)

/-- The rows of the report at a path. -/
def readRows {α : Type} (toRow : Record → Except RowError α) (tree : FileTree) (path : Path) :
    Except ReportError (List α) :=
  match tree.read path with
  | .error cause => .error (.badRecord path (.unreadable cause))
  | .ok data => (rows toRow data).mapError (RowError.inReport path)

end Report

namespace AgreementRow

/-- The row that a record of a report is. -/
def ofRecord (record : Record) : Except Report.RowError AgreementRow := do
  let replicas ← (record.countField 5 0).mapError .record
  let protocol ← (record.field 5 1).mapError .record
  let variant ← (record.field 5 2).mapError .record
  let mean ← (record.figureField 5 3).mapError .record
  let spread ← (record.figureField 5 4).mapError .record
  let protocol ← (Protocol.ofLabel protocol).mapError (.label record.start.line)
  let variant ← (Variant.ofLabel variant).mapError (.label record.start.line)
  return ⟨replicas, protocol, variant, ⟨mean, spread⟩⟩

/-- The rows of the report at a path. -/
def readReport (tree : FileTree) (path : Path) : Except ReportError (List AgreementRow) :=
  Report.readRows ofRecord tree path

end AgreementRow

namespace StoreRow

/-- The row that a record of a report is. -/
def ofRecord (record : Record) : Except Report.RowError StoreRow := do
  let clients ← (record.countField 6 0).mapError .record
  let variant ← (record.field 6 1).mapError .record
  let writeMean ← (record.figureField 6 2).mapError .record
  let writeSpread ← (record.figureField 6 3).mapError .record
  let readMean ← (record.figureField 6 4).mapError .record
  let readSpread ← (record.figureField 6 5).mapError .record
  let variant ← (Variant.ofLabel variant).mapError (.label record.start.line)
  return ⟨clients, variant, ⟨writeMean, writeSpread⟩, ⟨readMean, readSpread⟩⟩

/-- The rows of the report at a path. -/
def readReport (tree : FileTree) (path : Path) : Except ReportError (List StoreRow) :=
  Report.readRows ofRecord tree path

end StoreRow

end BenchReport
