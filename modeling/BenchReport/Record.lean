import BenchReport.Files.Access
import BenchReport.Number.Numeral
import BenchReport.Text.Blank
import BenchReport.Text.Utf8
/-!
# Records

Logs and reports are read as records of fields.  A tab ends a field.  A line feed or a carriage return
ends a record, so that a line end of the two together ends one record and the empty line between
them is skipped, as every empty line is.  A field that starts with a double quote runs to the next
single double quote, whatever stands between, with two double quotes for one; what follows the
closing quote up to the next tab or line end is appended as it stands.  Anywhere else a double quote
is a character like any other.  The end of the input ends the last record.

`Record.split` cuts bytes into records without looking at what they mean.  It is a machine that takes
one byte at a time (`Scanner.step`), so that what a record is depends on nothing behind it.  Each raw
record knows where the reader stood when it started on it (`Mark`): right behind the end of the
record before, ahead of the empty lines that it skipped.

A raw record becomes a `Record` of texts by `Raw.decode`, which fails at the first field that is not
UTF-8.  `RecordError` collects the ways in which a record can be refused, here and by its readers.
-/

namespace BenchReport

/-- Where the reader stands: how many records it has read, in which line it is, and at which byte. -/
structure Mark where
  record : Nat
  line : Nat
  byte : Nat
  deriving DecidableEq, Repr

/-- A record of texts. -/
structure Record where
  start : Mark
  fields : List String
  deriving DecidableEq, Repr

/-- Why a file or one of its records was refused. -/
inductive RecordError where
  /-- The file could not be read. -/
  | unreadable (cause : AccessError)
  /-- A field is not text: `offset` bytes of it are, and the next ones are not. -/
  | notText (start : Mark) (field offset : Nat)
  /-- A record has another number of fields than the ones before. -/
  | unequalLengths (start : Mark) (found expected : Nat)
  /-- A field is not the number that should stand there. -/
  | notNumber (start : Mark) (field : Nat) (cause : NumeralError)
  /-- A record ends too early. -/
  | tooShort (start : Mark) (found expected : Nat)
  deriving DecidableEq, Repr

namespace RecordError

/-- The place of a record as messages name it. -/
def place (start : Mark) : String :=
  "record " ++ toString start.record ++ " (line: " ++ toString start.line ++ ", byte: " ++
    toString start.byte ++ ")"

/-- The wording of a record error. -/
def message : RecordError → String
  | unreadable cause => cause.message
  | notText start field offset =>
    "CSV parse error: record " ++ toString start.record ++ " (line " ++ toString start.line ++
      ", field: " ++ toString field ++ ", byte: " ++ toString start.byte ++
      "): invalid utf-8: invalid UTF-8 in field " ++ toString field ++ " near byte index " ++
      toString offset
  | unequalLengths start found expected =>
    "CSV error: " ++ place start ++ ": found record with " ++ toString found ++
      " fields, but the previous record has " ++ toString expected ++ " fields"
  | notNumber start field cause =>
    "CSV deserialize error: " ++ place start ++ ": field " ++ toString field ++ ": " ++ cause.message
  | tooShort start found expected =>
    "CSV deserialize error: " ++ place start ++ ": invalid length " ++ toString found ++
      ", expected a tuple of size " ++ toString expected

end RecordError

namespace Record

/-! ## Bytes with a meaning -/

/-- The byte that ends a field. -/
def tab : UInt8 := 9

/-- The byte that ends a line. -/
def lineFeed : UInt8 := 10

/-- The other byte that ends a record. -/
def carriageReturn : UInt8 := 13

/-- The byte that quotes a field. -/
def quote : UInt8 := 34

/-- Whether a byte ends a record. -/
def isEnd (byte : UInt8) : Bool := byte == lineFeed || byte == carriageReturn

/-- White space of ASCII. -/
def isAsciiBlank (byte : UInt8) : Bool :=
  byte == 9 || byte == 10 || byte == 12 || byte == 13 || byte == 32

/-- The byte order mark, which is no part of the first record. -/
def byteOrderMark : List UInt8 := [0xEF, 0xBB, 0xBF]

/-! ## Cutting bytes into records -/

/-- A record before its fields are read as text. -/
structure Raw where
  start : Mark
  fields : List (List UInt8)
  deriving DecidableEq, Repr

/-- What the last byte left the scanner in. -/
inductive Mode where
  /-- Ahead of a record. -/
  | between
  /-- Ahead of a field of a record that has begun. -/
  | fieldStart
  /-- In a field, where quotes mean nothing. -/
  | bare
  /-- In a quoted field. -/
  | quoted
  /-- In a quoted field behind a quote that closes it or is doubled. -/
  | closing
  deriving DecidableEq, Repr

/-- The scanner: its mode, the mark of the record that it is on, the place it has reached, the bytes of
the current field and the fields before it.  The last two are held in reverse. -/
structure Scanner where
  mode : Mode
  start : Mark
  here : Mark
  field : List UInt8
  fields : List (List UInt8)
  deriving DecidableEq, Repr

namespace Scanner

/-- A scanner that has read nothing but the first `byte` bytes, which belong to no record. -/
def initial (byte : Nat) : Scanner where
  mode := .between
  start := ⟨0, 1, 0⟩
  here := ⟨0, 1, byte⟩
  field := []
  fields := []

/-- Counts a byte. -/
def advance (s : Scanner) (byte : UInt8) : Scanner :=
  { s with here := ⟨s.here.record, s.here.line + (if byte == lineFeed then 1 else 0),
      s.here.byte + 1⟩ }

/-- Takes a byte into the current field. -/
def take (s : Scanner) (byte : UInt8) (mode : Mode) : Scanner :=
  { s with field := byte :: s.field, mode := mode }

/-- Ends the current field. -/
def endField (s : Scanner) : Scanner :=
  { s with field := [], fields := s.field.reverse :: s.fields, mode := .fieldStart }

/-- The record that ends here. -/
def raw (s : Scanner) : Raw := ⟨s.start, (s.field.reverse :: s.fields).reverse⟩

/-- Ends the current record. -/
def endRecord (s : Scanner) : Scanner × Option Raw :=
  let next : Mark := ⟨s.here.record + 1, s.here.line, s.here.byte⟩
  (⟨.between, next, next, [], []⟩, some s.raw)

/-- Takes a byte ahead of a field. -/
def startField (s : Scanner) (byte : UInt8) : Scanner :=
  if byte == quote then { s with mode := .quoted }
  else if byte == tab then s.endField
  else s.take byte .bare

/-- Takes a byte, and returns the record that it ends. -/
def step (s : Scanner) (byte : UInt8) : Scanner × Option Raw :=
  let s := s.advance byte
  match s.mode with
  | .between => if isEnd byte then (s, none) else (s.startField byte, none)
  | .fieldStart => if isEnd byte then s.endRecord else (s.startField byte, none)
  | .bare =>
    if byte == tab then (s.endField, none)
    else if isEnd byte then s.endRecord
    else (s.take byte .bare, none)
  | .quoted => if byte == quote then ({ s with mode := .closing }, none) else (s.take byte .quoted, none)
  | .closing =>
    if byte == quote then (s.take byte .quoted, none)
    else if byte == tab then (s.endField, none)
    else if isEnd byte then s.endRecord
    else (s.take byte .bare, none)

/-- The record that the end of the input ends. -/
def finish (s : Scanner) : List Raw :=
  match s.mode with
  | .between => []
  | _ => [s.raw]

/-- The records that the scanner finds in the bytes. -/
def run (s : Scanner) : List UInt8 → List Raw
  | [] => s.finish
  | byte :: rest =>
    match s.step byte with
    | (next, none) => next.run rest
    | (next, some record) => record :: next.run rest

end Scanner

/-- The records of a file. -/
def split (bytes : List UInt8) : List Raw :=
  if byteOrderMark.isPrefixOf bytes then (Scanner.initial 3).run (bytes.drop 3)
  else (Scanner.initial 0).run bytes

/-! ## Reading fields as text -/

/-- How the fields of a record are read: as they are, or without the white space at their ends. -/
inductive Padding where
  | kept
  | dropped
  deriving DecidableEq, Repr

/-- The text of a field, or how many bytes of it are text. -/
def fieldText (padding : Padding) (field : List UInt8) : Except Nat String :=
  match padding with
  | .kept => (Utf8.decode field).map String.ofList
  | .dropped =>
    (Utf8.decode (Text.trimBy isAsciiBlank field)).map fun text =>
      String.ofList (Text.trimBy Text.isBlank text)

/-- The texts of the fields behind the first `index` ones. -/
def fieldTexts (padding : Padding) (start : Mark) (index : Nat) :
    List (List UInt8) → Except RecordError (List String)
  | [] => .ok []
  | field :: rest =>
    match fieldText padding field with
    | .error offset => .error (.notText start index offset)
    | .ok text => (fieldTexts padding start (index + 1) rest).map (text :: ·)

/-- The record as texts. -/
def Raw.decode (padding : Padding) (raw : Raw) : Except RecordError Record :=
  (fieldTexts padding raw.start 0 raw.fields).map (⟨raw.start, ·⟩)

end Record

end BenchReport
