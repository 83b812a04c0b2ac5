import BenchReport.Toml.Moment
import BenchReport.Toml.Number
import BenchReport.Toml.Quoted
import BenchReport.Toml.Value
/-!
# TOML documents

A document is read in two steps: its text into statements (`Document.statements`), by syntax alone, and
its statements into the table that they build (`Document.table`).  `Document.entries` does both.

Arrays and tables between braces may stand in each other, up to `nestingLimit` of them.  Both may go
over several lines, with comments on them, and end in a comma.  Only the parts of one key stand on one
line, and a key has no more than `keyLimit` of them.
-/

namespace BenchReport

namespace Toml

/-! ## Keys -/

/-- Whether a character may stand in a key without quotes. -/
def isKeyChar (c : Char) : Bool := c.isAlphanum || c == '_' || c == '-'

/-- Reads one part of a key. -/
def keyPart : Reader String
  | '\"' :: rest => (basic rest).map fun (key, rest) => (String.ofList key, rest)
  | '\'' :: rest => (literal rest).map fun (key, rest) => (String.ofList key, rest)
  | text =>
    let key := text.takeWhile isKeyChar
    if key.isEmpty then none else some (String.ofList key, text.dropWhile isKeyChar)

/-- The largest number of parts of a key. -/
def keyLimit : Nat := 80

/-- Reads the parts of a key, with points between them. -/
def key : Reader (List String) := fun text =>
  (separated keyPart '.' text).filter fun (path, _) => path.length ≤ keyLimit

/-! ## Values -/

/-- Whether a character may stand in a value without quotes. -/
def isScalarChar (c : Char) : Bool := c.isAlphanum || ['+', '-', '_', '.', ':'].contains c

/-- The value that a text without quotes stands for. -/
def scalarOf (text : List Char) : Option Value :=
  if text = "true".toList then some (.truth true)
  else if text = "false".toList then some (.truth false)
  else
    match integer? text, real? text with
    | some n, _ => some (.integer n)
    | none, some x => some (.real x)
    | none, none => if isMoment text then some (.moment (String.ofList text)) else none

/-- Reads a value without quotes.  A space in it can only stand between a date and a time. -/
def scalar : Reader Value := fun text =>
  let first := text.takeWhile isScalarChar
  match text.dropWhile isScalarChar with
  | ' ' :: rest =>
    if isDate first && rest.head?.any Numeral.isDigit then
      (scalarOf (first ++ ' ' :: rest.takeWhile isScalarChar)).map fun value =>
        (value, rest.dropWhile isScalarChar)
    else (scalarOf first).map fun value => (value, ' ' :: rest)
  | rest => (scalarOf first).map fun value => (value, rest)

/-- Reads a text as a value. -/
def textValue (read : Reader (List Char)) : Reader Value := fun text =>
  (read text).map fun (text, rest) => (.text (String.ofList text), rest)

/-- Reads items with commas between them, and perhaps behind the last one, up to a closing character;
there are no more than `bound` of them. -/
def itemsWithin {α : Type} (item : Reader α) (close : Char) : (bound : Nat) → Reader (List α)
  | 0, _ => none
  | bound + 1, text =>
    match skipLayout false text with
    | [] => none
    | c :: rest =>
      if c == close then some ([], rest)
      else
        (item (c :: rest)).bind fun (first, rest) =>
          match skipLayout false rest with
          | [] => none
          | c :: rest =>
            if c == close then some ([first], rest)
            else if c == ',' then
              (itemsWithin item close bound rest).map fun (others, rest) => (first :: others, rest)
            else none

/-- Reads items up to a closing character. -/
def itemsUpTo {α : Type} (item : Reader α) (close : Char) : Reader (List α) := fun text =>
  itemsWithin item close (text.length + 1) text

/-- Reads an array behind its opening bracket. -/
def arrayOf (item : Reader Value) : Reader Value := fun text =>
  (itemsUpTo item ']' text).map fun (items, rest) => (.array items, rest)

/-- Reads a key with its value.  What `skip` leaves out may stand around the equals sign. -/
def assignment (skip : List Char → List Char) (value : Reader Value) :
    Reader (List String × Value) := fun text =>
  (key text).bind fun (path, rest) =>
    match skip rest with
    | '=' :: rest => (value (skip rest)).map fun (value, rest) => ((path, value), rest)
    | _ => none

/-- Reads a table behind its opening brace. -/
def tableOf (value : Reader Value) : Reader Value := fun text =>
  (itemsUpTo (assignment (skipLayout false) value) '\x7d' text).bind fun (assignments, rest) =>
    (Entries.inlined assignments).map fun entries => (.table .inlined entries, rest)

/-- The largest number of arrays and tables between braces that stand in each other. -/
def nestingLimit : Nat := 80

/-- Reads a value in which up to `nesting` arrays and tables between braces stand in each other. -/
def valueWithin : (nesting : Nat) → Reader Value
  | _, '\"' :: '\"' :: '\"' :: rest => textValue basicLines rest
  | _, '\'' :: '\'' :: '\'' :: rest => textValue literalLines rest
  | _, '\"' :: rest => textValue basic rest
  | _, '\'' :: rest => textValue literal rest
  | nesting + 1, '[' :: rest => arrayOf (valueWithin nesting) rest
  | nesting + 1, '\x7b' :: rest => tableOf (valueWithin nesting) rest
  | _, text => scalar text

/-! ## Statements -/

/-- The statements of a document. -/
inductive Statement where
  /-- A key gets a value, in the table of the header before. -/
  | assign (path : List String) (value : Value)
  /-- The header of a table. -/
  | table (path : List String)
  /-- The header of one more table of an array. -/
  | element (path : List String)

/-- Reads a statement. -/
def statement : Reader Statement
  | '[' :: '[' :: rest =>
    match key rest with
    | some (path, ']' :: ']' :: rest) => some (.element path, rest)
    | _ => none
  | '[' :: rest =>
    match key rest with
    | some (path, ']' :: rest) => some (.table path, rest)
    | _ => none
  | text =>
    (assignment skipGap (valueWithin nestingLimit) text).map fun ((path, value), rest) =>
      (.assign path value, rest)

namespace Document

/-- Reads statements up to the end of the document; there are no more than `bound` of them. -/
def statementsWithin : (bound : Nat) → List Char → Option (List Statement)
  | 0, _ => none
  | bound + 1, text =>
    match skipLayout false text with
    | [] => some []
    | text => do
      let (first, rest) ← statement text
      let rest ← skipLineEnd rest
      let others ← statementsWithin bound rest
      return first :: others

/-- The statements of a text. -/
def statements (text : List Char) : Option (List Statement) :=
  (readable text).bind fun text => statementsWithin (text.length + 1) text

/-- A document as far as it is read: its table, and the header under which the next key stands. -/
structure Progress where
  header : List String
  root : Entries

/-- The progress that a statement makes. -/
def Progress.next (progress : Progress) : Statement → Option Progress
  | .assign path value =>
    (progress.root.within (Entries.assign value path) progress.header).map fun root =>
      { progress with root := root }
  | .table path => (progress.root.openTable path).map fun root => ⟨path, root⟩
  | .element path => (progress.root.openElement path).map fun root => ⟨path, root⟩

/-- The table that statements build. -/
def table (statements : List Statement) : Option Entries :=
  (statements.foldlM Progress.next ⟨[], []⟩).map Progress.root

/-- The character that a text file may start with. -/
def mark : Char := '\ufeff'

/-- The entries of the document in a text. -/
def entries (text : List Char) : Option Entries :=
  (statements (if text.head? == some mark then text.drop 1 else text)).bind table

end Document

end Toml

end BenchReport
