import BenchReport.Files.Tree
import BenchReport.Settings.Environment
import BenchReport.Text.Blank
import BenchReport.Text.Word
/-!
# Environment files

A file named `.env` in the working directory, or in the nearest directory above that has one, holds
variables that are added to the environment before a command starts.  It never replaces a variable
that is set.

An entry is a name, an equals sign and a value, with `export` before it if one likes.  Empty lines and
lines that start with a number sign say nothing.

*Lines.*  A quoted value may go over several lines of the file, so entries are found by following the
quotes (`entryLines`).  A number sign after white space outside of quotes starts a comment.

*Values.*  Outside of quotes a value ends at the first blank, behind which only a comment may stand.
Single quotes keep everything as it is.  Outside of them a backslash makes the next character an
ordinary one, or a line end if it is `n`, and a dollar sign is replaced together with the name behind
it, which may stand in braces, by the value of the variable of that name.  The character that ends a
name without braces is always an ordinary one.

Reading stops at the first line that is no entry, and what was read before it counts.
-/

namespace BenchReport

namespace EnvironmentFile

/-! ## From the file to lines with one entry each -/

/-- The name of environment files. -/
def fileName : String := ".env"

/-- Where environment files are looked for, the nearest place first. -/
def places (home : Location) : List Location :=
  (List.range (home.length + 1)).reverse.map fun n => home.take n ++ [fileName]

/-- The content of the nearest environment file. -/
def nearest? (tree : FileTree) : Option (List UInt8) :=
  (places tree.home).findSome? fun location =>
    match tree.find? location with
    | some (.file content) => some content.data
    | _ => none

/-- What a reader of lines has to know of the characters before. -/
inductive Quotes where
  /-- Outside of quotes. -/
  | outside
  /-- Outside of quotes, behind a blank. -/
  | blank
  /-- Behind a backslash outside of quotes. -/
  | escape
  /-- Between single quotes. -/
  | single
  /-- Behind a backslash between single quotes. -/
  | singleEscape
  /-- Between double quotes. -/
  | double
  /-- Behind a backslash between double quotes. -/
  | doubleEscape
  deriving DecidableEq, Repr

namespace Quotes

/-- What is known after a character that starts something new. -/
def opened (c : Char) : Quotes :=
  if c == '\\' then escape
  else if c == '\"' then double
  else if c == '\'' then single
  else outside

/-- What is known after one more character. -/
def next (c : Char) : Quotes → Quotes
  | outside => if Text.isBlank c && c != '\n' && c != '\r' then blank else opened c
  | blank => opened c
  | escape => outside
  | single => if c == '\\' then singleEscape else if c == '\'' then outside else single
  | singleEscape => single
  | double => if c == '\\' then doubleEscape else if c == '\"' then outside else double
  | doubleEscape => double

end Quotes

/-- The part of a line before a comment, and what is known at its end; nothing if a comment ended
it. -/
def beforeComment : Quotes → List Char → List Char × Option Quotes
  | quotes, [] => ([], some quotes)
  | quotes, c :: rest =>
    if quotes = .blank ∧ c = '#' then ([], none)
    else
      let (kept, last) := beforeComment (quotes.next c) rest
      (c :: kept, last)

/-- The lines of a file, with their ends. -/
def fileLines (bytes : List UInt8) : List (List UInt8) :=
  let pieces := bytes.splitOnP (· == 10)
  pieces.dropLast.map (· ++ [10]) ++ pieces.getLast?.toList.filter fun line => !line.isEmpty

/-- A line without its end. -/
def withoutEnd (line : List Char) : List Char :=
  match line.reverse with
  | '\n' :: '\r' :: rest => rest.reverse
  | '\n' :: rest => rest.reverse
  | _ => line

/-- Whether a line is a comment as a whole. -/
def isComment (line : List Char) : Bool := (line.dropWhile Text.isBlank).head? == some '#'

/-- The lines with one entry each, given the part of the first one that was read already.  A line that
is not text ends them, and so does the end of the file inside quotes. -/
def entryLinesFrom (read : List Char) (quotes : Quotes) : List (List UInt8) → List (List Char)
  | [] => []
  | bytes :: rest =>
    match Utf8.decode bytes with
    | .error _ => []
    | .ok line =>
      if isComment (read ++ line) then entryLinesFrom [] .outside rest
      else
        match beforeComment quotes line with
        | (kept, none) => (read ++ kept) :: entryLinesFrom [] .outside rest
        | (_, some .outside) => withoutEnd (read ++ line) :: entryLinesFrom [] .outside rest
        | (_, some quotes) => entryLinesFrom (read ++ line) quotes rest

/-- The mark that a text file may start with. -/
def byteOrderMark : List UInt8 := [0xEF, 0xBB, 0xBF]

/-- The lines of a file with one entry each. -/
def entryLines (bytes : List UInt8) : List (List Char) :=
  let bytes := if byteOrderMark.isPrefixOf bytes then bytes.drop byteOrderMark.length else bytes
  entryLinesFrom [] .outside (fileLines bytes)

/-! ## Values -/

/-- Where a reader of values stands. -/
inductive Place where
  /-- Outside of quotes. -/
  | plain
  /-- Behind a value that a blank has ended. -/
  | ended
  /-- In a comment. -/
  | comment
  /-- Between single quotes. -/
  | single
  /-- Between double quotes. -/
  | double
  /-- Behind a backslash, outside of quotes or between double ones. -/
  | escape (quoted : Bool)
  /-- In a name behind a dollar sign. -/
  | name (quoted : Bool) (read : List Char)
  /-- In a name between braces. -/
  | bracedName (quoted : Bool) (read : List Char)
  deriving DecidableEq, Repr

namespace Place

/-- The place outside of quotes or between double ones. -/
def text (quoted : Bool) : Place := if quoted then double else plain

/-- What the character behind a backslash stands for. -/
def escaped? (c : Char) : Option Char :=
  if c == 'n' then some '\n'
  else if c == '\\' || c == '\'' || c == '\"' || c == '$' || c == ' ' then some c
  else none

/-- Takes one more character: the place behind it and the text that it adds to the value. -/
def next (valueOf : List Char → List Char) (c : Char) : Place → Option (Place × List Char)
  | plain =>
    if c == '$' then some (name false [], [])
    else if c == '\'' then some (single, [])
    else if c == '\"' then some (double, [])
    else if c == '\\' then some (escape false, [])
    else if c == ' ' || c == '\t' then some (ended, [])
    else some (plain, [c])
  | ended =>
    if c == ' ' || c == '\t' then some (ended, [])
    else if c == '#' then some (comment, [])
    else none
  | comment => some (comment, [])
  | single => if c == '\'' then some (plain, []) else some (single, [c])
  | double =>
    if c == '$' then some (name true [], [])
    else if c == '\"' then some (plain, [])
    else if c == '\\' then some (escape true, [])
    else some (double, [c])
  | escape quoted => (escaped? c).map fun meant => (text quoted, [meant])
  | name quoted read =>
    if Text.isAlphanumeric c then some (name quoted (read ++ [c]), [])
    else if c == '\x7b' && read.isEmpty then some (bracedName quoted [], [])
    else if c == '$' then some (name quoted [], valueOf read)
    else some (text quoted, valueOf read ++ [c])
  | bracedName quoted read =>
    if c == '\x7d' then some (text quoted, valueOf read)
    else some (bracedName quoted (read ++ [c]), [])

/-- What the end of a value adds to it; quotes and braces have to be closed by then. -/
def finish (valueOf : List Char → List Char) : Place → Option (List Char)
  | plain | ended | comment | escape false => some []
  | name false read => some (valueOf read)
  | single | double | escape true | name true _ | bracedName _ _ => none

end Place

/-- The value that a text stands for, read from a place on. -/
def valueFrom (valueOf : List Char → List Char) : Place → List Char → Option (List Char)
  | place, [] => place.finish valueOf
  | place, c :: rest =>
    (place.next valueOf c).bind fun (place, added) =>
      (valueFrom valueOf place rest).map (added ++ ·)

/-! ## Entries -/

/-- What a line says. -/
inductive Line where
  | nothing
  | entry (name value : String)
  | fault
  deriving DecidableEq, Repr

/-- Whether a name may start with the character. -/
def startsName (c : Char) : Bool := c.isAlpha || c == '_'

/-- Whether a name may hold the character. -/
def isNameChar (c : Char) : Bool := c.isAlphanum || c == '_' || c == '.'

/-- Splits a name off, and the white space behind it. -/
def splitName (line : List Char) : Option (List Char × List Char) :=
  if line.head?.any startsName then
    some (line.takeWhile isNameChar, (line.dropWhile isNameChar).dropWhile Text.isBlank)
  else none

/-- Splits a name and an equals sign off. -/
def splitAssignment (line : List Char) : Option (List Char × List Char) :=
  match splitName line with
  | some (name, '=' :: rest) => some (name, rest)
  | _ => none

/-- What may stand before an entry. -/
def exportMark : List Char := "export".toList

/-- Splits the name of an entry and an equals sign off; `export` is a name only where an equals sign
follows it. -/
def splitEntry (line : List Char) : Option (List Char × List Char) :=
  match splitName line with
  | some (name, '=' :: rest) => some (name, rest)
  | some (name, rest) => if name = exportMark then splitAssignment rest else none
  | none => none

/-- Reads a line, given the values of variables. -/
def readLine (valueOf : List Char → List Char) (line : List Char) : Line :=
  let line := Text.trimBy Text.isBlank line
  if line.isEmpty || line.head? == some '#' then .nothing
  else
    match splitEntry line with
    | none => .fault
    | some (name, rest) =>
      let rest := rest.dropWhile Text.isBlank
      if rest.isEmpty || rest.head? == some '#' then .entry (String.ofList name) ""
      else
        match valueFrom valueOf .plain rest with
        | none => .fault
        | some value => .entry (String.ofList name) (String.ofList value)

/-- The value of a variable, empty if it is not set. -/
def variableIn (env : Environment) (name : List Char) : List Char :=
  ((env.get? (String.ofList name)).getD "").toList

/-- The environment with the entries of the lines added. -/
def addLines (env : Environment) : List (List Char) → Environment
  | [] => env
  | line :: rest =>
    match readLine (variableIn env) line with
    | .nothing => addLines env rest
    | .entry name value => addLines (env.addMissing name value) rest
    | .fault => env

/-- The words of the nearest file that could be names of variables. -/
def mentioned (tree : FileTree) : List String :=
  let text := ((nearest? tree).bind Utf8.text?).getD ""
  let words := (text.toList.splitOnP fun c => !isNameChar c).filter fun word => !word.isEmpty
  words.map String.ofList

end EnvironmentFile

/-- The environment with the entries of the nearest environment file added. -/
def Environment.withFile (env : Environment) (tree : FileTree) : Environment :=
  match EnvironmentFile.nearest? tree with
  | none => env
  | some bytes => EnvironmentFile.addLines env (EnvironmentFile.entryLines bytes)

end BenchReport
