/-!
# TOML values

The values of a TOML document and the rules by which its statements build a table.

A table remembers its `Origin`, because that decides what may still be added to it:

* a table between braces is complete and takes nothing;
* a table that dotted keys made takes further dotted keys, but no header of its own;
* a table that is only implied, by the header of a table inside it, takes one header of its own;
* a table with a header takes the keys below that header, and headers of tables inside it.

An array of tables grows by headers in double brackets; a header that leads through it means its last
table.  `Entries.assign`, `Entries.openTable` and `Entries.openElement` are the three statements; they
fail where a key would be given twice or a rule above is broken.
-/

namespace BenchReport

namespace Toml

/-- How a table came to be. -/
inductive Origin where
  /-- The header of a table inside it names it. -/
  | implied
  /-- A dotted key leads through it. -/
  | dotted
  /-- It has a header of its own. -/
  | stated
  /-- It stands between braces. -/
  | inlined
  deriving DecidableEq, Repr

/-- The values of a document. -/
inductive Value where
  | integer (n : Int)
  | real (x : Float)
  | truth (b : Bool)
  | text (s : String)
  /-- A date, a time, or both. -/
  | moment (written : String)
  | array (items : List Value)
  | table (origin : Origin) (entries : List (String × Value))
  /-- Tables under headers in double brackets; the earlier ones, last one first, take nothing more. -/
  | tables (earlier : List (List (String × Value))) (last : List (String × Value))

/-- The keys of a table with their values. -/
abbrev Entries : Type := List (String × Value)

namespace Entries

/-- The entries with another value for a key. -/
def put (key : String) (value : Value) (entries : Entries) : Entries :=
  (key, value) :: entries.filter fun old => old.1 != key

/-- Gives a value to a dotted key.  The tables on the way must be open to dotted keys, and the one that
takes the value must have come to be by them. -/
def assign (value : Value) : List String → Entries → Option Entries
  | [], _ => none
  | [key], entries =>
    if (entries.lookup key).isSome then none else some (entries.put key value)
  | step :: key :: path, entries =>
    match entries.lookup step with
    | none => (assign value (key :: path) []).map fun inner => entries.put step (.table .dotted inner)
    | some (.table .dotted inner) =>
      (assign value (key :: path) inner).map fun inner => entries.put step (.table .dotted inner)
    | some (.table .implied inner) =>
      if path.isEmpty then none
      else (assign value (key :: path) inner).map fun inner =>
        entries.put step (.table .implied inner)
    | some (.tables earlier last) =>
      if path.isEmpty then none
      else (assign value (key :: path) last).map fun last => entries.put step (.tables earlier last)
    | some _ => none

/-- Changes the table that a header leads to; tables that are missing on the way are implied. -/
def within (change : Entries → Option Entries) : List String → Entries → Option Entries
  | [], entries => change entries
  | step :: path, entries =>
    match entries.lookup step with
    | none => (within change path []).map fun inner => entries.put step (.table .implied inner)
    | some (.table .inlined _) => none
    | some (.table origin inner) =>
      (within change path inner).map fun inner => entries.put step (.table origin inner)
    | some (.tables earlier last) =>
      (within change path last).map fun last => entries.put step (.tables earlier last)
    | some _ => none

/-- Gives a table of its own to the last key of a header. -/
def openTable (path : List String) (entries : Entries) : Option Entries :=
  path.getLast?.bind fun key =>
    entries.within (fun parent =>
      match parent.lookup key with
      | none => some (parent.put key (.table .stated []))
      | some (.table .implied inner) => some (parent.put key (.table .stated inner))
      | some _ => none) path.dropLast

/-- Adds a table to the array of tables of the last key of a header. -/
def openElement (path : List String) (entries : Entries) : Option Entries :=
  path.getLast?.bind fun key =>
    entries.within (fun parent =>
      match parent.lookup key with
      | none => some (parent.put key (.tables [] []))
      | some (.tables earlier last) => some (parent.put key (.tables (last :: earlier) []))
      | some _ => none) path.dropLast

/-- The entries of a table between braces. -/
def inlined : List (List String × Value) → Option Entries :=
  List.foldlM (fun entries (path, value) => assign value path entries) []

end Entries

end Toml

end BenchReport
