import BenchReport.Journal.Note
import BenchReport.Journal.Pattern
import BenchReport.Number.Numeral
import BenchReport.Text.Blank
import BenchReport.Text.Utf8
import BenchReport.Text.Word
/-!
# Choosing the notes that are printed

A filter is written as a list of directives with commas between them.  A directive is a level, or a
target, or a target with a level behind an equals sign; a target without a level asks for everything.
Levels are written by name, in small or capital letters, or by number.

A target selects the topics whose names start with it.  For a note, the directive with the longest
target that selects its topic decides, and of several with the same target the last one
(`Filter.admits`).  Without any such directive a note is not printed.

A directive may also name, in brackets behind its target, a span and, in braces, a field, with a value
that is a number or a pattern.  Notes belong to no span and have one field, their message, so only a
directive that asks for no other field, for no value and for no span can select notes.

`Filter.mostVerbose` is the most verbose level that a filter can ask for.

A list that breaks these rules, or that holds nothing but white space, asks for the level `info`.
-/

namespace BenchReport

/-- The level down to which notes are wanted; none wants no notes. -/
abbrev Threshold : Type := Option Level

namespace Threshold

/-- The place of a threshold, from the one that wants no notes to the one that wants all. -/
def rank : Threshold → Nat
  | none => 0
  | some level => level.rank

/-- The name of a threshold. -/
def name : Threshold → String
  | none => "off"
  | some .error => "error"
  | some .warn => "warn"
  | some .info => "info"
  | some .debug => "debug"
  | some .trace => "trace"

/-- All thresholds, by rank. -/
def all : List Threshold :=
  [none, some .error, some .warn, some .info, some .debug, some .trace]

/-- The threshold that a text writes, by number or by name. -/
def ofText? (text : List Char) : Option Threshold :=
  match Numeral.unsigned 10 Numeral.maxU64 text with
  | .ok n => all[n]?
  | .error _ => all.find? fun threshold => threshold.name.toList == text.map Char.toLower

end Threshold

/-- A wish for notes. -/
structure Directive where
  /-- How the names of the wanted topics start. -/
  target : Option (List Char)
  /-- Whether only notes inside of spans are wanted. -/
  inSpan : Bool
  /-- Whether a field is wanted for its value. -/
  byValue : Bool
  /-- The names of wanted fields. -/
  fields : List (List Char)
  threshold : Threshold
  deriving DecidableEq, Repr

namespace Directive

/-! ## Reading -/

/-- Whether a directive may start with the character. -/
def startsDirective (c : Char) : Bool :=
  c == '[' || c == '-' || c == ':' || c == '_' || Text.isAlphanumeric c

/-- The threshold behind an equals sign; no text asks for everything. -/
def thresholdOf? (text : List Char) : Option Threshold :=
  if text.isEmpty then some (some .trace) else Threshold.ofText? text

/-- A stretch of a text, counted in bytes. -/
structure Stretch where
  start : Nat
  size : Nat
  deriving DecidableEq, Repr

/-- What stands at a stretch of a text. -/
def Stretch.of (stretch : Stretch) (text : List Char) : List Char :=
  Utf8.take stretch.size (Utf8.drop stretch.start text)

/-- Where the parts of a directive stand. -/
structure Outline where
  target : Option Stretch
  span : Option Stretch
  field : Option Stretch
  /-- Where the level starts; it goes to the end. -/
  level : Option Nat
  deriving DecidableEq, Repr

/-- The outline with a target and a span, behind the first `start` bytes and with the text behind the
brackets. -/
def Outline.ofEnd? (outline : Outline) (start : Nat) : List Char → Option Outline
  | [] => some outline
  | '=' :: _ => some { outline with level := some (start + 1) }
  | _ => none

/-- The outline of a directive with a target and a span, given the text behind the opening bracket, which
is the last of the first `start` bytes. -/
def Outline.ofSpan? (target : Option Stretch) (start : Nat) (text : List Char) : Option Outline :=
  let name := text.takeWhile fun c => c != ']' && c != '\x7b'
  let span : Stretch := ⟨start, Utf8.size name⟩
  let start := start + span.size + 1
  match text.drop name.length with
  | ']' :: rest => Outline.ofEnd? ⟨target, some span, none, none⟩ start rest
  | _ :: rest =>
    let field := rest.takeWhile (· != '\x7d')
    let stretch : Stretch := ⟨start, Utf8.size field⟩
    match rest.drop field.length with
    | '\x7d' :: ']' :: rest =>
      if field.isEmpty then none
      else
        Outline.ofEnd? ⟨target, if name.isEmpty then none else some span, some stretch, none⟩
          (start + stretch.size + 2) rest
    | _ => none
  | [] => none

/-- The outline of a directive that is more than a level or a target. -/
def Outline.ofText? (text : List Char) : Option Outline :=
  let target := text.takeWhile fun c => c != '=' && c != '['
  let stretch : Stretch := ⟨0, Utf8.size target⟩
  match text.drop target.length with
  | '=' :: _ => some ⟨some stretch, none, none, some (stretch.size + 1)⟩
  | _ :: rest =>
    Outline.ofSpan? (if target.isEmpty then none else some stretch) (stretch.size + 1) rest
  | [] => none

/-- Whether a text may stand for the value of a field: a number, or a pattern. -/
def isValue (text : List Char) : Bool :=
  (Numeral.real? (String.ofList text)).isSome || Pattern.isPattern text

/-- The name of a field and its value, if it has one, which stands behind an equals sign and before
another one. -/
def fieldOf? (text : List Char) : Option (List Char × Bool) :=
  let name := text.takeWhile (· != '=')
  match text.drop name.length with
  | [] => some (name, false)
  | _ :: rest => if isValue (rest.takeWhile (· != '=')) then some (name, true) else none

/-- The directive with an outline, whose parts are taken from an item. -/
def ofOutline? (outline : Outline) (item : List Char) : Option Directive := do
  let threshold ←
    match outline.level with
    | none => some (some Level.trace)
    | some start => thresholdOf? (Utf8.drop start item)
  let fields ←
    match outline.field with
    | none => some []
    | some stretch => (fieldOf? (stretch.of item)).map fun field => [field]
  return ⟨outline.target.map (·.of item), outline.span.isSome, fields.any (·.2), fields.map (·.1),
    threshold⟩

/-- The directive that an item writes.  A level or a target alone is the whole item, with the white space
around it.  Otherwise the outline is that of the item without the white space around it, while its
parts are what stands in the item at these places; so white space in front moves all of them. -/
def ofItem? (item : List Char) : Option Directive :=
  let text := Text.trimBy Text.isBlank item
  if !text.head?.any startsDirective then none
  else if text.any fun c => c == '=' || c == '[' then
    (Outline.ofText? text).bind fun outline => ofOutline? outline item
  else
    match Threshold.ofText? item with
    | some threshold => some ⟨none, false, false, [], threshold⟩
    | none => some ⟨some item, false, false, [], some .trace⟩

/-! ## Selecting -/

/-- The name of the only field of notes. -/
def noteField : List Char := "message".toList

/-- Whether the directive selects notes on a topic. -/
def selects (directive : Directive) (topic : Topic) : Bool :=
  !directive.inSpan && !directive.byValue && directive.fields.all (· == noteField) &&
    directive.target.all fun target => target.isPrefixOf topic.name.toList

/-- How specific a directive is: the length of its target, and then the number of its fields. -/
def weight (directive : Directive) : Nat × Nat :=
  ((directive.target.map fun target => target.length + 1).getD 0, directive.fields.length)

/-- Whether a directive is at least as specific as another. -/
def covers (directive other : Directive) : Bool :=
  other.weight.1 < directive.weight.1 ||
    (other.weight.1 == directive.weight.1 && other.weight.2 ≤ directive.weight.2)

end Directive

/-- The directives that choose the notes that are printed. -/
structure Filter where
  directives : List Directive
  deriving DecidableEq, Repr

namespace Filter

/-- The filter where nothing else is asked for. -/
def standard : Filter := ⟨[⟨none, false, false, [], some .info⟩]⟩

/-- The filter that a list of directives writes. -/
def ofList? (text : List Char) : Option Filter :=
  let items := (text.splitOnP (· == ',')).filter fun item => !item.isEmpty
  (items.mapM Directive.ofItem?).map Filter.mk

/-- The filter that a text asks for. -/
def ofText : Option String → Filter
  | none => standard
  | some text => if Text.isBlankText text then standard else (ofList? text.toList).getD standard

/-- The more verbose of a threshold and that of a directive. -/
def moreVerbose (threshold : Threshold) (directive : Directive) : Threshold :=
  let wanted : Threshold := if directive.byValue then some .trace else directive.threshold
  if threshold.rank < wanted.rank then wanted else threshold

/-- The most verbose threshold that a directive names. -/
def mostVerbose (filter : Filter) : Threshold := filter.directives.foldl moreVerbose none

/-- The more specific of two directives, the second one if they are equally specific. -/
def moreSpecific (found : Option Directive) (directive : Directive) : Option Directive :=
  match found with
  | none => some directive
  | some old => if directive.covers old then some directive else some old

/-- The directive that decides on the notes on a topic. -/
def deciding (filter : Filter) (topic : Topic) : Option Directive :=
  (filter.directives.filter fun directive => directive.selects topic).foldl moreSpecific none

/-- Whether a note is printed. -/
def admits (filter : Filter) (note : Note) : Bool :=
  match filter.deciding note.topic with
  | none => false
  | some directive => note.level.rank ≤ directive.threshold.rank

end Filter

end BenchReport
