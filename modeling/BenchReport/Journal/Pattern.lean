import BenchReport.Number.Numeral
import BenchReport.Text.Blank
import BenchReport.Text.Word
/-!
# Patterns

Which texts are patterns for the values of fields (`Pattern.isPattern`).  A pattern is made of
characters, escapes behind a backslash, sets of characters between brackets, and groups between
parentheses, with bars between alternatives and the marks `?`, `*` and `+` for repetition behind what
they repeat.  A repetition by number is none, since no closing brace can stand in the value of a field.

Letters behind a question mark at the start of a group switch modes (`Modes`), up to the end of the
group around them.  In the mode `unicode`, which is on at first, a pattern must not ask for what takes
tables of Unicode to decide: letters in either case, kinds of characters such as digits, or the ends of
words.  In the other mode it may, but then nothing in it may stand for a byte that is no ASCII, because
a value that is text could be cut in the middle of a character.
-/

namespace BenchReport

namespace Pattern

/-! ## Modes -/

/-- How a part of a pattern is read. -/
structure Modes where
  /-- Letters stand for themselves in either case. -/
  caseless : Bool
  /-- What is matched are characters, and not bytes. -/
  unicode : Bool
  /-- White space and comments count for nothing. -/
  spaced : Bool
  deriving DecidableEq, Repr

namespace Modes

/-- The modes at the start of a pattern. -/
def standard : Modes := ⟨false, true, false⟩

/-- The letters of modes; those that change nothing about what is a pattern are among them. -/
def letters : List Char := "imsUuRx".toList

/-- Switches a mode on or off. -/
def switch (modes : Modes) (letter : Char) (on : Bool) : Modes :=
  if letter == 'i' then { modes with caseless := on }
  else if letter == 'u' then { modes with unicode := on }
  else if letter == 'x' then { modes with spaced := on }
  else modes

/-- Switches modes as a list of letters says: on, and off behind a minus sign. -/
def switchAll (modes : Modes) (text : List Char) : Modes :=
  let on := text.takeWhile (· != '-')
  let off := text.drop on.length
  off.foldl (fun modes letter => modes.switch letter false)
    (on.foldl (fun modes letter => modes.switch letter true) modes)

/-- Whether a text lists modes: no letter and no sign twice, and a letter behind the sign. -/
def isList (text : List Char) : Bool :=
  text.all (fun c => letters.contains c || c == '-') && decide text.Nodup && text.getLast? != some '-'

/-- The text behind white space and comments. -/
def skipSpace : (inComment : Bool) → List Char → List Char
  | _, [] => []
  | true, c :: rest => skipSpace (c != '\n') rest
  | false, c :: rest =>
    if Text.isBlank c then skipSpace false rest
    else if c == '#' then skipSpace true rest
    else c :: rest

/-- The text behind what counts for nothing. -/
def skip (modes : Modes) (text : List Char) : List Char :=
  if modes.spaced then skipSpace false text else text

end Modes

/-! ## Escapes -/

/-- What stands behind a backslash. -/
inductive Escape where
  /-- A character, which may be written as a byte. -/
  | char (c : Char) (byte : Bool)
  /-- The digits, the letters of words or the white space, or all other characters. -/
  | kind (negated : Bool)
  /-- An end of the text. -/
  | textEnd
  /-- An end of a word, or a place that is none. -/
  | wordEnd
  deriving DecidableEq, Repr

/-- Reads a code point in exactly `count` hexadecimal digits. -/
def codePoint? (count : Nat) (text : List Char) : Option (Char × List Char) :=
  let digits := (text.take count).mapM (Numeral.digit? 16)
  (digits.filter fun digits => digits.length == count).bind fun digits =>
    let value := digits.foldl (fun n digit => 16 * n + digit) 0
    if value.isValidChar then some (Char.ofNat value, text.drop count) else none

/-- The control characters that have an escape of one letter. -/
def controls : List (Char × Char) :=
  [('a', '\x07'), ('f', '\x0c'), ('t', '\t'), ('n', '\n'), ('r', '\r'), ('v', '\x0b')]

/-- Reads an escape behind its backslash.  A character of ASCII that is no letter and no digit stands for
itself, but for the marks of the ends of words. -/
def escape? : List Char → Option (Escape × List Char)
  | [] => none
  | c :: rest =>
    if c == 'x' then (codePoint? 2 rest).map fun (c, rest) => (.char c true, rest)
    else if c == 'u' then (codePoint? 4 rest).map fun (c, rest) => (.char c false, rest)
    else if c == 'U' then (codePoint? 8 rest).map fun (c, rest) => (.char c false, rest)
    else if c == 'd' || c == 's' || c == 'w' then some (.kind false, rest)
    else if c == 'D' || c == 'S' || c == 'W' then some (.kind true, rest)
    else if c == 'A' || c == 'z' then some (.textEnd, rest)
    else if c == 'b' then if rest.head? == some '\x7b' then none else some (.wordEnd, rest)
    else if c == 'B' || c == '<' || c == '>' then some (.wordEnd, rest)
    else
      match controls.lookup c with
      | some control => some (.char control false, rest)
      | none => if c.toNat < 128 && !c.isAlphanum then some (.char c false, rest) else none

/-- Whether the modes allow a character. -/
def allowsChar (modes : Modes) (c : Char) (byte : Bool) : Bool :=
  if modes.unicode then !modes.caseless else !byte || c.toNat < 128

/-- Whether the modes allow a kind of characters. -/
def allowsKind (modes : Modes) (negated : Bool) : Bool := !modes.unicode && !negated

/-- Whether the modes allow an escape outside of brackets. -/
def allows (modes : Modes) : Escape → Bool
  | .char c byte => allowsChar modes c byte
  | .kind negated => allowsKind modes negated
  | .textEnd => true
  | .wordEnd => !modes.unicode

/-! ## Sets -/

/-- How two sets make a third one. -/
inductive SetOperation where
  | both
  | without
  | either
  deriving DecidableEq, Repr

/-- Whether a character belongs to a set, given whether it belongs to the two that make it. -/
def SetOperation.apply (first second : Bool) : SetOperation → Bool
  | both => first && second
  | without => first && !second
  | either => first != second

/-- A set that is being read.  Of its characters it knows whether those beyond ASCII are among them,
which are all in it or all not as far as that matters. -/
structure OpenSet where
  negated : Bool
  /-- The set before an operation, and the operation. -/
  before : Option (Bool × SetOperation)
  beyond : Bool
  deriving DecidableEq, Repr

namespace OpenSet

/-- What the set is, without being negated. -/
def plain (set : OpenSet) : Bool :=
  match set.before with
  | none => set.beyond
  | some (first, operation) => operation.apply first set.beyond

/-- Adds characters. -/
def add (set : OpenSet) (beyond : Bool) : OpenSet := { set with beyond := set.beyond || beyond }

/-- Starts on the second set of an operation. -/
def operate (set : OpenSet) (operation : SetOperation) : OpenSet :=
  ⟨set.negated, some (set.plain, operation), false⟩

/-- What the set is, once it is closed, if the modes allow it. -/
def close? (modes : Modes) (set : OpenSet) : Option Bool :=
  let beyond := set.plain != set.negated
  if (if modes.unicode then modes.caseless else beyond) then none else some beyond

end OpenSet

/-- The names of kinds of characters of ASCII. -/
def kindNames : List String :=
  ["alnum", "alpha", "ascii", "blank", "cntrl", "digit", "graph", "lower", "print", "punct", "space",
    "upper", "word", "xdigit"]

/-- Reads a named kind behind a bracket, and whether it is negated. -/
def namedKind? : List Char → Option (Bool × List Char)
  | ':' :: rest =>
    let negated := rest.head? == some '^'
    let rest := if negated then rest.drop 1 else rest
    match rest.dropWhile (· != ':') with
    | ':' :: ']' :: behind =>
      if kindNames.contains (String.ofList (rest.takeWhile (· != ':'))) then some (negated, behind)
      else none
    | _ => none
  | _ => none

/-- Opens a set behind its bracket.  A circumflex negates it; hyphens and a closing bracket that stand
first are characters of it. -/
def openSet (modes : Modes) (text : List Char) : OpenSet × List Char :=
  let text := modes.skip text
  let negated := text.head? == some '^'
  let text := if negated then modes.skip (text.drop 1) else text
  let rest := if text.head? == some ']' then text.drop 1 else text.dropWhile (· == '-')
  (⟨negated, none, false⟩, rest)

/-- Reads a character of a set, or the kind that stands in its place (`none`). -/
def setItem? (modes : Modes) : List Char → Option (Option Char × List Char)
  | [] => none
  | '\\' :: rest =>
    (escape? rest).bind fun (escape, rest) =>
      match escape with
      | .char c _ => if modes.unicode || c.toNat < 128 then some (some c, rest) else none
      | .kind negated => if allowsKind modes negated then some (none, rest) else none
      | .textEnd | .wordEnd => none
  | c :: rest => if modes.unicode || c.toNat < 128 then some (some c, rest) else none

/-- Reads a character of a set, a kind, or a range of characters. -/
def setRange? (modes : Modes) (text : List Char) : Option (List Char) :=
  (setItem? modes text).bind fun (first, rest) =>
    match modes.skip rest with
    | '-' :: more =>
      match modes.skip more with
      | [] => none
      | c :: last =>
        if c == ']' || c == '-' then some ('-' :: more)
        else
          (setItem? modes (c :: last)).bind fun (last, rest) =>
            match first, last with
            | some first, some last => if first ≤ last then some rest else none
            | _, _ => none
    | rest => some rest

/-- Reads the current set and those around it up to the last closing bracket, in no more than `bound`
steps. -/
def setWithin (modes : Modes) :
    (bound : Nat) → OpenSet → List OpenSet → List Char → Option (List Char)
  | 0, _, _, _ => none
  | bound + 1, set, outer, text =>
    match modes.skip text with
    | [] => none
    | ']' :: rest =>
      (set.close? modes).bind fun beyond =>
        match outer with
        | [] => some rest
        | next :: outer => setWithin modes bound (next.add beyond) outer rest
    | '&' :: '&' :: rest => setWithin modes bound (set.operate .both) outer rest
    | '-' :: '-' :: rest => setWithin modes bound (set.operate .without) outer rest
    | '~' :: '~' :: rest => setWithin modes bound (set.operate .either) outer rest
    | '[' :: rest =>
      match namedKind? rest with
      | some (negated, rest) => setWithin modes bound (set.add negated) outer rest
      | none =>
        let (inner, rest) := openSet modes rest
        setWithin modes bound inner (set :: outer) rest
    | text => (setRange? modes text).bind fun rest => setWithin modes bound set outer rest

/-- Reads a set behind its opening bracket. -/
def set? (modes : Modes) (text : List Char) : Option (List Char) :=
  let (set, rest) := openSet modes text
  setWithin modes (text.length + 1) set [] rest

/-! ## Groups -/

/-- What a parenthesis opens. -/
inductive Opening where
  /-- A group, which may have a name. -/
  | group (modes : Modes) (name : Option (List Char))
  /-- Modes for the rest of the group around it. -/
  | modes (modes : Modes)
  deriving DecidableEq, Repr

/-- Whether a text may name a group. -/
def isGroupName : List Char → Bool
  | [] => false
  | c :: rest =>
    (c == '_' || (Text.isAlphanumeric c && !Numeral.isDigit c)) &&
      rest.all fun c => ['_', '.', '[', ']'].contains c || Text.isAlphanumeric c

/-- Reads the name of a group. -/
def groupName? (modes : Modes) (text : List Char) : Option (Opening × List Char) :=
  let name := text.takeWhile (· != '>')
  match text.dropWhile (· != '>') with
  | _ :: rest => if isGroupName name then some (.group modes (some name), rest) else none
  | [] => none

/-- Reads modes, with a colon behind them if they are for a group only. -/
def modeSwitch? (modes : Modes) (text : List Char) : Option (Opening × List Char) :=
  let letters := text.takeWhile fun c => c != ':' && c != ')'
  match text.drop letters.length with
  | [] => none
  | c :: rest =>
    if !Modes.isList letters then none
    else if c == ':' then some (.group (modes.switchAll letters) none, rest)
    else if letters.isEmpty then none
    else some (.modes (modes.switchAll letters), rest)

/-- Reads what a parenthesis opens, behind it. -/
def opening? (modes : Modes) (text : List Char) : Option (Opening × List Char) :=
  match modes.skip text with
  | '?' :: 'P' :: '<' :: rest => groupName? modes rest
  | '?' :: '<' :: rest => groupName? modes rest
  | '?' :: rest => modeSwitch? modes rest
  | rest => some (.group modes none, rest)

/-! ## Patterns -/

/-- A pattern as far as it is read. -/
structure Progress where
  modes : Modes
  /-- The modes around the groups that are open, innermost first. -/
  outer : List Modes
  /-- The names of groups. -/
  names : List (List Char)
  /-- Whether something stands before that can be repeated. -/
  repeatable : Bool
  deriving DecidableEq, Repr

namespace Progress

/-- Takes what a parenthesis opens. -/
def enter (progress : Progress) : Opening → Option Progress
  | .modes modes => some { progress with modes := modes, repeatable := false }
  | .group modes name =>
    if name.any progress.names.contains then none
    else some ⟨modes, progress.modes :: progress.outer, name.toList ++ progress.names, false⟩

/-- Leaves a group. -/
def leave? (progress : Progress) : Option Progress :=
  match progress.outer with
  | [] => none
  | modes :: outer => some ⟨modes, outer, progress.names, true⟩

/-- Takes something that can be repeated, if the modes allow it. -/
def take? (progress : Progress) (allowed : Bool) : Option Progress :=
  if allowed then some { progress with repeatable := true } else none

/-- Takes a character, with what it makes of the text behind it. -/
def step? (progress : Progress) (c : Char) (rest : List Char) : Option (Progress × List Char) :=
  let modes := progress.modes
  if c == '(' then
    (opening? modes rest).bind fun (opening, rest) => (progress.enter opening).map (·, rest)
  else if c == ')' then progress.leave?.map (·, rest)
  else if c == '|' then some ({ progress with repeatable := false }, rest)
  else if c == '[' then (set? modes rest).bind fun rest => (progress.take? true).map (·, rest)
  else if c == '?' || c == '*' || c == '+' then
    (progress.take? progress.repeatable).map (·, if rest.head? == some '?' then rest.drop 1 else rest)
  else if c == '\x7b' then none
  else if c == '\\' then
    (escape? rest).bind fun (escape, rest) => (progress.take? (allows modes escape)).map (·, rest)
  else if c == '.' then (progress.take? modes.unicode).map (·, rest)
  else if c == '^' || c == '$' then (progress.take? true).map (·, rest)
  else (progress.take? (allowsChar modes c false)).map (·, rest)

/-- Whether the rest of a text completes a pattern, in no more than `bound` steps. -/
def completes : (bound : Nat) → Progress → List Char → Bool
  | 0, _, _ => false
  | bound + 1, progress, text =>
    match progress.modes.skip text with
    | [] => progress.outer.isEmpty
    | c :: rest =>
      match progress.step? c rest with
      | none => false
      | some (progress, rest) => completes bound progress rest

end Progress

/-- Whether a text is a pattern. -/
def isPattern (text : List Char) : Bool :=
  Progress.completes (text.length + 1) ⟨.standard, [], [], false⟩ text

end Pattern

end BenchReport
