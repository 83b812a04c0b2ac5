import BenchReport.Number.Numeral
import BenchReport.Toml.Layout
/-!
# Quoted text in TOML

The four kinds of quoted text: between single or double quotes, on one line (`literal`, `basic`) or,
between three of them, on several (`literalLines`, `basicLines`).  Each reader starts behind the
opening quotes and returns the text up to the closing ones.

Between double quotes a backslash starts an escape; on several lines a backslash at the end of a line
drops the line end and the white space behind it.  Three quotes close a text on several lines, and up
to two more before them belong to it.
-/

namespace BenchReport

namespace Toml

/-- Adds a character to what is read from a text. -/
def withChar (c : Char) (read : Option (List Char × List Char)) : Option (List Char × List Char) :=
  read.map fun (text, rest) => (c :: text, rest)

/-- Adds characters to what is read from a text. -/
def withChars (cs : List Char) (read : Option (List Char × List Char)) :
    Option (List Char × List Char) :=
  read.map fun (text, rest) => (cs ++ text, rest)

/-! ## Escapes -/

/-- Where a reader of escapes stands. -/
inductive Escape where
  /-- Outside of an escape. -/
  | none
  /-- Behind a backslash. -/
  | begun
  /-- In a code point of which some digits are left, with the value of those before. -/
  | code (left value : Nat)
  /-- Behind a backslash at the end of a line, before the line end or behind it. -/
  | fold (ended : Bool)
  deriving DecidableEq, Repr

/-- The character that an escape of one character stands for. -/
def shortEscape? (c : Char) : Option Char :=
  if c == 'b' then some '\x08'
  else if c == 't' then some '\t'
  else if c == 'n' then some '\n'
  else if c == 'f' then some '\x0c'
  else if c == 'r' then some '\r'
  else if c == 'e' then some '\x1b'
  else if c == '\"' || c == '\\' then some c
  else Option.none

/-- The character behind a backslash, where it starts a longer escape, or what it stands for. -/
def escapeOf (c : Char) : Option (Escape ⊕ Char) :=
  if c == 'x' then some (.inl (.code 2 0))
  else if c == 'u' then some (.inl (.code 4 0))
  else if c == 'U' then some (.inl (.code 8 0))
  else (shortEscape? c).map .inr

/-- The character of a code point, if it is one. -/
def scalar? (value : Nat) : Option Char :=
  if value.isValidChar then some (Char.ofNat value) else none

/-- One more digit of a code point: the digits left, or the character. -/
def codeDigit (left value : Nat) (c : Char) : Option (Escape ⊕ Char) :=
  (Numeral.digit? 16 c).bind fun digit =>
    let value := value * 16 + digit
    if left ≤ 1 then (scalar? value).map .inr else some (.inl (.code (left - 1) value))

/-! ## On one line -/

/-- Reads up to a single quote. -/
def literal : Reader (List Char)
  | [] => none
  | c :: rest =>
    if c == '\'' then some ([], rest)
    else if c == '\n' then none
    else withChar c (literal rest)

/-- Reads up to a double quote, from within an escape or from outside. -/
def basicFrom : Escape → Reader (List Char)
  | _, [] => none
  | .none, c :: rest =>
    if c == '\"' then some ([], rest)
    else if c == '\n' then none
    else if c == '\\' then basicFrom .begun rest
    else withChar c (basicFrom .none rest)
  | .begun, c :: rest =>
    match escapeOf c with
    | none => none
    | some (.inl escape) => basicFrom escape rest
    | some (.inr meant) => withChar meant (basicFrom .none rest)
  | .code left value, c :: rest =>
    match codeDigit left value c with
    | none => none
    | some (.inl escape) => basicFrom escape rest
    | some (.inr meant) => withChar meant (basicFrom .none rest)
  | .fold _, _ => none

/-- Reads up to a double quote. -/
def basic : Reader (List Char) := basicFrom .none

/-! ## On several lines -/

/-- The text without a line end at its front. -/
def withoutFirstLineEnd : List Char → List Char
  | '\n' :: rest => rest
  | text => text

/-- Reads up to three quotes, behind `seen` of them. -/
def literalLinesFrom : (seen : Nat) → Reader (List Char)
  | seen, [] => if 3 ≤ seen then some (List.replicate (seen - 3) '\'', []) else none
  | seen, c :: rest =>
    if c == '\'' then
      if seen = 4 then some (List.replicate 2 '\'', rest) else literalLinesFrom (seen + 1) rest
    else if 3 ≤ seen then some (List.replicate (seen - 3) '\'', c :: rest)
    else withChars (List.replicate seen '\'' ++ [c]) (literalLinesFrom 0 rest)

/-- Reads up to three single quotes. -/
def literalLines : Reader (List Char) := fun text => literalLinesFrom 0 (withoutFirstLineEnd text)

/-- Reads up to three double quotes, behind `seen` of them or in an escape. -/
def basicLinesFrom : Escape → (seen : Nat) → Reader (List Char)
  | _, seen, [] => if 3 ≤ seen then some (List.replicate (seen - 3) '\"', []) else none
  | .none, seen, c :: rest =>
    if c == '\"' then
      if seen = 4 then some (List.replicate 2 '\"', rest) else basicLinesFrom .none (seen + 1) rest
    else if 3 ≤ seen then some (List.replicate (seen - 3) '\"', c :: rest)
    else if c == '\\' then withChars (List.replicate seen '\"') (basicLinesFrom .begun 0 rest)
    else withChars (List.replicate seen '\"' ++ [c]) (basicLinesFrom .none 0 rest)
  | .begun, _, c :: rest =>
    if c == '\n' then basicLinesFrom (.fold true) 0 rest
    else if isGap c then basicLinesFrom (.fold false) 0 rest
    else
      match escapeOf c with
      | none => none
      | some (.inl escape) => basicLinesFrom escape 0 rest
      | some (.inr meant) => withChar meant (basicLinesFrom .none 0 rest)
  | .code left value, _, c :: rest =>
    match codeDigit left value c with
    | none => none
    | some (.inl escape) => basicLinesFrom escape 0 rest
    | some (.inr meant) => withChar meant (basicLinesFrom .none 0 rest)
  | .fold false, _, c :: rest =>
    if c == '\n' then basicLinesFrom (.fold true) 0 rest
    else if isGap c then basicLinesFrom (.fold false) 0 rest
    else none
  | .fold true, _, c :: rest =>
    if c == '\n' || isGap c then basicLinesFrom (.fold true) 0 rest
    else if c == '\"' then basicLinesFrom .none 1 rest
    else if c == '\\' then basicLinesFrom .begun 0 rest
    else withChar c (basicLinesFrom .none 0 rest)

/-- Reads up to three double quotes. -/
def basicLines : Reader (List Char) := fun text => basicLinesFrom .none 0 (withoutFirstLineEnd text)

end Toml

end BenchReport
