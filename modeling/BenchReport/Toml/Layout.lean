/-!
# The layout of TOML documents

What stands between the parts of a document, and the form of the functions that read its parts: a
reader takes the text that is left and returns what it read together with the text behind it.

`readable` prepares a text: line ends become line feeds, and characters that no document may hold
anywhere make it no document.  Afterwards a line feed is the only control character but the tab.
-/

namespace BenchReport

namespace Toml

/-- Reads a part of a document off the front of a text. -/
abbrev Reader (α : Type) : Type := List Char → Option (α × List Char)

/-- Whether a document may hold the character. -/
def isReadable (c : Char) : Bool := c == '\n' || c == '\t' || (0x20 ≤ c.toNat && c.toNat != 0x7f)

/-- The text with line feeds as line ends, if it holds no other control characters. -/
def readable : List Char → Option (List Char)
  | [] => some []
  | '\r' :: '\n' :: rest => (readable rest).map ('\n' :: ·)
  | c :: rest => if isReadable c then (readable rest).map (c :: ·) else none

/-- Whether a character may stand between the parts of a line. -/
def isGap (c : Char) : Bool := c == ' ' || c == '\t'

/-- The text behind the gap at its front. -/
def skipGap (text : List Char) : List Char := text.dropWhile isGap

/-- The text behind the rest of a line. -/
def skipComment (text : List Char) : List Char := text.dropWhile (· != '\n')

/-- The text behind gaps, line ends and comments. -/
def skipLayout : (inComment : Bool) → List Char → List Char
  | _, [] => []
  | true, c :: rest => skipLayout (c != '\n') rest
  | false, c :: rest =>
    if c == '#' then skipLayout true rest
    else if isGap c || c == '\n' then skipLayout false rest
    else c :: rest

/-- The text behind the end of a line, before which a comment may stand. -/
def skipLineEnd (text : List Char) : Option (List Char) :=
  let rest := skipGap text
  match if rest.head? == some '#' then skipComment rest else rest with
  | [] => some []
  | '\n' :: rest => some rest
  | _ => none

/-- Reads one item or more with a mark between them, and gaps around the marks.  Every item is taken to
use up some text, so that there are no more than `bound` of them. -/
def separatedWithin {α : Type} (item : Reader α) (mark : Char) : (bound : Nat) → Reader (List α)
  | 0, _ => none
  | bound + 1, text =>
    (item (skipGap text)).bind fun (first, rest) =>
      match skipGap rest with
      | c :: more =>
        if c == mark then
          (separatedWithin item mark bound more).map fun (others, rest) => (first :: others, rest)
        else some ([first], c :: more)
      | [] => some ([first], [])

/-- Reads one item or more with a mark between them, and gaps around the marks. -/
def separated {α : Type} (item : Reader α) (mark : Char) : Reader (List α) := fun text =>
  separatedWithin item mark (text.length + 1) text

end Toml

end BenchReport
