import BenchReport.Text.Unshown
/-!
# Quoted text

How a message shows a value: between double quotes, with the characters that would be misread
replaced by escapes.  The two quoting characters themselves and the common controls have escapes of two
characters; every other character that `isUnshown` is written by its code point, in lower case
hexadecimal digits between braces.
-/

namespace BenchReport

namespace Text

/-- The hexadecimal digits of a number, without leading zeros. -/
def hexDigits (n : Nat) : List Char := Nat.toDigits 16 n

/-- What stands for a character between the quotes. -/
def escape (c : Char) : List Char :=
  if c == '\t' then ['\\', 't']
  else if c == '\r' then ['\\', 'r']
  else if c == '\n' then ['\\', 'n']
  else if c == '\\' then ['\\', '\\']
  else if c == '\"' then ['\\', '\"']
  else if c.toNat == 0 then ['\\', '0']
  else if isUnshown c then ['\\', 'u', '\x7b'] ++ hexDigits c.toNat ++ ['\x7d']
  else [c]

/-- The text between double quotes. -/
def quoted (text : String) : String :=
  String.ofList (['\"'] ++ text.toList.flatMap escape ++ ['\"'])

end Text

end BenchReport
