/-!
# UTF-8

Text as bytes, and bytes as text.  `encode` writes each character in its UTF-8 form.  `decode` reads
characters one by one; it fails at the first place where no character's form stands, and names the
number of bytes before that place.

A character is recognised by writing it again: `front` works out which character the leading byte
and the bytes after it could stand for, and accepts it only if its own form is what stands there.
Overlong forms, surrogates, numbers above the last code point and forms that break off are all
refused by this one test.
-/

namespace BenchReport

namespace Utf8

/-- The bytes of a text. -/
def encode (text : List Char) : List UInt8 := text.flatMap String.utf8EncodeChar

/-- The number of bytes of a text. -/
def size (text : List Char) : Nat := (encode text).length

/-- The text behind its first `count` bytes. -/
def drop : (count : Nat) → List Char → List Char
  | 0, text => text
  | _ + 1, [] => []
  | count + 1, c :: rest => drop (count + 1 - c.utf8Size) rest

/-- The first `count` bytes of a text, and the rest of a character that they end in. -/
def take : (count : Nat) → List Char → List Char
  | 0, _ => []
  | _ + 1, [] => []
  | count + 1, c :: rest => c :: take (count + 1 - c.utf8Size) rest

/-- The low six bits of a byte. -/
def tailBits (byte : UInt8) : Nat := byte.toNat % 64

/-- The code point that the first bytes stand for, if they stand for one. -/
def codePoint : List UInt8 → Nat
  | [] => 0
  | lead :: rest =>
    let n := lead.toNat
    if n < 0x80 then n
    else
      match rest with
      | [] => 0
      | second :: rest =>
        if n < 0xE0 then n % 32 * 64 + tailBits second
        else
          match rest with
          | [] => 0
          | third :: rest =>
            if n < 0xF0 then (n % 16 * 64 + tailBits second) * 64 + tailBits third
            else
              match rest with
              | [] => 0
              | fourth :: _ =>
                ((n % 8 * 64 + tailBits second) * 64 + tailBits third) * 64 + tailBits fourth

/-- The character whose form stands at the front, with the length of that form. -/
def front (bytes : List UInt8) : Option (Char × Nat) :=
  let c := Char.ofNat (codePoint bytes)
  let form := String.utf8EncodeChar c
  if form.isPrefixOf bytes then some (c, form.length) else none

/-- Reads the bytes after the first `skip` ones, given the characters read so far, last one first,
and the number of bytes before. -/
def decodeFrom (read : List Char) : (skip offset : Nat) → List UInt8 → Except Nat (List Char)
  | _, _, [] => .ok read.reverse
  | skip + 1, offset, _ :: rest => decodeFrom read skip (offset + 1) rest
  | 0, offset, byte :: rest =>
    match front (byte :: rest) with
    | none => .error offset
    | some (c, length) => decodeFrom (c :: read) (length - 1) (offset + 1) rest

/-- The characters that the bytes stand for, or the number of bytes before the first fault. -/
def decode (bytes : List UInt8) : Except Nat (List Char) := decodeFrom [] 0 0 bytes

/-- The text that the bytes stand for, if they are text. -/
def text? (bytes : List UInt8) : Option String :=
  match decode bytes with
  | .ok text => some (String.ofList text)
  | .error _ => none

/-- The bytes of a string. -/
def ofString (text : String) : List UInt8 := encode text.toList

end Utf8

end BenchReport
