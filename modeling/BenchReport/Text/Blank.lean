/-!
# White space

The characters that Unicode counts as white space (`isBlank`), and the two things that readers of
logs and samples do with classes of characters: `trimBy` takes the items of a class off the ends of a
list, and `words` splits a text at its white space.  What `trimBy` leaves neither starts nor ends in
the class, and it changes nothing in a list that already is so.

The class of core's `Char.isWhitespace` holds four of these characters only.
-/

namespace BenchReport

namespace Text

/-- Whether a character has the Unicode property of being white space. -/
def isBlank (c : Char) : Bool :=
  let n := c.toNat
  (9 ≤ n && n ≤ 13) || n == 0x20 || n == 0x85 || n == 0xA0 || n == 0x1680 ||
    (0x2000 ≤ n && n ≤ 0x200A) || n == 0x2028 || n == 0x2029 || n == 0x202F || n == 0x205F ||
    n == 0x3000

/-! ## Taking items off the ends -/

/-- The items that remain when those with the property are taken off both ends. -/
def trimBy {α : Type} (drops : α → Bool) (items : List α) : List α :=
  ((items.dropWhile drops).reverse.dropWhile drops).reverse

/-- Whether a text holds nothing but white space. -/
def isBlankText (text : String) : Bool := text.toList.all isBlank

/-! ## Words -/

/-- The longest pieces of a text that hold no white space, in order. -/
def words (text : List Char) : List (List Char) :=
  (text.splitOnP isBlank).filter (fun word => !word.isEmpty)

end Text

end BenchReport
