/-!
# Ranges of Code Points

Classes of characters that a standard lists as ranges. A class is a list of
ranges and membership is a look through the list, so a table is plain data
and every question about it can be evaluated.

## Main definitions

* `Range`: A closed range of code points.
* `Range.covers`: Whether a class holds a character.
-/

namespace Costwise

namespace Text

/-- A closed range of code points: the first and the last. -/
abbrev Range := Nat × Nat

namespace Range

/-- Whether some range of a class holds the character. -/
def covers (ranges : List Range) (c : Char) : Bool :=
  ranges.any fun range => range.1 ≤ c.toNat && c.toNat ≤ range.2

end Range

end Text

end Costwise
