/-!
# Blank Characters

The characters that separate words: the spaces and line ends of every script
and the four ASCII separators. Zero-width characters and the byte order mark
are not blank.

## Main definitions

* `isBlank`: Whether a character is blank.
* `isAsciiBlank`: The six blanks that a number may have around it in ASCII.
* `trim`, `trimEnd`: A text without the blanks around it, or after it.
-/

namespace Costwise

namespace Text

/-- The space, the tab and the four ASCII characters that end a line or a page. -/
def isAsciiBlank (c : Char) : Bool :=
  c == ' ' || (9 ≤ c.toNat && c.toNat ≤ 13)

/-- A blank of any script. -/
def isBlank (c : Char) : Bool :=
  isAsciiBlank c || (0x1C ≤ c.toNat && c.toNat ≤ 0x1F) || c.toNat == 0x85 || c.toNat == 0xA0 ||
    c.toNat == 0x1680 || (0x2000 ≤ c.toNat && c.toNat ≤ 0x200A) || c.toNat == 0x2028 ||
    c.toNat == 0x2029 || c.toNat == 0x202F || c.toNat == 0x205F || c.toNat == 0x3000

/-- A text without the blanks after it. -/
def trimEnd (cs : List Char) : List Char :=
  (cs.reverse.dropWhile isBlank).reverse

/-- A text without the blanks around it. -/
def trim (cs : List Char) : List Char :=
  trimEnd (cs.dropWhile isBlank)

end Text

end Costwise
