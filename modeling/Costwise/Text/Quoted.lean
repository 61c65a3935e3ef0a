import Costwise.Text.Printable

/-!
# Quoted Text

How a text looks inside a message: in single quotes, or in double quotes if it
holds single ones and no double ones. The quote in use and the backslash are
escaped, and so is every character that cannot be seen.

## Main definitions

* `quote`: A text in quotes.
-/

namespace Costwise

namespace Text

/-- A number in hexadecimal, with at least so many digits. -/
def hexPadded (count n : Nat) : List Char :=
  let digits := Nat.toDigits 16 n
  List.replicate (count - digits.length) '0' ++ digits

/-- A character that cannot be seen, by number. -/
def numericEscape (c : Char) : List Char :=
  if c.toNat < 0x100 then '\\' :: 'x' :: hexPadded 2 c.toNat
  else if c.toNat < 0x10000 then '\\' :: 'u' :: hexPadded 4 c.toNat
  else '\\' :: 'U' :: hexPadded 8 c.toNat

/-- A character inside quotes of a kind. -/
def escapedIn (mark c : Char) : List Char :=
  if c = mark ∨ c = '\\' then ['\\', c]
  else if c = '\n' then ['\\', 'n']
  else if c = '\r' then ['\\', 'r']
  else if c = '\t' then ['\\', 't']
  else if isPrintable c then [c]
  else numericEscape c

/-- The quotes that need the fewest escapes, single ones if it makes no difference. -/
def quoteMark (text : List Char) : Char :=
  if text.contains '\'' && !text.contains '"' then '"' else '\''

/-- A text in quotes. -/
def quote (text : String) : String :=
  let mark := quoteMark text.toList
  String.ofList (mark :: text.toList.flatMap (escapedIn mark) ++ [mark])

end Text

end Costwise
