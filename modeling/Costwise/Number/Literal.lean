import Costwise.Number.Binary64
import Costwise.Text.Blank
import Costwise.Text.Digit

/-!
# Number Literals

Reading the text of a number. There are two grammars. A real number is a
decimal with an optional fraction and exponent, or one of the names of the
infinite and undefined values. An integer may be written in base two, eight
or sixteen with a marker, and a decimal one has no zeros in front unless it is
zero. Digits of any script count as digits, and blanks around a number are
ignored.

A literal in source code is read as a real number if it is one; otherwise the
mark of a big integer is taken off and it is read as an integer. An integer
too large for a finite value is an error of its own, `Overflow`, since no
verdict can be formed from it.

## Main definitions

* `Literal.real?`: Reads a real number.
* `Literal.integer?`: Reads an integer in any base.
* `Literal.Overflow`: The one way in which a literal fails.
* `Literal.value`: Reads a literal of source code.
-/

namespace Costwise

namespace Literal

open Text

/-- An integer literal is too large for a finite value. -/
structure Overflow where
  deriving DecidableEq, Repr

/-- What is said about a literal that is too large. -/
def Overflow.message (_ : Overflow) : String :=
  "int too large to convert to float"

/-- The most digits that a decimal integer may have. -/
def decimalDigitLimit : Nat := 4300

/-- A digit of any script as its ASCII digit, a blank beyond ASCII as a space. -/
def toAscii (c : Char) : Char :=
  if c.toNat < 128 then c
  else if isBlank c then ' '
  else
    match digitValue? c with
    | some n => Char.ofNat ('0'.toNat + n)
    | none => c

/-- A text in ASCII digits, without the blanks around it. -/
def prepare (text : List Char) : List Char :=
  let inner := (text.map toAscii).dropWhile isAsciiBlank
  (inner.reverse.dropWhile isAsciiBlank).reverse

/-- Takes a sign off. Gives whether it was a minus, and the rest. -/
def splitSign : List Char → Bool × List Char
  | '-' :: rest => (true, rest)
  | '+' :: rest => (false, rest)
  | text => (false, text)

/-- The value of decimal digits. -/
def decimalValue (digits : List Char) : Nat :=
  digits.foldl (fun value c => 10 * value + (c.toNat - '0'.toNat)) 0

/-- Splits the digits off the front. -/
def splitDigits (text : List Char) : List Char × List Char :=
  (text.takeWhile Char.isDigit, text.dropWhile Char.isDigit)

/-- An exponent that reaches to the end: nothing is zero. -/
def exponent? : List Char → Option Int
  | [] => some 0
  | c :: rest =>
    if c = 'e' ∨ c = 'E' then
      let (negative, digits) := splitSign rest
      if !digits.isEmpty && digits.all Char.isDigit then
        some (if negative then -decimalValue digits else decimalValue digits)
      else none
    else none

/-- The digits after a point, if there is a point. -/
def splitFraction : List Char → List Char × List Char
  | '.' :: rest => splitDigits rest
  | text => ([], text)

/-- A decimal with an optional fraction and exponent. -/
def decimal? (negative : Bool) (text : List Char) : Option Binary64 :=
  let (whole, rest) := splitDigits text
  let (fraction, rest) := splitFraction rest
  if whole.isEmpty && fraction.isEmpty then none
  else (exponent? rest).map fun exponent =>
    .ofDecimal negative (decimalValue (whole ++ fraction)) (exponent - fraction.length)

/-- Reads a real number. -/
def real? (text : List Char) : Option Binary64 :=
  let (negative, body) := splitSign (prepare text)
  let name := String.ofList (body.map Char.toLower)
  if name = "inf" ∨ name = "infinity" then some (.infinite negative)
  else if name = "nan" then some .nan
  else decimal? negative body

/-- The value of a digit in a base up to sixteen. -/
def digitIn? (base : Nat) (c : Char) : Option Nat :=
  let value :=
    if c.isDigit then some (c.toNat - '0'.toNat)
    else if 'a' ≤ c ∧ c ≤ 'f' then some (c.toNat - 'a'.toNat + 10)
    else if 'A' ≤ c ∧ c ≤ 'F' then some (c.toNat - 'A'.toNat + 10)
    else none
  value.filter (· < base)

/-- The value of one or more digits in a base. -/
def digitsIn? (base : Nat) (digits : List Char) : Option Nat :=
  if digits.isEmpty then none
  else digits.foldlM (fun value c => (digitIn? base c).map (base * value + ·)) 0

/-- An integer without a marker: zero, or no zero in front, and not too long. -/
def plainDecimal? (digits : List Char) : Option Nat :=
  (digitsIn? 10 digits).filter fun value =>
    digits.length ≤ decimalDigitLimit && (value == 0 || digits.head? != some '0')

/-- An integer without its sign. -/
def magnitude? : List Char → Option Nat
  | '0' :: marker :: digits =>
    if marker = 'x' ∨ marker = 'X' then digitsIn? 16 digits
    else if marker = 'o' ∨ marker = 'O' then digitsIn? 8 digits
    else if marker = 'b' ∨ marker = 'B' then digitsIn? 2 digits
    else plainDecimal? ('0' :: marker :: digits)
  | digits => plainDecimal? digits

/-- Reads an integer in any base. -/
def integer? (text : List Char) : Option Int :=
  let (negative, body) := splitSign (prepare text)
  (magnitude? body).map fun value => if negative then -value else value

/-- A text without the marks of a big integer after it. -/
def dropBigMark (text : List Char) : List Char :=
  (text.reverse.dropWhile (· == 'n')).reverse

/-- Reads a literal of source code, in which underscores only group digits. A
    text that is no number has no value; a large integer is an error. -/
def value (text : List Char) : Except Overflow (Option Binary64) :=
  let digits := text.filter (· != '_')
  match real? digits with
  | some real => .ok (some real)
  | none =>
    match integer? (dropBigMark digits) with
    | none => .ok none
    | some n =>
      match Binary64.ofInt? n with
      | some real => .ok (some real)
      | none => .error {}

end Literal

end Costwise
