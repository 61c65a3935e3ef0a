import Costwise.Number.Binary64

/-!
# Decimal Text of a Value

Values are printed in two ways. In a listing a value has the fewest digits that
read back as the same value, and of those the nearest; durations have three
places. Both are exact: candidates are points of a decimal grid, compared in
integer arithmetic.

The search for the fewest digits takes one, two, up to seventeen digits and
looks at the two neighbours of the value on each grid. If any point of a grid
reads back as the value, one of these two does, since the values that read
back form an interval around it.

## Main definitions

* `Decimal`: A digit string with the place of its point.
* `Decimal.shortest`: The fewest digits that read back.
* `Decimal.Layout`: Where positional notation ends.
* `Binary64.shortestText`: A value in a listing.
* `Binary64.fixedText`: A value with a number of places.
-/

namespace Costwise

/-- A positive decimal: its digits as a number, and the power of ten they count. -/
structure Decimal where
  /-- The digits. -/
  digits : Nat
  /-- The power of ten that the last digit counts. -/
  exponent : Int
  deriving DecidableEq, Repr

namespace Decimal

/-- A quotient in units of a power of ten, as a quotient. -/
def inUnits (numerator denominator : Nat) (exponent : Int) : Nat × Nat :=
  match exponent with
  | .ofNat e => (numerator, denominator * Nat.pow 10 e)
  | .negSucc e => (numerator * Nat.pow 10 (e + 1), denominator)

/-- The power of ten just above a quotient. The lengths of the two numbers fix it
    up to one. -/
def magnitude (numerator denominator : Nat) : Int :=
  let guess : Int := Binary64.decimalLength numerator - Binary64.decimalLength denominator
  let (n, d) := inUnits numerator denominator guess
  if n < d then guess else guess + 1

/-- Of two neighbours on a grid the nearer to `n / d`, an even one deciding ties. -/
def nearer (n d low high : Nat) : Nat :=
  let fromLow := n - low * d
  let toHigh := high * d - n
  if fromLow < toHigh then low
  else if toHigh < fromLow then high
  else if low % 2 = 0 then low else high

/-- The point of a grid that reads back as the value, if there is one. -/
def onGrid? (value : Binary64) (numerator denominator : Nat) (exponent : Int) : Option Nat :=
  let (n, d) := inUnits numerator denominator exponent
  let low := n / d
  let high := low + 1
  let back (digits : Nat) := decide (Binary64.ofDecimal false digits exponent = value)
  match back low, back high with
  | true, true => some (nearer n d low high)
  | true, false => some low
  | false, true => some high
  | false, false => none

/-- Drops zeros at the end of the digits. -/
def normalize (decimal : Decimal) : Nat → Decimal
  | 0 => decimal
  | places + 1 =>
    if decimal.digits ≠ 0 ∧ decimal.digits % 10 = 0 then
      normalize ⟨decimal.digits / 10, decimal.exponent + 1⟩ places
    else decimal

/-- The fewest digits that read back as a positive finite value. Seventeen are
    always enough. -/
def shortest (significand : Nat) (exponent : Int) : Decimal :=
  let (numerator, denominator) := Binary64.scale significand exponent
  let top := magnitude numerator denominator
  let value := Binary64.finite false significand exponent
  let found := (List.range 17).findSome? fun count =>
    let place := top - (count + 1 : Nat)
    (onGrid? value numerator denominator place).map fun digits => Decimal.mk digits place
  (found.getD ⟨0, 0⟩).normalize 17

/-- Where a number is written positionally, and how its exponent looks. -/
structure Layout where
  /-- The least power of ten of a first digit that is written positionally. -/
  least : Int
  /-- The first power of ten that is not. -/
  limit : Int
  /-- The least number of digits of an exponent. -/
  exponentDigits : Nat

/-- Values in a listing: positional from `0.0001` up to `10 ^ 16`, with two digits
    of exponent elsewhere. -/
def Layout.listing : Layout := ⟨-4, 16, 2⟩

/-- Pads a text on the left. -/
def padLeft (count : Nat) (fill : Char) (cs : List Char) : List Char :=
  List.replicate (count - cs.length) fill ++ cs

/-- Writes a decimal. A point always separates at least one digit on each side,
    unless there is an exponent. -/
def text (layout : Layout) (decimal : Decimal) : List Char :=
  let digits := Nat.toDigits 10 decimal.digits
  -- The power of ten just above the number.
  let top : Int := digits.length + decimal.exponent
  if layout.least ≤ top - 1 ∧ top - 1 < layout.limit then
    if top ≤ 0 then '0' :: '.' :: (List.replicate (-top).toNat '0' ++ digits)
    else if digits.length ≤ top then
      digits ++ List.replicate (top.toNat - digits.length) '0' ++ ['.', '0']
    else digits.take top.toNat ++ '.' :: digits.drop top.toNat
  else
    let mantissa := match digits with
      | [] => []
      | [d] => [d]
      | d :: rest => d :: '.' :: rest
    let sign := if top - 1 < 0 then '-' else '+'
    mantissa ++ 'e' :: sign ::
      padLeft layout.exponentDigits '0' (Nat.toDigits 10 (top - 1).natAbs)

end Decimal

namespace Binary64

/-- A minus sign for a negative value. -/
def signText (negative : Bool) : List Char :=
  if negative then ['-'] else []

/-- A value with the fewest digits that read back. -/
def shortestText : Binary64 → String
  | nan => "nan"
  | infinite negative => String.ofList (signText negative ++ "inf".toList)
  | finite negative 0 _ => String.ofList (signText negative ++ "0.0".toList)
  | finite negative significand exponent =>
    String.ofList (signText negative ++
      (Decimal.shortest significand exponent).text Decimal.Layout.listing)

/-- A value with a number of places, a half going to the even neighbour. -/
def fixedText (places : Nat) : Binary64 → String
  | nan => "nan"
  | infinite negative => String.ofList (signText negative ++ "inf".toList)
  | finite negative significand exponent =>
    let (numerator, denominator) := scale significand exponent
    let units := divideToEven (numerator * Nat.pow 10 places) denominator
    let digits := Decimal.padLeft (places + 1) '0' (Nat.toDigits 10 units)
    let whole := digits.length - places
    String.ofList (signText negative ++ digits.take whole ++ '.' :: digits.drop whole)

end Binary64

end Costwise
