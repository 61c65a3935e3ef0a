/-!
# Binary Floating-Point Values

Number literals are read as double-precision values: the nearest one, an even
last bit deciding ties. A value is kept as what it stands for, a sign and an
integer times a power of two, so that it can be compared, printed and reasoned
about in exact arithmetic. The one inexact operation is `ofRatio`, which
rounds a quotient; everything that reads a number goes through it.

## Main definitions

* `divideToEven`: A quotient rounded to the nearest integer.
* `Binary64`: A double-precision value.
* `Binary64.ofRatio`: The value nearest to a quotient.
* `Binary64.ofInt?`: The value nearest to an integer, if it is in range.
* `Binary64.ofDecimal`: The value nearest to a decimal.
* `Binary64.equals`: Equality with an integer.
-/

namespace Costwise

/-- A quotient rounded to the nearest integer, a half to the even neighbour. -/
def divideToEven (numerator denominator : Nat) : Nat :=
  let quotient := numerator / denominator
  let twice := 2 * (numerator % denominator)
  if twice < denominator then quotient
  else if denominator < twice then quotient + 1
  else quotient + quotient % 2

/-- A double-precision value. A finite one is `significand * 2 ^ exponent` with
    its sign; the significand has 53 bits, fewer only at the least exponent. -/
inductive Binary64 where
  /-- No number. -/
  | nan
  /-- Beyond the greatest finite value. -/
  | infinite (negative : Bool)
  /-- A finite value, zero included. -/
  | finite (negative : Bool) (significand : Nat) (exponent : Int)
  deriving DecidableEq, Repr, Inhabited

namespace Binary64

/-- The bits of a significand. -/
def precision : Nat := 53

/-- The exponent of the least value. -/
def leastExponent : Int := -1074

/-- The exponent of the greatest finite value. -/
def greatestExponent : Int := 971

/-- A natural number times a power of two, as a quotient. -/
def scale (n : Nat) (exponent : Int) : Nat × Nat :=
  match exponent with
  | .ofNat e => (n * Nat.pow 2 e, 1)
  | .negSucc e => (n, Nat.pow 2 (e + 1))

/-- The exponent that leaves a quotient with as many bits as a significand has.
    The lengths of the two numbers fix it up to one. -/
def fittingExponent (numerator denominator : Nat) : Int :=
  let guess : Int := numerator.log2 - denominator.log2 - (precision - 1 : Nat)
  let (n, d) := scale numerator (-guess)
  let fitted := if n < d * denominator * Nat.pow 2 (precision - 1) then guess - 1 else guess
  max fitted leastExponent

/-- The value nearest to a quotient, an even significand deciding ties. Beyond
    the greatest finite value the result is infinite. -/
def ofRatio (negative : Bool) (numerator denominator : Nat) : Binary64 :=
  if numerator = 0 ∨ denominator = 0 then finite negative 0 leastExponent
  else
    let exponent := fittingExponent numerator denominator
    let (n, d) := scale numerator (-exponent)
    let significand := divideToEven n (d * denominator)
    -- Rounding up may have carried into one more bit.
    let (significand, exponent) :=
      if significand = Nat.pow 2 precision then (Nat.pow 2 (precision - 1), exponent + 1)
      else (significand, exponent)
    if greatestExponent < exponent then infinite negative
    else finite negative significand exponent

/-- The value nearest to an integer, or nothing if that is not finite. -/
def ofInt? (n : Int) : Option Binary64 :=
  match ofRatio (decide (n < 0)) n.natAbs 1 with
  | finite negative significand exponent => some (finite negative significand exponent)
  | _ => none

/-- The number of decimal digits of a positive number, one for zero. -/
def decimalLength (n : Nat) : Nat :=
  (Nat.toDigits 10 n).length

/-- The value nearest to `digits * 10 ^ exponent`. Far out of range the power is
    not computed: there the result is infinite or zero whatever the digits. -/
def ofDecimal (negative : Bool) (digits : Nat) (exponent : Int) : Binary64 :=
  let magnitude := decimalLength digits + exponent
  if digits = 0 ∨ magnitude < -400 then finite negative 0 leastExponent
  else if 400 < magnitude then infinite negative
  else
    match exponent with
    | .ofNat e => ofRatio negative (digits * Nat.pow 10 e) 1
    | .negSucc e => ofRatio negative digits (Nat.pow 10 (e + 1))

/-- Whether a value is exactly an integer. -/
def equals (value : Binary64) (n : Int) : Bool :=
  match value with
  | finite negative significand exponent =>
    let (numerator, denominator) := scale significand exponent
    numerator == n.natAbs * denominator && (n == 0 || negative == decide (n < 0))
  | _ => false

end Binary64

end Costwise
