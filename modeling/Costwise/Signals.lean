import Costwise.Text.Blank
import Costwise.Text.Digit
import Costwise.Text.Pattern
import Costwise.Text.Word

/-!
# Signals in the Text of a Body

Some idioms look the same in the syntax tree and differ in the wording:
halving for a search and halving for a split are the same division, but a
search compares, returns and moves a bound. So the body of a function is also
looked at as text, for ten signals that back up what the tree shows.

Operators are told apart by their neighbours, since no tokens are formed. A
comparison is not part of a shift or an arrow, an assignment is not part of a
comparison. Where an operator has a longer form that ends in a shorter one,
the shorter one is the pattern: a match is looked for at every place, so the
longer form is found as well.

## Main definitions

* `Signals`: What the text of a body shows.
* `Signals.ofText`: Looks for all of them.
-/

namespace Costwise

/-- What the text of a function body shows. -/
structure Signals where
  /-- The word for returning a value occurs. -/
  returns : Bool := false
  /-- Two values are compared for order or for equality. -/
  compares : Bool := false
  /-- Two values are compared for order. -/
  relates : Bool := false
  /-- A value is assigned. -/
  assigns : Bool := false
  /-- Something is halved, by division or by a shift. -/
  halves : Bool := false
  /-- Something is halved and rounded. -/
  halvesRounded : Bool := false
  /-- The middle between two bounds is computed. -/
  takesMidpoint : Bool := false
  /-- A result is built up from pieces. -/
  accumulates : Bool := false
  /-- A method that walks or cuts an array is called. -/
  transforms : Bool := false
  /-- A variable is named like a bound of a search. -/
  namesBounds : Bool := false
  deriving DecidableEq, Repr

namespace Signals

open Text

/-- Methods that visit every element of an array. -/
def walkingMethods : List String :=
  ["filter", "map", "reduce", "forEach", "find", "some", "every", "flatMap"]

/-- Methods that cut an array or join two. -/
def cuttingMethods : List String :=
  ["slice", "concat", "splice"]

/-- Methods that walk or cut an array. -/
def arrayMethods : List String :=
  walkingMethods ++ cuttingMethods

/-- Blanks between two tokens. -/
def gap : Pattern :=
  .many isBlank

/-- One of several words as a part of a pattern. -/
def anyWord (words : List String) : Pattern :=
  .choice (words.map .literal)

/-- One of several words, not as a part of a longer one. -/
def wholeWord (words : List String) : Pattern :=
  .sequence [.boundary isWordChar, anyWord words, .boundary isWordChar]

/-- The word that returns a value. -/
def returning : Pattern :=
  wholeWord ["return"]

/-- `<`, `>`, `<=` or `>=`, and no shift or arrow. -/
def ordering : Pattern :=
  .alt
    (.sequence [.notAfter "<>".toList.contains, .among "<>", .char '='])
    (.sequence [.notAfter "<=>".toList.contains, .among "<>", .notBefore "<>=".toList.contains])

/-- `==` or `!=`, with which the strict forms begin. -/
def equating : Pattern :=
  .sequence [.among "=!", .char '=']

/-- `=` alone, or an arithmetic operator or a shift with `=`. -/
def assigning : Pattern :=
  .alt
    (.sequence
      [.notAfter "=!<>+-*/%&|^".toList.contains, .char '=', .notBefore "=>".toList.contains])
    (.sequence [.choice [.among "+-*/%&|^", .literal "<<", .literal ">>"], .char '=',
      .notBefore (· == '=')])

/-- A divisor of two, where the number ends. -/
def two : Pattern :=
  .sequence [.char '2', .notBefore fun c => isDigit c || c == '.']

/-- A shift by one, where the number ends. -/
def shiftedOnce : Pattern :=
  .sequence [gap, .char '1', .notBefore isDigit]

/-- Division by two or a shift to the right by one. -/
def halving : Pattern :=
  .alt
    (.sequence [.char '/', .optional (.char '='), gap, two])
    (.sequence [.literal ">>", .optional (.char '='), shiftedOnce])

/-- A call that rounds its argument. -/
def rounding : Pattern :=
  .sequence [.literal "Math.", anyWord ["floor", "ceil", "round", "trunc"], gap, .char '(']

/-- A rounded value with a division by two in the same statement, or a shift to
    the right by one. -/
def roundedHalving : Pattern :=
  .alt
    (.sequence [rounding, .many (· != ';'), .char '/', gap, two])
    (.sequence [.literal ">>", shiftedOnce])

/-- A variable or a chain of properties. -/
def operand : Pattern :=
  .oneOrMore fun c => isWordChar c || c == '$' || c == '.'

/-- The sum or difference of two operands in parentheses. -/
def combined : Pattern :=
  .sequence [.char '(', gap, operand, gap, .among "+-", gap, operand, gap, .char ')', gap]

/-- Half a sum or difference, rounded or shifted. -/
def midpoint : Pattern :=
  .alt
    (.sequence [rounding, gap, combined, .char '/', gap, .char '2', gap, .char ')'])
    (.sequence [combined, .literal ">>", .optional (.char '>'), shiftedOnce])

/-- A call of one of the methods. -/
def methodCall (methods : List String) : Pattern :=
  .sequence [.char '.', anyWord methods, gap, .char '(']

/-- A call that builds up an array, or a spread. -/
def accumulating : Pattern :=
  .alt (methodCall ["concat", "push", "splice", "slice"]) (.literal "...")

/-- A call of a method that walks or cuts an array. -/
def transforming : Pattern :=
  methodCall arrayMethods

/-- A name that bounds of a search often have. -/
def boundName : Pattern :=
  wholeWord ["mid", "middle", "left", "right"]

/-- Looks for all signals in the text of a body. -/
def ofText (text : List Char) : Signals where
  returns := returning.occursIn text
  compares := ordering.occursIn text || equating.occursIn text
  relates := ordering.occursIn text
  assigns := assigning.occursIn text
  halves := halving.occursIn text
  halvesRounded := roundedHalving.occursIn text
  takesMidpoint := midpoint.occursIn text
  accumulates := accumulating.occursIn text
  transforms := transforming.occursIn text
  namesBounds := boundName.occursIn text

end Signals

end Costwise
