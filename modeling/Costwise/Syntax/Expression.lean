import Costwise.Number.Literal
import Costwise.Syntax.Source

/-!
# Reading Expressions

What the analysis asks of a single expression: the value of a number, whether
an operand is moved by one, what a call calls. Parentheses and comments never
matter, so each question looks through them.

A private property is named with a mark in front; the mark is not part of the
name that a call is counted under.

## Main definitions

* `Source.number`: The value of a number.
* `Source.isOffsetByOne`: Whether one is added or subtracted.
* `Source.property?`: The property that a member expression names.
* `Source.calleeName?`: The name that a call is counted under.
* `Source.isSelfCall`: Whether a call calls the function of a name.
* `Source.isRoundingCall`: Whether a call rounds a number.
-/

namespace Costwise

namespace Syntax

namespace Source

/-- The value of a number, with or without parentheses. Other expressions have none. -/
def number (source : Source) (node : Node) : Except Literal.Overflow (Option Binary64) :=
  if node.unwrap.kind = .number then Literal.value (source.chars node.unwrap) else .ok none

/-- The value of an operand that may not be there. -/
def number? (source : Source) : Option Node → Except Literal.Overflow (Option Binary64)
  | some node => source.number node
  | none => .ok none

/-- Whether one is added to something or subtracted from it. -/
def isOffsetByOne (source : Source) (node : Node) : Except Literal.Overflow Bool :=
  let sum := node.unwrap
  if sum.kind = .binary ∧ (sum.operator = "+" ∨ sum.operator = "-") then
    (source.number? (sum.child? .right)).map fun value => value.any (·.equals 1)
  else .ok false

/-- Whether some operand is offset by one. The first that is decides, and later
    ones are not looked at. -/
def anyOffsetByOne (source : Source) : List Node → Except Literal.Overflow Bool
  | [] => .ok false
  | node :: nodes =>
    match source.isOffsetByOne node with
    | .ok true => .ok true
    | .ok false => source.anyOffsetByOne nodes
    | .error overflow => .error overflow

/-- The property that a member expression names, without the mark of a private one. -/
def property? (source : Source) (node : Node) : Option String :=
  (node.child? .property).map fun property =>
    String.ofList ((source.chars property).dropWhile (· == '#'))

/-- The name that a call is counted under: that of a function, or that of a property. -/
def calleeName? (source : Source) (call : Node) : Option String :=
  match call.callee? with
  | some callee =>
    if callee.kind = .identifier then some (source.text callee)
    else if callee.kind = .member then source.property? callee
    else none
  | none => none

/-- Whether a call calls a property of something. -/
def isMethodCall (call : Node) : Bool :=
  call.callee?.any (·.kind == .member)

/-- Functions that round or take a logarithm. -/
def roundingFunctions : List String :=
  ["floor", "ceil", "round", "trunc", "log", "log2", "log10"]

/-- Whether a call rounds a number or takes its logarithm. -/
def isRoundingCall (source : Source) (call : Node) : Bool :=
  match call.callee? with
  | some callee =>
    callee.kind == .member && source.text? (callee.child? .object) == "Math" &&
      (source.property? callee).any roundingFunctions.contains
  | none => false

/-- Whether a call calls the function of a name, directly or as a method of the
    same object. -/
def isSelfCall (source : Source) (name : String) (call : Node) : Bool :=
  match call.callee? with
  | some callee =>
    if callee.kind = .identifier then source.text callee == name
    else
      callee.kind == .member &&
        ((callee.child? .object).map Node.unwrap).any (·.kind == .this) &&
        source.property? callee == some name
  | none => false

end Source

end Syntax

end Costwise
