import Costwise.Definition
import Costwise.Syntax.Expression

/-!
# Inspecting a Program

A listing of what the analysis reads off each node, for looking into a verdict
that surprises. Every part is present exactly for the kinds of node that it
makes sense for, and nodes without any part are left out.

## Main definitions

* `Inspection`: What is read off one node.
* `Program.inspect`: The listing of a program.
-/

namespace Costwise

open Syntax

/-- What is read off a call. -/
structure CallInspection where
  /-- The name it is counted under. -/
  callee : Option String
  /-- Whether it rounds a number. -/
  rounds : Bool
  /-- Whether it calls the function of the given name. -/
  callsSelf : Bool
  /-- The texts of its arguments. -/
  arguments : List String

/-- What is read off one node. -/
structure Inspection where
  /-- The node. -/
  node : Node
  /-- What is left of parentheses. -/
  unwrapped : Option Node
  /-- The value of a number. -/
  number : Option (Except Literal.Overflow (Option Binary64))
  /-- The operator of an expression. -/
  operator : Option String
  /-- Whether one is added or subtracted. -/
  offsetByOne : Option (Except Literal.Overflow Bool)
  /-- What is read off a call. -/
  call : Option CallInspection
  /-- The property that a member expression names. -/
  property : Option (Option String)
  /-- The function that a binding names. -/
  bound : Option Node
  /-- Whether the node is judged on its own. -/
  separate : Bool

namespace Inspection

/-- Reads everything off a node that makes sense for its kind. -/
def ofNode (source : Source) (functionName : String) (node : Node) : Inspection :=
  let among (kinds : List Kind) {α : Type} (part : α) : Option α :=
    if node.kind ∈ kinds then some part else none
  { node
    unwrapped := among [.parenthesized] node.unwrap
    number := among [.number, .parenthesized, .unary] (source.number node)
    operator := among [.binary, .compoundAssignment, .unary] node.operator
    offsetByOne := among [.binary, .parenthesized] (source.isOffsetByOne node)
    call := among [.call, .construction]
      { callee := source.calleeName? node
        rounds := source.isRoundingCall node
        callsSelf := source.isSelfCall functionName node
        arguments := node.arguments.map source.text }
    property := among [.member] (source.property? node)
    bound := node.boundFunction?
    separate := node.isSeparate }

/-- Whether nothing was read off the node. -/
def isEmpty (inspection : Inspection) : Bool :=
  inspection.unwrapped.isNone && inspection.number.isNone && inspection.operator.isNone &&
    inspection.offsetByOne.isNone && inspection.call.isNone && inspection.property.isNone &&
    inspection.bound.isNone && !inspection.separate

end Inspection

/-- The listing of a program, in preorder. -/
def Syntax.Program.inspect (program : Program) (functionName : String) : List Inspection :=
  (program.root.preorder.map (Inspection.ofNode program.source functionName)).filter
    (!·.isEmpty)

end Costwise
