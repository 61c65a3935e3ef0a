import Costwise.Syntax.Source

/-!
# Syntax Faults

A tree that the parser had to repair is not analysed. The parser marks what it
could not place and what it had to assume; the first such node is reported,
with its position. The search for it keeps an agenda, like every walk through a
tree that may be deep, and stops where it finds one.

## Main definitions

* `Node.isFault`: Whether the parser marked a node.
* `Node.hasFault`: Whether it marked any node of a tree.
* `Node.firstFault?`: The first marked node, by agenda.
* `Fault`: Why a program is refused.
* `Program.fault`: The fault of a program that has one.
-/

namespace Costwise

namespace Syntax

/-- Whether the parser could not place a node or had to assume it. -/
def Node.isFault (node : Node) : Bool :=
  node.kind == .error || node.missing

/-- Whether a tree has a marked node. -/
def Node.hasFault (root : Node) : Bool :=
  root.preorder.any Node.isFault

/-- The first marked node of a forest. What is below a node comes before the rest of
    the agenda. -/
def Node.firstFault? : List Node → Option Node
  | [] => none
  | node :: agenda =>
    if node.isFault then some node else firstFault? (node.children ++ agenda)
termination_by agenda => Node.sizeAll agenda
decreasing_by
  rw [Node.sizeAll_append, Node.sizeAll, Node.size_eq]
  omega

/-- A place in a source, both parts counted from one. -/
structure Position where
  /-- The line. -/
  line : Nat
  /-- The column, in bytes. -/
  column : Nat
  deriving DecidableEq, Repr

/-- Why a program is refused. -/
inductive Fault where
  /-- Something is missing, of this kind. -/
  | missing (kind : String) (position : Position)
  /-- Something does not belong here. -/
  | unexpected (position : Position)
  /-- The tree is faulty and no node is to blame. -/
  | unknown
  deriving DecidableEq, Repr

namespace Fault

/-- Where the fault is. -/
def position? : Fault → Option Position
  | missing _ position => some position
  | unexpected position => some position
  | unknown => none

/-- What is said about a fault. -/
def message : Fault → String
  | missing kind position =>
    s!"Missing '{kind}' at line {position.line}, column {position.column}"
  | unexpected position =>
    s!"Unexpected token at line {position.line}, column {position.column}"
  | unknown => "Invalid JavaScript code"

end Fault

namespace Program

/-- Where a node begins. -/
def position (program : Program) (node : Node) : Position :=
  ⟨program.source.line node.start, program.source.column node.start⟩

/-- The fault of a program whose tree is known to have one: the first marked node
    is to blame. -/
def fault (program : Program) : Fault :=
  match Node.firstFault? [program.root] with
  | some node =>
    if node.missing then .missing node.kind.name (program.position node)
    else .unexpected (program.position node)
  | none => .unknown

/-- The fault of a program, if it has one. -/
def fault? (program : Program) : Option Fault :=
  if program.root.hasFault then some program.fault else none

end Program

end Syntax

end Costwise
