import Costwise.Definition
import Costwise.Features.Step
import Costwise.Syntax.Expression

/-!
# Walking a Body

The walk goes through the body of a function in preorder and turns nodes into
findings. Definitions that are judged on their own are left out with everything
below them. Inside a loop some findings mean more, so the walk knows how many
loops it is in.

The walk keeps an agenda instead of calling itself, so an expression may nest
as deep as it likes. An item of the agenda is a node to visit or the end of a
loop to note. `visit` is the same walk by recursion on the tree, with the
number of loops handed down instead of counted up and down; it says plainly
what the walk does.

A number literal that is too large ends the walk with an error.

## Main definitions

* `Body`: What the walk knows of the function it is in.
* `Body.findings`: What one node means.
* `Body.walk`: The walk, by agenda.
* `Body.visit`: The walk, by recursion.
* `Definition.record`: The record of a function.
-/

namespace Costwise

open Syntax

/-- What a walk knows of the function it is in. -/
structure Body where
  /-- The bytes that nodes speak of. -/
  source : Source
  /-- The name of the function. -/
  functionName : String
  /-- What the text of the body shows. -/
  signals : Signals

namespace Body

/-- Operators that divide. -/
def divisionOperators : List String := ["/", "/="]

/-- Operators that compare. -/
def comparisonOperators : List String := ["<", ">", "<=", ">=", "==", "===", "!=", "!=="]

/-- Operators that shift. -/
def shiftOperators : List String := ["<<", ">>", ">>>", "<<=", ">>=", ">>>="]

/-- Whether the text shows a search by halving that builds nothing up. -/
def looksLikeSearch (body : Body) : Bool :=
  body.signals.halvesRounded && body.signals.returns && !body.signals.accumulates

/-- Whether a self-call narrows a search range: one of at least three arguments is
    offset by one, in a body that looks like a search. -/
def narrowsRange (body : Body) (call : Node) : Except Literal.Overflow Bool :=
  if 3 ≤ call.arguments.length ∧ body.looksLikeSearch then
    body.source.anyOffsetByOne call.arguments
  else .ok false

/-- What a self-call means, nothing if the call is of another function. -/
def selfCallFindings (body : Body) (call : Node) : Except Literal.Overflow (List Step) :=
  if body.source.isSelfCall body.functionName call then
    (body.narrowsRange call).map fun narrows =>
      .selfCall :: if narrows then [.confirmSearch] else []
  else .ok []

/-- What a call means. A call without a name means nothing. -/
def callFindings (body : Body) (call : Node) : Except Literal.Overflow (List Step) :=
  match body.source.calleeName? call with
  | none => .ok []
  | some name =>
    (body.selfCallFindings call).map fun selfCall =>
      .call name :: selfCall ++
        (if Source.isMethodCall call then [.method name] else []) ++
        if body.source.isRoundingCall call then [.rounding] else []

/-- What an operator means. A division counts if the divisor is a number. -/
def operatorFindings (body : Body) (node : Node) (inLoop : Bool) :
    Except Literal.Overflow (List Step) :=
  if divisionOperators.contains node.operator then
    (body.source.number? (node.child? .right)).map fun divisor =>
      divisor.toList.map (.division · inLoop)
  else if comparisonOperators.contains node.operator then .ok [.comparison inLoop]
  else if shiftOperators.contains node.operator then .ok [.shift inLoop]
  else .ok []

/-- What one node means that is no loop. -/
def findings (body : Body) (node : Node) (inLoop : Bool) : Except Literal.Overflow (List Step) :=
  match node.kind with
  | .call => body.callFindings node
  | .binary | .compoundAssignment => body.operatorFindings node inLoop
  | .member => .ok [.access false (body.source.property? node)]
  | .subscript => .ok [.access true none]
  | _ => .ok []

/-- An item of the agenda. -/
inductive Task where
  /-- Visit a node, inside a loop or not. -/
  | visit (node : Node) (inLoop : Bool)
  /-- Note that a loop has ended. -/
  | leave

/-- The nodes of a forest, to be visited from left to right. -/
def Task.visits (nodes : List Node) (inLoop : Bool) : List Task :=
  nodes.map (.visit · inLoop)

/-- How much an item of the agenda costs at most. -/
def Task.cost : Task → Nat
  | visit node _ => 2 * node.size
  | leave => 1

/-- How much an agenda costs at most. -/
def agendaCost : List Task → Nat
  | [] => 0
  | task :: agenda => task.cost + agendaCost agenda

theorem agendaCost_cons (task : Task) (agenda : List Task) :
    agendaCost (task :: agenda) = task.cost + agendaCost agenda :=
  rfl

theorem agendaCost_append (a b : List Task) :
    agendaCost (a ++ b) = agendaCost a + agendaCost b := by
  induction a with
  | nil => simp only [List.nil_append, agendaCost, Nat.zero_add]
  | cons task rest ih => simp only [List.cons_append, agendaCost, ih, Nat.add_assoc]

theorem agendaCost_visits (nodes : List Node) (inLoop : Bool) :
    agendaCost (Task.visits nodes inLoop) = 2 * Node.sizeAll nodes := by
  induction nodes with
  | nil => rfl
  | cons node nodes ih =>
    rw [Task.visits] at ih ⊢
    rw [List.map_cons, agendaCost_cons, ih, Node.sizeAll, Task.cost]
    omega

/-- Works off an agenda. `depth` is the number of loops around the place reached. -/
def walk (body : Body) (depth : Nat) (progress : Progress) :
    List Task → Except Literal.Overflow (Nat × Progress)
  | [] => .ok (depth, progress)
  | .leave :: agenda => body.walk (depth - 1) progress agenda
  | .visit node inLoop :: agenda =>
    if node.isSeparate then body.walk depth progress agenda
    else if node.kind.isLoop then
      body.walk (depth + 1) (progress.step body.signals (.loop (depth + 1 : Nat)))
        (Task.visits node.children true ++ .leave :: agenda)
    else
      match body.findings node inLoop with
      | .error overflow => .error overflow
      | .ok steps =>
        body.walk depth (progress.run body.signals steps)
          (Task.visits node.children inLoop ++ agenda)
termination_by agenda => agendaCost agenda
decreasing_by
  all_goals
    simp only [agendaCost_cons, agendaCost_append, agendaCost_visits, Task.cost]
    try rw [Node.size_eq node]
    omega

mutual

/-- Visits a tree with a number of loops around it. -/
def visit (body : Body) (depth : Nat) (progress : Progress) :
    Node → Except Literal.Overflow Progress
  | ⟨entry, children⟩ =>
    let node : Node := ⟨entry, children⟩
    if node.isSeparate then .ok progress
    else if node.kind.isLoop then
      body.visitAll (depth + 1) (progress.step body.signals (.loop (depth + 1 : Nat))) children
    else
      match body.findings node (decide (0 < depth)) with
      | .error overflow => .error overflow
      | .ok steps => body.visitAll depth (progress.run body.signals steps) children

/-- Visits trees from left to right. -/
def visitAll (body : Body) (depth : Nat) (progress : Progress) :
    List Node → Except Literal.Overflow Progress
  | [] => .ok progress
  | node :: nodes =>
    match body.visit depth progress node with
    | .error overflow => .error overflow
    | .ok progress => body.visitAll depth progress nodes

end

end Body

namespace Definition

/-- The record of a function: its body is walked once, from an empty start. -/
def record (source : Source) (definition : Definition) : Except Literal.Overflow Record :=
  let text := source.chars definition.body
  let signals := Signals.ofText text
  let body : Body := ⟨source, definition.name, signals⟩
  (body.walk 0 {} [.visit definition.body false]).map fun (_, progress) =>
    progress.seal definition.name (String.ofList text) signals

end Definition

end Costwise
