import Costwise.Syntax.Source
import Costwise.Text.Blank

/-!
# Function Definitions

Which functions of a program are judged on their own, and under which name. A
declared function and a method have a name. A function that is the value of a
variable, a key or a class field has the name of that. An arrow function that
is bound to nothing has no name and gets a placeholder. Other functions without
a name, such as those passed as an argument, belong to the function around them.

A function that is bound to a name is found at the binding, so it must not be
found a second time as an arrow function without a name. The search for
definitions keeps an agenda, and every node on it has a mark that says whether
its parent binds it.

## Main definitions

* `Node.boundFunction?`: The function that a binding names.
* `Node.isSeparate`: Whether a node is judged on its own.
* `Node.markedChildren`: The children of a node, with the bound one marked.
* `Definition`: A function with its name and its body.
* `Definition.search`: The search for definitions, by agenda.
* `Program.definitions`: The functions of a program, in preorder.
-/

namespace Costwise

open Syntax

namespace Syntax.Node

/-- The field that holds the name, for a node that binds a name to a value. -/
def bindingName? (node : Node) : Option Field :=
  match node.kind with
  | .declarator => some .name
  | .pair => some .key
  | .fieldDefinition => some .property
  | _ => none

/-- The function that a variable, a key or a class field is bound to. -/
def boundFunction? (node : Node) : Option Node :=
  match node.bindingName? with
  | some _ => (node.child? .value).filter (·.kind.isFunctionValue)
  | none => none

/-- Whether what a node defines is judged on its own, and so is no part of the
    function around it. -/
def isSeparate (node : Node) : Bool :=
  node.kind.isDeclaration || node.kind == .method || node.kind.isClass ||
    node.kind == .arrow || node.boundFunction?.isSome

/-- The nodes of a row, each with whether it is the one that the parent binds: the
    first that is held as a value, in a parent that binds. -/
def marked (binds : Bool) : List Node → List (Node × Bool)
  | [] => []
  | node :: nodes =>
    let isBound := binds && node.field == some .value
    (node, isBound) :: marked (binds && !isBound) nodes

theorem map_fst_marked (binds : Bool) (nodes : List Node) :
    (marked binds nodes).map (·.1) = nodes := by
  induction nodes generalizing binds with
  | nil => rfl
  | cons node rest ih => rw [marked, List.map_cons, ih]

/-- The children of a node, each with whether the node binds it. -/
def markedChildren (node : Node) : List (Node × Bool) :=
  marked node.boundFunction?.isSome node.children

end Syntax.Node

/-- A function with its name and its body. -/
structure Definition where
  /-- The name under which it is judged. -/
  name : String
  /-- The function. -/
  function : Node
  /-- Its body. -/
  body : Node

namespace Definition

/-- Whether a character may stand around a name that is written as a text. -/
def isQuote (c : Char) : Bool :=
  c == '\'' || c == '"' || c.toNat == 0x60

/-- A name without blanks and quotes around it. -/
def cleanName (text : List Char) : String :=
  let bare := (Text.trim text).dropWhile isQuote
  String.ofList (bare.reverse.dropWhile isQuote).reverse

/-- The cleaned text of the child that holds a name. -/
def nameAt (source : Source) (node : Node) (field : Field) : String :=
  match node.child? field with
  | some name => cleanName (source.chars name)
  | none => ""

/-- The name and the function that a node defines, if it defines one. -/
def claim? (source : Source) (anonymous : String) (node : Node) : Option (String × Node) :=
  if node.kind.isDeclaration || node.kind == .method then some (nameAt source node .name, node)
  else
    match node.bindingName?, node.boundFunction? with
    | some field, some function => some (nameAt source node field, function)
    | _, _ => if node.kind = .arrow then some (anonymous, node) else none

/-- The definition at a node, if it defines a function that has a body. -/
def ofNode? (source : Source) (anonymous : String) (node : Node) : Option Definition :=
  match claim? source anonymous node with
  | some (name, function) => (function.child? .body).map fun body => ⟨name, function, body⟩
  | none => none

/-- Adds the definitions of a forest to those found before, in preorder. A bound function
    is passed over, its binding has claimed it. What is below a node comes before the rest
    of the agenda. -/
def search (source : Source) (anonymous : String) (found : Array Definition) :
    List (Node × Bool) → Array Definition
  | [] => found
  | (node, bound) :: agenda =>
    let here := if bound then none else ofNode? source anonymous node
    search source anonymous (here.elim found found.push) (node.markedChildren ++ agenda)
termination_by agenda => Node.sizeAll (agenda.map (·.1))
decreasing_by
  rw [List.map_append, Node.markedChildren, Node.map_fst_marked, Node.sizeAll_append,
    List.map_cons, Node.sizeAll]
  dsimp only
  rw [Node.size_eq]
  omega

/-- The first line of a function. -/
def startLine (source : Source) (definition : Definition) : Nat :=
  source.line definition.function.start

/-- The last line of a function. -/
def endLine (source : Source) (definition : Definition) : Nat :=
  source.line definition.function.stop

end Definition

/-- The functions of a program that are judged on their own, in preorder. -/
def Syntax.Program.definitions (program : Program) (anonymous : String) : List Definition :=
  (Definition.search program.source anonymous #[] [(program.root, false)]).toList

end Costwise
