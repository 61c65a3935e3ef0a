import Costwise.Syntax.Kind

/-!
# Syntax Trees

A syntax tree as the grammar's parser builds it: every token and every comment
is a node, and a node knows which bytes of the source it covers. Nodes are
numbered in preorder. Two subtrees may be equal in all else and still stand at
different places, and the number tells them apart.

Trees arrive as a flat list with depths, because expressions nest hundreds of
levels deep. `ofEntries?` folds the list from its end: what has been built of
the rest is a row of trees, and those at the front that are deeper than the
next entry are its children.

## Main definitions

* `Entry`: What is known of a node apart from its children.
* `Node`: A tree.
* `Node.preorder`: All nodes, parents first.
* `Node.child?`: The child under a field.
* `Node.unwrap`: An expression without the parentheses around it.
* `Node.ofEntries?`: A tree from its flat list.

## Theorems

* `Node.preorderAll_eq_flatMap`: The nodes of a forest are those of its trees.
-/

namespace Costwise

namespace Syntax

/-- What is known of a node apart from its children. -/
structure Entry where
  /-- The number of the node in preorder. -/
  index : Nat := 0
  /-- What the node is. -/
  kind : Kind
  /-- Whether the node is more than a token. -/
  named : Bool := true
  /-- Whether the parser had to assume it. -/
  missing : Bool := false
  /-- The first byte. -/
  start : Nat := 0
  /-- The byte after the last. -/
  stop : Nat := 0
  /-- The part that it plays in its parent. -/
  field : Option Field := none
  deriving DecidableEq, Repr, Inhabited

/-- A syntax tree. -/
structure Node extends Entry where
  /-- The nodes below, from left to right. -/
  children : List Node := []
  deriving Inhabited

namespace Node

mutual

/-- The number of nodes of a tree. -/
def size : Node → Nat
  | ⟨_, children⟩ => sizeAll children + 1

/-- The number of nodes of a forest. -/
def sizeAll : List Node → Nat
  | [] => 0
  | node :: nodes => node.size + sizeAll nodes

end

mutual

/-- All nodes of a tree, parents first. -/
def preorder : Node → List Node
  | ⟨entry, children⟩ => ⟨entry, children⟩ :: preorderAll children

/-- All nodes of a forest, parents first. -/
def preorderAll : List Node → List Node
  | [] => []
  | node :: nodes => node.preorder ++ preorderAll nodes

end

theorem size_eq (node : Node) : node.size = sizeAll node.children + 1 := by
  cases node
  rw [size]

theorem preorder_eq (node : Node) : node.preorder = node :: preorderAll node.children := by
  cases node
  rw [preorder]

theorem preorderAll_eq_flatMap (nodes : List Node) :
    preorderAll nodes = nodes.flatMap preorder := by
  induction nodes with
  | nil => rw [preorderAll, List.flatMap_nil]
  | cons node nodes ih => rw [preorderAll, List.flatMap_cons, ih]

theorem sizeAll_append (a b : List Node) : sizeAll (a ++ b) = sizeAll a + sizeAll b := by
  induction a with
  | nil => simp only [List.nil_append, sizeAll, Nat.zero_add]
  | cons node nodes ih => simp only [List.cons_append, sizeAll, ih, Nat.add_assoc]

/-- The first child that plays a part. -/
def child? (node : Node) (field : Field) : Option Node :=
  node.children.find? (·.field == some field)

/-- Whether a node counts among operands and arguments: tokens and comments do not. -/
def isOperand (node : Node) : Bool :=
  node.named && node.kind != .comment

mutual

/-- An expression without the parentheses around it. Parentheses that hold no
    operand, or several, stay. -/
def unwrap : Node → Node
  | ⟨entry, children⟩ =>
    if entry.kind = .parenthesized then (unwrapSole children).getD ⟨entry, children⟩
    else ⟨entry, children⟩

/-- The only operand of a list, unwrapped. -/
def unwrapSole : List Node → Option Node
  | [] => none
  | node :: nodes =>
    if node.isOperand then
      if nodes.any isOperand then none else some node.unwrap
    else unwrapSole nodes

end

/-- The operator of an expression: the kind of its operator token. -/
def operator (node : Node) : String :=
  match node.child? .operator with
  | some token => token.kind.name
  | none => ""

/-- The operands in the argument list of a call. -/
def arguments (node : Node) : List Node :=
  match node.child? .arguments with
  | some list => list.children.filter isOperand
  | none => []

/-- What a call calls, without parentheses. -/
def callee? (node : Node) : Option Node :=
  (node.child? .callee).map unwrap

/-- Puts an entry in front of what was built from the entries after it: a row of
    trees with their depths. The deeper trees at the front become its children. -/
def attach (depth : Nat) (entry : Entry) (row : List (Nat × Node)) : List (Nat × Node) :=
  let deeper (tree : Nat × Node) := decide (depth < tree.1)
  (depth, ⟨entry, (row.takeWhile deeper).map (·.2)⟩) :: row.dropWhile deeper

/-- The tree of a flat list in preorder with depths. -/
def ofEntries? (entries : List (Nat × Entry)) : Option Node :=
  (entries.foldr (fun (depth, entry) row => attach depth entry row) []).head?.map (·.2)

end Node

end Syntax

end Costwise
