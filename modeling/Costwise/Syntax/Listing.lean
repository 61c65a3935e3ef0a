import Costwise.Json.Value
import Costwise.Syntax.Node

/-!
# Syntax Trees as Lists

A parser hands over a tree as a flat JSON list of all nodes, parents before
their children: the depth of a node, its kind, its flags, where it starts and
stops, and the field under which its parent holds it. The list is flat because
expressions can nest deeper than a reader of nested lists would like.

## Main definitions

* `Entry.ofJson`: One item of the list.
* `Node.emptyProgram`: The tree of an empty source.
* `Node.ofJson`: The tree of a list.
-/

namespace Costwise

namespace Syntax

/-- A number of an item, zero if it is something else. -/
def listedNumber : Json → Nat
  | .int n => n.toNat
  | _ => 0

/-- A text of an item, empty if it is something else. -/
def listedText : Json → String
  | .str text => text
  | _ => ""

/-- The field of an item. An empty one is none. -/
def listedField (name : String) : Option Field :=
  if name = "" then none else some (Field.ofName name)

/-- One item of the list, with its depth. The first flag tells named nodes, the second
    those that the parser made up. -/
def Entry.ofJson (index : Nat) : Json → Nat × Entry
  | .arr [depth, kind, flags, start, stop, field] =>
    (listedNumber depth,
      { index
        kind := Kind.ofName (listedText kind)
        named := listedNumber flags % 2 == 1
        missing := listedNumber flags / 2 % 2 == 1
        start := listedNumber start
        stop := listedNumber stop
        field := listedField (listedText field) })
  | _ => (0, { kind := .error })

/-- The tree of an empty source. -/
def Node.emptyProgram : Node := { kind := .ofName "program", named := true }

/-- The tree of a list. Without a list there is nothing but a fault. -/
def Node.ofJson : Json → Node
  | .arr listed => (Node.ofEntries? (listed.mapIdx Entry.ofJson)).getD { kind := .error }
  | _ => { kind := .error }

end Syntax

end Costwise
