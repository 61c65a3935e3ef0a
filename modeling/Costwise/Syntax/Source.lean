import Costwise.Syntax.Node
import Costwise.Text.Utf8

/-!
# Source Units

A source unit is the bytes of a program together with its syntax tree. Nodes
speak of bytes; names, bodies and positions are read off them here. Bytes that
are no text are replaced, so every node has a text.

## Main definitions

* `Source`: The bytes of a program.
* `Source.text`: The text that a node covers.
* `Source.line`, `Source.column`: Where a byte stands.
* `Program`: The bytes and the tree.
-/

namespace Costwise

namespace Syntax

/-- The bytes of a program. -/
structure Source where
  /-- The bytes. -/
  bytes : Array UInt8
  deriving DecidableEq

namespace Source

/-- The bytes of a text. -/
def ofString (text : String) : Source :=
  ⟨(Text.Utf8.encode text).toArray⟩

/-- The characters from one byte up to another. -/
def slice (source : Source) (start stop : Nat) : List Char :=
  Text.Utf8.decodeLossy (source.bytes.extract start stop).toList

/-- The characters that a node covers. -/
def chars (source : Source) (node : Node) : List Char :=
  source.slice node.start node.stop

/-- The text that a node covers. -/
def text (source : Source) (node : Node) : String :=
  String.ofList (source.chars node)

/-- The text of an optional node, empty if it is not there. -/
def text? (source : Source) : Option Node → String
  | some node => source.text node
  | none => ""

/-- The byte that ends a line. -/
def lineFeed : UInt8 := 10

/-- The bytes before an offset. -/
def before (source : Source) (offset : Nat) : List UInt8 :=
  (source.bytes.extract 0 offset).toList

/-- The line of a byte, counted from one. -/
def line (source : Source) (offset : Nat) : Nat :=
  (source.before offset).count lineFeed + 1

/-- The column of a byte in its line, counted in bytes from one. -/
def column (source : Source) (offset : Nat) : Nat :=
  ((source.before offset).reverse.takeWhile (· != lineFeed)).length + 1

/-- The number of characters of the whole source. -/
def length (source : Source) : Nat :=
  (Text.Utf8.decodeLossy source.bytes.toList).length

end Source

/-- The bytes of a program and its syntax tree. -/
structure Program where
  /-- The bytes. -/
  source : Source
  /-- The tree. -/
  root : Node

end Syntax

end Costwise
