import Costwise.Proofs.Transcription

/-!
# Programs Inside Larger Sources

A program can be a part of a larger source. Its bytes then stand further on by
some offset, and so does every node of its tree. Whatever the analysis finds out
about it should be the same there, except for the lines.

`moved` moves a tree, and `EmbeddedAt` says that a source stands inside another
from an offset on. The moved tree in the larger source is then a copy of the tree,
in the sense of `Transcription`. What that asks for is the shape of a moved tree,
which has nothing to do with the sources, and its texts. For these a node has to lie
inside its source: one that reached over the end would cover other bytes in the
larger source. `Within` rules that out for a whole tree.

Numbers of nodes tell places apart and mean nothing else. In a larger tree they
have to be different ones, so they are moved as well, by an amount of their own.

## Main definitions

* `Node.moved`: A tree further on in a source.
* `Source.EmbeddedAt`: A source stands in another from an offset on.
* `Node.Within`: Everything in a tree lies inside the source.
* `Source.EmbeddedAt.transcription`: Moved trees as copies in the larger source.
* `Definition.moved`, `Verdict.moved`: A function and its verdict further on.

## Theorems

* `chars_moved`, `line_moved`: Texts stay, and lines move on.
* `locate_moved`: The same functions are found.
* `verdict_moved`: They get the same verdicts, some lines further on.
-/

namespace Costwise

open Syntax

namespace Syntax.Node

mutual

/-- A tree whose bytes and whose numbers begin further on. -/
def moved (offset places : Nat) : Node → Node
  | ⟨entry, children⟩ =>
    ⟨{ entry with
        index := places + entry.index
        start := offset + entry.start
        stop := offset + entry.stop },
      movedAll offset places children⟩

/-- A row of trees whose bytes and whose numbers begin further on. -/
def movedAll (offset places : Nat) : List Node → List Node
  | [] => []
  | node :: nodes => node.moved offset places :: movedAll offset places nodes

end

section Shape

variable (offset places : Nat)

theorem movedAll_eq_map (nodes : List Node) :
    movedAll offset places nodes = nodes.map (moved offset places) := by
  induction nodes with
  | nil => rw [movedAll, List.map_nil]
  | cons node rest ih => rw [movedAll, List.map_cons, ih]

variable (node : Node)

@[simp] theorem children_moved :
    (node.moved offset places).children = node.children.map (moved offset places) := by
  cases node
  rw [moved, movedAll_eq_map]

@[simp] theorem kind_moved : (node.moved offset places).kind = node.kind := by
  cases node
  rw [moved]

@[simp] theorem named_moved : (node.moved offset places).named = node.named := by
  cases node
  rw [moved]

@[simp] theorem missing_moved : (node.moved offset places).missing = node.missing := by
  cases node
  rw [moved]

@[simp] theorem field_moved : (node.moved offset places).field = node.field := by
  cases node
  rw [moved]

@[simp] theorem start_moved : (node.moved offset places).start = offset + node.start := by
  cases node
  rw [moved]

@[simp] theorem stop_moved : (node.moved offset places).stop = offset + node.stop := by
  cases node
  rw [moved]

theorem isFault_moved : (node.moved offset places).isFault = node.isFault := by
  simp only [isFault, kind_moved, missing_moved]

/-- The nodes of a moved tree are the moved nodes. -/
theorem preorder_moved :
    (node.moved offset places).preorder = node.preorder.map (moved offset places) := by
  induction node using Node.induction with
  | step node ih =>
      rw [preorder_eq_flatMap, preorder_eq_flatMap node, List.map_cons, children_moved,
        List.flatMap_map, List.map_flatMap]
      congr 1
      exact List.flatMap_congr fun child hchild => ih child hchild

end Shape

/-- Everything in a tree lies inside the source. -/
def Within (source : Source) (node : Node) : Prop :=
  ∀ inner ∈ node.preorder,
    inner.start ≤ source.bytes.size ∧ inner.stop ≤ source.bytes.size

instance (source : Source) (node : Node) : Decidable (node.Within source) :=
  inferInstanceAs (Decidable (∀ inner ∈ node.preorder, _))

namespace Within

variable {source : Source} {node inner : Node}

theorem of_mem_preorder (h : node.Within source) (hinner : inner ∈ node.preorder) :
    inner.Within source := by
  rcases exists_lineage hinner with ⟨above, hlineage⟩
  exact fun deeper hdeeper => h deeper (hlineage.preorder_sublist.subset hdeeper)

theorem child (h : node.Within source) (hinner : inner ∈ node.children) : inner.Within source :=
  h.of_mem_preorder (Lineage.root.child hinner).mem_preorder

theorem child? (h : node.Within source) {field : Field} (hinner : node.child? field = some inner) :
    inner.Within source :=
  h.child (mem_children_of_child? hinner)

end Within

end Syntax.Node

namespace Syntax.Source

/-- A source stands in another from an offset on. -/
def EmbeddedAt (larger : Source) (offset : Nat) (source : Source) : Prop :=
  ∃ before after : List UInt8,
    larger.bytes.toList = before ++ (source.bytes.toList ++ after) ∧ before.length = offset

/-- The number of lines that end before an offset. -/
def linesBefore (source : Source) (offset : Nat) : Nat :=
  (source.before offset).count lineFeed

variable {s t : Source} {offset places : Nat} {node : Node}

theorem slice_eq (source : Source) (start stop : Nat) :
    source.slice start stop
      = Text.Utf8.decodeLossy ((source.bytes.toList.drop start).take (stop - start)) := by
  rw [slice, Array.toList_extract, List.extract_eq_take_drop]

theorem before_eq_take (source : Source) (offset : Nat) :
    source.before offset = source.bytes.toList.take offset := by
  rw [before, Array.toList_extract, List.extract_eq_take_drop, Nat.sub_zero, List.drop_zero]

theorem slice_moved (h : t.EmbeddedAt offset s) {start stop : Nat}
    (hstart : start ≤ s.bytes.size) (hstop : stop ≤ s.bytes.size) :
    t.slice (offset + start) (offset + stop) = s.slice start stop := by
  rcases h with ⟨before, after, hbytes, rfl⟩
  rw [← Array.length_toList] at hstart hstop
  have hlength : before.length + stop - (before.length + start) = stop - start := by omega
  have hinside : stop - start ≤ (s.bytes.toList.drop start).length := by
    rw [List.length_drop]
    omega
  rw [slice_eq, slice_eq, hbytes, hlength, List.drop_length_add_append,
    List.drop_append_of_le_length hstart, List.take_append_of_le_length hinside]

theorem chars_moved (h : t.EmbeddedAt offset s) (hin : node.Within s) :
    t.chars (node.moved offset places) = s.chars node := by
  rcases hin node node.self_mem_preorder with ⟨hstart, hstop⟩
  rw [chars, chars, Node.start_moved, Node.stop_moved, slice_moved h hstart hstop]

/-- The lines of a larger source that end before the smaller one come on top. -/
theorem line_moved (h : t.EmbeddedAt offset s) {place : Nat} (hplace : place ≤ s.bytes.size) :
    t.line (offset + place) = t.linesBefore offset + s.line place := by
  rcases h with ⟨before, after, hbytes, rfl⟩
  rw [← Array.length_toList] at hplace
  rw [line, line, linesBefore, before_eq_take, before_eq_take, before_eq_take, hbytes,
    List.take_length_add_append, List.take_left, List.take_append_of_le_length hplace,
    List.count_append, Nat.add_assoc]

/-- Moved trees are copies, as long as they lie inside their source. Nothing is left
    out. -/
def EmbeddedAt.transcription (h : t.EmbeddedAt offset s) (places : Nat) : Transcription s t where
  copy := Node.moved offset places
  keeps := fun _ => true
  Covers := Node.Within s
  kind_copy := Node.kind_moved offset places
  named_copy := Node.named_moved offset places
  field_copy := Node.field_moved offset places
  children_copy node := by rw [List.filter_true, Node.children_moved]
  isRemark_of_dropped h := nomatch h
  covers_child := Node.Within.child
  chars_copy := chars_moved h

end Syntax.Source

/-- A function whose bytes and whose numbers begin further on. -/
def Definition.moved (offset places : Nat) (definition : Definition) : Definition :=
  ⟨definition.name, definition.function.moved offset places, definition.body.moved offset places⟩

/-- A verdict on a function some lines further on. -/
def Verdict.moved (lines : Nat) (verdict : Verdict) : Verdict :=
  { verdict with span := ⟨lines + verdict.span.first, lines + verdict.span.last⟩ }

namespace Definition

variable {s t : Source} {offset places : Nat}

/-- A moved function gets the same verdict, further on by the lines before it. -/
theorem verdict_moved (h : t.EmbeddedAt offset s) {definition : Definition}
    (hbody : definition.body.Within s) (hfunction : definition.function.Within s) :
    (definition.moved offset places).verdict t
      = (definition.verdict s).map (Verdict.moved (t.linesBefore offset)) := by
  have hrecord : (definition.moved offset places).record t = definition.record s :=
    (h.transcription places).record_copy hbody
  rcases hfunction _ definition.function.self_mem_preorder with ⟨hstart, hstop⟩
  rw [verdict, verdict, hrecord]
  cases definition.record s with
  | error overflow => rfl
  | ok record =>
      simp only [Except.map, Verdict.moved, startLine, endLine, moved, Node.start_moved,
        Node.stop_moved, Source.line_moved h hstart, Source.line_moved h hstop, Int.natCast_add]

/-- The same functions are found in a moved tree. -/
theorem locate_moved (h : t.EmbeddedAt offset s) (anonymous : String) (claimable : Bool)
    {node : Node} (hin : node.Within s) :
    locate t anonymous claimable (node.moved offset places)
      = (locate s anonymous claimable node).map (moved offset places) :=
  (h.transcription places).locate_copy anonymous claimable hin

end Definition

end Costwise
