import Costwise.Proofs.Placeholder
import Costwise.Proofs.Transcription

/-!
# Comments Do Not Count

A comment can stand almost anywhere in a program, between the parts of an
expression or between two arguments, and in the tree it is a child like the others.
Code that counts children, or takes the first or the last of them, is easily thrown
off by one. This analysis is not: take all remarks out of a tree, leave the source
as it is, and every function gets the verdict that it had.

The tree without its remarks is a copy of the tree, in the sense of
`Transcription`. All nodes that are left have their places and thus their texts, so
the copy stands in the same source and every tree is covered. The text of a body,
comments included, still decides which signals it shows; removing a comment from
the source as well could change those.

## Main definitions

* `Node.withoutRemarks`: A tree without the remarks below its root.
* `Program.withoutRemarks`: A program without the remarks of its tree.

## Theorems

* `preorder_withoutRemarks`: What is left of a tree.
* `verdicts_withoutRemarks`: What is left gets the verdicts of the whole.
-/

namespace Costwise

open Syntax

namespace Syntax.Node

mutual

/-- A tree without the remarks below its root. -/
def withoutRemarks : Node → Node
  | ⟨entry, children⟩ => ⟨entry, withoutRemarksAll children⟩

/-- A row of trees without the remarks in it and below. -/
def withoutRemarksAll : List Node → List Node
  | [] => []
  | node :: nodes =>
    if node.isRemark then withoutRemarksAll nodes
    else node.withoutRemarks :: withoutRemarksAll nodes

end

theorem withoutRemarksAll_eq_map (nodes : List Node) :
    withoutRemarksAll nodes = (nodes.filter fun node => !node.isRemark).map withoutRemarks := by
  induction nodes with
  | nil => rw [withoutRemarksAll, List.filter_nil, List.map_nil]
  | cons node rest ih =>
      rw [withoutRemarksAll, List.filter_cons, ih]
      cases node.isRemark with
      | true => rfl
      | false => rfl

/-- Only the children change. -/
theorem withoutRemarks_eq (node : Node) :
    node.withoutRemarks
      = ⟨node.toEntry, (node.children.filter fun child => !child.isRemark).map withoutRemarks⟩ := by
  cases node
  rw [withoutRemarks, withoutRemarksAll_eq_map]

end Syntax.Node

/-- A tree without its remarks is a copy, in the same source. -/
def Transcription.withoutRemarks (source : Source) : Transcription source source where
  copy := Node.withoutRemarks
  keeps node := !node.isRemark
  Covers _ := True
  kind_copy node := by rw [Node.withoutRemarks_eq]
  named_copy node := by rw [Node.withoutRemarks_eq]
  field_copy node := by rw [Node.withoutRemarks_eq]
  children_copy node := by rw [Node.withoutRemarks_eq]
  isRemark_of_dropped h := Bool.not_eq_eq_eq_not.mp h
  covers_child _ _ := trivial
  chars_copy _ := by rw [Source.chars, Source.chars, Node.withoutRemarks_eq]

/-- The nodes that are no remarks are left, in their order. -/
theorem Syntax.Node.preorder_withoutRemarks {node : Node} (h : node.isRemark = false) :
    node.withoutRemarks.preorder
      = (node.preorder.filter fun inner => !inner.isRemark).map withoutRemarks :=
  (Transcription.withoutRemarks ⟨#[]⟩).preorder_copy (congrArg not h)

namespace Syntax.Program

/-- A program without the remarks of its tree. Its bytes stay. -/
def withoutRemarks (program : Program) : Program :=
  { program with root := program.root.withoutRemarks }

theorem definitions_withoutRemarks (program : Program) (anonymous : String) :
    program.withoutRemarks.definitions anonymous
      = (program.definitions anonymous).map
          (Transcription.withoutRemarks program.source).definition := by
  rw [definitions_eq_locate, definitions_eq_locate]
  exact (Transcription.withoutRemarks program.source).locate_copy anonymous true trivial

theorem verdict_withoutRemarks (program : Program) (definition : Definition) :
    ((Transcription.withoutRemarks program.source).definition definition).verdict program.source
      = definition.verdict program.source := by
  have hstart : definition.function.withoutRemarks.start = definition.function.start := by
    rw [Node.withoutRemarks_eq]
  have hstop : definition.function.withoutRemarks.stop = definition.function.stop := by
    rw [Node.withoutRemarks_eq]
  rw [Definition.verdict, Definition.verdict, Transcription.record_copy _ trivial,
    Definition.startLine, Definition.endLine]
  simp only [Transcription.definition, Transcription.withoutRemarks, hstart, hstop]
  rfl

/-- Remarks are invisible: without them the same functions are found, in the same order,
    and each has the same name, the same lines, the same record and the same class, or
    the same number is too large. -/
theorem verdicts_withoutRemarks (program : Program) (anonymous : String) :
    program.withoutRemarks.verdicts anonymous = program.verdicts anonymous := by
  rw [verdicts, verdicts, definitions_withoutRemarks, List.mapM_map]
  exact mapM_eq_of_forall fun definition _ => verdict_withoutRemarks program definition

end Syntax.Program

end Costwise
