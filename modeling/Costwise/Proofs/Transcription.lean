import Costwise.Proofs.Agreement
import Costwise.Report.Basic

/-!
# Copies That Mean the Same

A tree can be written out again: at another place, in another source, without the
comments. `Transcription` says which copies are faithful. Node by node a copy has
the kind, the field and the text of the original. Its children are copies of the
children of the original, in order, except that remarks may be left out. A remark is
a comment without anything below it that plays no part in its parent.

The analysis cannot tell such a copy from the original. No question about an
expression has a remark for an answer: those that go by the field of a child do not
meet one, and those that count operands pass it over. A walk does take up a remark,
and learns nothing. So a tree and its copy agree, and a function gets the same
record as its copy. A search for functions goes through a remark and finds none.

A source may hold a copy of some trees only, as one does that contains another
source. `Covers` says of which, and only the text of a covered tree is compared.

## Main definitions

* `Node.isRemark`: A comment that plays no part.
* `Transcription`: A way to copy trees of one source into another.
* `Transcription.agreement`: A tree means the same to a walk as its copy.
* `Transcription.definition`: The copy of a function.

## Theorems

* `child?_copy`, `operands_copy`, `operator_copy`: The shape of a copy.
* `preorder_copy`: The nodes of a copy are the copies of the nodes.
* `Copies.unwrap`: Parentheses come off a copy as they come off the original.
* `record_copy`: A function and its copy have the same record.
* `locate_copy`: The functions found in a copy are the copies of the functions found.
-/

namespace Costwise

open Syntax

namespace Syntax.Node

/-- Whether a node is a comment without anything below it that plays no part in its
    parent. -/
def isRemark (node : Node) : Bool :=
  node.kind == .comment && node.field.isNone && node.children.isEmpty

section Remark

variable {node : Node}

theorem isRemark_iff :
    node.isRemark = true ↔ node.kind = .comment ∧ node.field = none ∧ node.children = [] := by
  rw [isRemark, Bool.and_eq_true, Bool.and_eq_true, beq_iff_eq, Option.isNone_iff_eq_none,
    List.isEmpty_iff, and_assoc]

theorem isFiller_of_isRemark (h : node.isRemark = true) : node.isFiller = true := by
  rcases isRemark_iff.mp h with ⟨hkind, _, hchildren⟩
  exact isFiller_iff.mpr ⟨hchildren, .inl hkind⟩

end Remark

end Syntax.Node

/-- A way to copy trees of one source into another so that nothing but remarks is
    lost. -/
structure Transcription (s t : Source) where
  /-- The copy of a tree. -/
  copy : Node → Node
  /-- Whether a child is copied with its parent. -/
  keeps : Node → Bool
  /-- The trees whose copies stand in the other source. -/
  Covers : Node → Prop
  kind_copy : ∀ node, (copy node).kind = node.kind
  named_copy : ∀ node, (copy node).named = node.named
  field_copy : ∀ node, (copy node).field = node.field
  children_copy : ∀ node, (copy node).children = (node.children.filter keeps).map copy
  isRemark_of_dropped : ∀ {node}, keeps node = false → node.isRemark = true
  covers_child : ∀ {node child}, Covers node → child ∈ node.children → Covers child
  chars_copy : ∀ {node}, Covers node → t.chars (copy node) = s.chars node

namespace Transcription

variable {s t : Source} (T : Transcription s t) {node : Node}

section Shape

/-- A child that plays a part is kept. -/
theorem keeps_of_field {field : Field} (h : node.field = some field) : T.keeps node = true := by
  by_contra hdropped
  have hremark := T.isRemark_of_dropped (Bool.eq_false_iff.mpr hdropped)
  exact nomatch h.symm.trans (Node.isRemark_iff.mp hremark).2.1

theorem keeps_of_isOperand (h : node.isOperand = true) : T.keeps node = true := by
  by_contra hdropped
  have hremark := T.isRemark_of_dropped (Bool.eq_false_iff.mpr hdropped)
  have hnone := Node.isOperand_of_isFiller (Node.isFiller_of_isRemark hremark)
  exact Bool.false_ne_true (hnone.symm.trans h)

theorem isOperand_copy (node : Node) : (T.copy node).isOperand = node.isOperand := by
  rw [Node.isOperand, Node.isOperand, T.named_copy, T.kind_copy]

variable (node)

theorem child?_copy (field : Field) :
    (T.copy node).child? field = (node.child? field).map T.copy := by
  rw [Node.child?, Node.child?, T.children_copy, List.find?_map, List.find?_filter]
  congr 2
  funext child
  -- What is left out plays no part, so it is not what is looked for.
  rw [Function.comp_apply, T.field_copy, Bool.decide_and, Bool.decide_eq_true, Bool.decide_eq_true,
    Bool.and_eq_right_iff_imp, beq_iff_eq]
  exact T.keeps_of_field

theorem operands_copy :
    (T.copy node).children.filter Node.isOperand
      = (node.children.filter Node.isOperand).map T.copy := by
  rw [T.children_copy, List.filter_map, List.filter_filter]
  congr 2
  funext child
  -- What is left out is no operand, so asking whether it is kept adds nothing.
  rw [Function.comp_apply, T.isOperand_copy, Bool.and_eq_left_iff_imp]
  exact T.keeps_of_isOperand

theorem operator_copy : (T.copy node).operator = node.operator := by
  rw [Node.operator, Node.operator, T.child?_copy]
  cases node.child? .operator with
  | none => rfl
  | some token => exact congrArg Kind.name (T.kind_copy token)

theorem bindingName?_copy : (T.copy node).bindingName? = node.bindingName? := by
  rw [Node.bindingName?, Node.bindingName?, T.kind_copy]

theorem boundFunction?_copy : (T.copy node).boundFunction? = node.boundFunction?.map T.copy := by
  rw [Node.boundFunction?, Node.boundFunction?, T.bindingName?_copy, T.child?_copy]
  cases node.bindingName? with
  | none => rfl
  | some field =>
      cases node.child? .value with
      | none => rfl
      | some value =>
          simp only [Option.map_some, Option.filter_some, T.kind_copy]
          split <;> rfl

theorem isSeparate_copy : (T.copy node).isSeparate = node.isSeparate := by
  simp only [Node.isSeparate, T.kind_copy, T.boundFunction?_copy, Option.isSome_map]

end Shape

section Listings

/-- What yields nothing can be left out of a list. -/
theorem flatMap_filter {α β : Type} {keep : α → Bool} {f : α → List β} {items : List α}
    (h : ∀ item ∈ items, keep item = false → f item = []) :
    (items.filter keep).flatMap f = items.flatMap f := by
  induction items with
  | nil => rfl
  | cons item rest ih =>
      have hrest := ih fun later hlater => h later (List.mem_cons_of_mem _ hlater)
      cases hkeep : keep item with
      | true =>
          rw [List.filter_cons, if_pos hkeep, List.flatMap_cons, List.flatMap_cons, hrest]
      | false =>
          rw [List.filter_cons, hkeep, if_neg Bool.false_ne_true, List.flatMap_cons,
            h item List.mem_cons_self hkeep, List.nil_append, hrest]

/-- The nodes of a copy are the copies of the nodes, apart from the remarks that are left
    out. -/
theorem preorder_copy (hkept : T.keeps node = true) :
    (T.copy node).preorder = (node.preorder.filter T.keeps).map T.copy := by
  induction node using Node.induction with
  | step node ih =>
      have hnone : ∀ child ∈ node.children, T.keeps child = false →
          (child.preorder.filter T.keeps).map T.copy = [] := by
        intro child _ hdropped
        rw [Node.preorder_eq_flatMap, (Node.isRemark_iff.mp (T.isRemark_of_dropped hdropped)).2.2,
          List.flatMap_nil, List.filter_cons, hdropped, if_neg Bool.false_ne_true, List.filter_nil,
          List.map_nil]
      rw [Node.preorder_eq_flatMap, Node.preorder_eq_flatMap node, List.filter_cons, if_pos hkept,
        List.map_cons, T.children_copy, List.flatMap_map, List.filter_flatMap, List.map_flatMap,
        ← flatMap_filter hnone]
      congr 1
      refine List.flatMap_congr fun child hchild => ?_
      rcases List.mem_filter.mp hchild with ⟨hmem, hkeep⟩
      exact ih child hmem hkeep

/-- The remarks that are left out do not stand before a bound function as if they were
    it, so the marks stay with the children they were on. -/
theorem marked_copy (binds : Bool) (nodes : List Node) :
    Node.marked binds ((nodes.filter T.keeps).map T.copy)
      = ((Node.marked binds nodes).filter fun child => T.keeps child.1).map fun child =>
          (T.copy child.1, child.2) := by
  induction nodes generalizing binds with
  | nil => rfl
  | cons node rest ih =>
      rw [Node.marked]
      cases hkeep : T.keeps node with
      | true =>
          rw [List.filter_cons, if_pos hkeep, List.filter_cons, if_pos hkeep, List.map_cons,
            List.map_cons, Node.marked, T.field_copy, ih]
      | false =>
          -- What is held under no field is not bound, and the next in the row may still be.
          have hfield := (Node.isRemark_iff.mp (T.isRemark_of_dropped hkeep)).2.1
          rw [List.filter_cons, hkeep, if_neg Bool.false_ne_true, List.filter_cons, hkeep,
            if_neg Bool.false_ne_true, ih, hfield]
          simp

theorem markedChildren_copy (node : Node) :
    (T.copy node).markedChildren
      = (node.markedChildren.filter fun child => T.keeps child.1).map fun child =>
          (T.copy child.1, child.2) := by
  rw [Node.markedChildren, Node.markedChildren, T.boundFunction?_copy, Option.isSome_map,
    T.children_copy, T.marked_copy]

end Listings

/-! A tree that is covered means the same as its copy. -/

/-- A tree that is covered, and its copy. -/
def Copies (node image : Node) : Prop :=
  T.Covers node ∧ image = T.copy node

variable {T}

namespace Copies

variable {image : Node}

theorem chars_eq (h : T.Copies node image) : s.chars node = t.chars image := by
  rcases h with ⟨hnode, rfl⟩
  exact (T.chars_copy hnode).symm

theorem child? (h : T.Copies node image) (field : Field) :
    Option.Rel T.Copies (node.child? field) (image.child? field) := by
  rcases h with ⟨hnode, rfl⟩
  rw [T.child?_copy]
  cases hchild : node.child? field with
  | none => exact .none
  | some child =>
      exact .some ⟨T.covers_child hnode (Node.mem_children_of_child? hchild), rfl⟩

theorem operands (h : T.Copies node image) :
    List.Forall₂ T.Copies (node.children.filter Node.isOperand)
      (image.children.filter Node.isOperand) := by
  rcases h with ⟨hnode, rfl⟩
  rw [T.operands_copy, List.forall₂_map_right_iff, List.forall₂_same]
  exact fun child hchild => ⟨T.covers_child hnode (List.mem_filter.mp hchild).1, rfl⟩

theorem unwrap (h : T.Copies node image) : T.Copies node.unwrap image.unwrap := by
  refine Node.unwrap_rel ?_ (fun hcopies _ => hcopies.operands) h
  rintro node _ ⟨_, rfl⟩
  rw [T.kind_copy]

theorem children (h : T.Copies node image) :
    Node.Abreast T.Copies node.children image.children := by
  rcases h with ⟨hnode, rfl⟩
  have hcovers : ∀ child ∈ node.children, T.Covers child := fun _ => T.covers_child hnode
  rw [T.children_copy]
  generalize node.children = nodes at hcovers
  induction nodes with
  | nil => exact .nil
  | cons child rest ih =>
      have hrest := ih fun later hlater => hcovers later (List.mem_cons_of_mem _ hlater)
      rw [List.filter_cons]
      cases hkeep : T.keeps child with
      | true =>
          rw [if_pos rfl, List.map_cons]
          exact .pair ⟨hcovers child List.mem_cons_self, rfl⟩ hrest
      | false =>
          rw [if_neg Bool.false_ne_true]
          exact .skip (Node.isFiller_of_isRemark (T.isRemark_of_dropped hkeep)) hrest

end Copies

variable (T)

/-- A tree means the same to a walk as its copy. -/
def agreement : Agreement s t where
  Agrees := T.Copies
  isSeparate_eq := by
    rintro node _ ⟨_, rfl⟩
    exact (T.isSeparate_copy node).symm
  kind_eq := by
    rintro node _ ⟨_, rfl⟩ _
    exact (T.kind_copy node).symm
  chars_eq h _ := h.chars_eq
  property?_eq h _ := Source.property?_eq_of_rel (Node.rel_imp (h.child? _) Copies.chars_eq)
  object_eq h _ := by
    rw [Source.text?_eq_of_rel (Node.rel_imp (h.child? _) Copies.chars_eq)]
  operator_eq := by
    rintro node _ ⟨_, rfl⟩ _ operators _
    rw [T.operator_copy]
  operand h _ field := Node.rel_imp (h.child? field) Copies.unwrap
  arguments h _ := (Node.arguments_rel (h.child? _) Copies.operands).imp fun _ _ => Copies.unwrap
  children h _ := h.children

/-- The copy of a function. -/
def definition (definition : Definition) : Definition :=
  ⟨definition.name, T.copy definition.function, T.copy definition.body⟩

/-- A function has the same record as its copy. -/
theorem record_copy {definition : Definition} (hbody : T.Covers definition.body) :
    (T.definition definition).record t = definition.record s := by
  have hcopies : T.Copies definition.body (T.definition definition).body := ⟨hbody, rfl⟩
  symm
  exact T.agreement.record_eq rfl hcopies hcopies.chars_eq

/-! The search for functions in a copy. -/

section Search

variable (anonymous : String)

theorem nameAt_copy (hnode : T.Covers node) (field : Field) :
    Definition.nameAt t (T.copy node) field = Definition.nameAt s node field := by
  have hcopies : T.Copies node (T.copy node) := ⟨hnode, rfl⟩
  symm
  exact Definition.nameAt_eq_of_rel (Node.rel_imp (hcopies.child? field) Copies.chars_eq)

theorem claim?_copy (hnode : T.Covers node) :
    Definition.claim? t anonymous (T.copy node)
      = (Definition.claim? s anonymous node).map fun claimed => (claimed.1, T.copy claimed.2) := by
  simp only [Definition.claim?, T.kind_copy, T.bindingName?_copy, T.boundFunction?_copy,
    T.nameAt_copy hnode]
  split
  · rfl
  · cases node.bindingName? with
    | none =>
        dsimp only
        split <;> rfl
    | some field =>
        cases node.boundFunction? with
        | none =>
            dsimp only [Option.map_none]
            split <;> rfl
        | some function => rfl

theorem ofNode?_copy (hnode : T.Covers node) :
    Definition.ofNode? t anonymous (T.copy node)
      = (Definition.ofNode? s anonymous node).map T.definition := by
  rw [Definition.ofNode?, Definition.ofNode?, T.claim?_copy anonymous hnode]
  cases Definition.claim? s anonymous node with
  | none => rfl
  | some claimed =>
      simp only [Option.map_some, T.child?_copy, Option.map_map]
      rfl

/-- The search finds the copies of the functions that it finds in the original, in the
    same order. -/
theorem locate_copy (claimable : Bool) (hnode : T.Covers node) :
    Definition.locate t anonymous claimable (T.copy node)
      = (Definition.locate s anonymous claimable node).map T.definition := by
  induction node using Node.induction generalizing claimable with
  | step node ih =>
      -- It holds of the children that are left out as well, and there it is an empty list.
      have hbelow : ∀ child ∈ node.markedChildren,
          Definition.locate t anonymous (!child.2) (T.copy child.1)
            = (Definition.locate s anonymous (!child.2) child.1).map T.definition := by
        intro child hchild
        have hmem := Node.mem_children_of_markedChildren hchild
        exact ih child.1 hmem _ (T.covers_child hnode hmem)
      rw [Definition.locate_eq_append, Definition.locate_eq_append s, List.map_append,
        T.ofNode?_copy anonymous hnode, T.markedChildren_copy, List.flatMap_map, List.map_flatMap,
        flatMap_filter]
      · congr 1
        · cases claimable with
          | false => rfl
          | true => exact Option.toList_map
        · exact List.flatMap_congr hbelow
      · intro child hchild hdropped
        refine (hbelow child hchild).trans ?_
        have hchildren := (Node.isRemark_iff.mp (T.isRemark_of_dropped hdropped)).2.2
        rw [Definition.locate_of_children_eq_nil s anonymous _ hchildren, List.map_nil]

end Search

end Transcription

end Costwise
