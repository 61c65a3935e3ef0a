import Costwise.Proofs.Agreement

/-!
# Trees With Parentheses Added

`Padded` says what it is to add parentheses to a tree, at as many places and as deep as
one likes. Node by node the new tree has the kind and the bytes of the old one. Where
the old one has an operand in one of three places (what is called, the right operand of an
operator, an argument), the new one may have it inside parentheses (`Enclosed`), with
tokens and comments beside it. The bytes that the parentheses cover are left open,
because nothing reads them.

The field of an operand goes over to the outermost parentheses. In the three places
the field is all that the parent goes by. What is asked of a child in any other place
is asked of the child itself, and there the trees have the same nodes
(`Padded.child?_plain`). In the three places what is asked is asked of the operand
without its parentheses (`PaddedIn.unwrap`). That is what a walk needs: a tree agrees
with every tree that comes of it by adding parentheses.

## Main definitions

* `Kind.seats`: The places in which parentheses are redundant.
* `Node.Enclosed`: A node inside any number of parentheses.
* `Node.Padded`: A tree with parentheses added to it.
* `Padded.agreement`: A tree means the same to a walk as a padded one.

## Theorems

* `Enclosed.unwrap_eq`, `Enclosed.abreast`: Parentheses are looked through, and a walk
  goes through them.
* `Padded.child?_plain`: Where parentheses are not redundant, none are added.
* `Padded.unwrap`, `PaddedIn.unwrap`: Parentheses come off padded trees in the same way.
* `Padded.isSeparate_eq`: No function is bound or set free by adding parentheses.
-/

namespace Costwise

open Syntax

namespace Syntax

/-- Whether an operand that a node of this kind holds under a field may get parentheses:
    what is called, the right operand of an operator, and an argument. -/
def Kind.seats (parent : Kind) (field : Option Field) : Bool :=
  match parent with
  | .call => field == some .callee
  | .binary | .compoundAssignment => field == some .right
  | .other name => name == "arguments"
  | _ => false

/-- A function has no such place among its own children. -/
theorem Kind.seats_of_isFunctionValue {kind : Kind} (h : kind.isFunctionValue = true)
    (field : Option Field) : kind.seats field = false := by
  cases kind with
  | functionValue | functionKeyword | generatorValue | arrow => rfl
  | _ => exact absurd h Bool.false_ne_true

theorem Kind.seats_of_declares {kind : Kind} (h : (kind.isDeclaration || kind == .method) = true)
    (field : Option Field) : kind.seats field = false := by
  cases kind with
  | functionDeclaration | generatorDeclaration | method => rfl
  | _ => exact absurd h Bool.false_ne_true

namespace Node

/-- A node inside any number of parentheses. Each pair holds one operand, and tokens and
    comments around it. -/
inductive Enclosed (core : Node) : Node → Prop
  /-- No parentheses. -/
  | bare : Enclosed core core
  /-- One pair more. -/
  | within {entry : Entry} {before after : List Node} {inner : Node}
      (kind : entry.kind = .parenthesized) (named : entry.named = true)
      (opening : ∀ filler ∈ before, filler.isFiller = true)
      (closing : ∀ filler ∈ after, filler.isFiller = true)
      (enclosed : Enclosed core inner) : Enclosed core ⟨entry, before ++ inner :: after⟩

mutual

/-- A tree and the same tree with parentheses added to it. -/
inductive Padded : Node → Node → Prop
  /-- The roots agree, and so do the children. -/
  | node {node copy : Node} (kind : copy.kind = node.kind) (named : copy.named = node.named)
      (start : copy.start = node.start) (stop : copy.stop = node.stop)
      (children : PaddedAll node.kind node.children copy.children) : Padded node copy

/-- The children of a node of some kind and the same children with parentheses added. The
    place of a child that is put into parentheses is taken by them. -/
inductive PaddedAll : Kind → List Node → List Node → Prop
  /-- No children. -/
  | nil {parent : Kind} : PaddedAll parent [] []
  /-- One child more, as it is or in parentheses. -/
  | cons {parent : Kind} {child core image : Node} {children images : List Node}
      (padded : Padded child core) (enclosed : Enclosed core image)
      (field : image.field = child.field)
      (seat : image = core ∨ child.isOperand = true ∧ parent.seats child.field = true)
      (rest : PaddedAll parent children images) :
      PaddedAll parent (child :: children) (image :: images)

end

/-- A child of a node of some kind and what stands in its place once parentheses are
    added. -/
def PaddedIn (parent : Kind) (child image : Node) : Prop :=
  ∃ core, Padded child core ∧ Enclosed core image ∧ image.field = child.field ∧
    (image = core ∨ child.isOperand = true ∧ parent.seats child.field = true)

theorem PaddedAll.forall₂ {parent : Kind} {children images : List Node}
    (h : PaddedAll parent children images) :
    List.Forall₂ (PaddedIn parent) children images := by
  induction children generalizing images with
  | nil =>
      cases h
      exact .nil
  | cons child children ih =>
      cases h with
      | cons padded enclosed field seat rest =>
          exact .cons ⟨_, padded, enclosed, field, seat⟩ (ih rest)

/-- A child that gets no parentheses around it. -/
theorem PaddedAll.unenclosed {parent : Kind} {child image : Node} {children images : List Node}
    (padded : Padded child image) (field : image.field = child.field)
    (rest : PaddedAll parent children images) :
    PaddedAll parent (child :: children) (image :: images) :=
  .cons padded .bare field (.inl rfl) rest

theorem PaddedAll.of_forall {nodes : List Node} (parent : Kind)
    (h : ∀ node ∈ nodes, Padded node node) : PaddedAll parent nodes nodes := by
  induction nodes with
  | nil => exact .nil
  | cons node rest ih =>
      have hrest := ih fun later hlater => h later (List.mem_cons_of_mem _ hlater)
      exact .unenclosed (h node List.mem_cons_self) rfl hrest

/-- One may add no parentheses at all. -/
theorem Padded.refl (node : Node) : Padded node node := by
  induction node using Node.induction with
  | step node ih => exact .node rfl rfl rfl rfl (.of_forall _ ih)

/-! What parentheses hide: nothing. -/

theorem filter_isOperand_of_isFiller {fillers : List Node}
    (h : ∀ filler ∈ fillers, filler.isFiller = true) : fillers.filter isOperand = [] := by
  rw [List.filter_eq_nil_iff]
  intro filler hfiller
  rw [isOperand_of_isFiller (h filler hfiller)]
  exact Bool.false_ne_true

namespace Enclosed

variable {core image : Node}

theorem isOperand (h : Enclosed core image) (hcore : core.isOperand = true) :
    image.isOperand = true := by
  cases h with
  | bare => exact hcore
  | within kind named _ _ _ =>
      rw [Node.isOperand, named, kind]
      rfl

/-- The operand inside is the only one, however many tokens and comments are beside it. -/
theorem unwrap_eq (h : Enclosed core image) (hcore : core.isOperand = true) :
    image.unwrap = core.unwrap := by
  induction h with
  | bare => rfl
  | within kind _ opening closing enclosed ih =>
      rw [Node.unwrap_eq, if_pos kind, List.filter_append, filter_isOperand_of_isFiller opening,
        List.nil_append, List.filter_cons, if_pos (enclosed.isOperand hcore),
        filter_isOperand_of_isFiller closing]
      exact ih

/-- A walk takes up the parentheses and what is beside the operand, and comes to the
    operand. -/
theorem abreast {R : Node → Node → Prop} {child : Node} {nodes images : List Node}
    (h : Enclosed core image) (hchild : R child core) (hrest : Abreast R nodes images) :
    Abreast R (child :: nodes) (image :: images) := by
  induction h generalizing images with
  | bare => exact .pair hchild hrest
  | @within entry before after inner kind _ opening closing _ ih =>
      refine .enclose kind ?_
      have hinner := (ih (hrest.inserts closing)).inserts opening
      rw [← List.cons_append, ← List.append_assoc] at hinner
      exact hinner

end Enclosed

/-! The shape of a padded tree. -/

theorem seats_of_bindingName? {node : Node} (h : node.bindingName?.isSome) (field : Option Field) :
    node.kind.seats field = false := by
  unfold bindingName? at h
  cases hkind : node.kind with
  | declarator | pair | fieldDefinition => rfl
  | _ =>
      rw [hkind] at h
      exact absurd h Bool.false_ne_true

theorem seats_operator {node : Node} (h : node.kind = .binary ∨ node.kind = .compoundAssignment) :
    node.kind.seats (some .operator) = false := by
  rcases h with h | h <;> rw [h] <;> rfl

variable {a b : Node} {parent : Kind}

namespace Padded

theorem kind_eq (h : Padded a b) : a.kind = b.kind := by
  cases h with
  | node kind _ _ _ _ => exact kind.symm

theorem children (h : Padded a b) : List.Forall₂ (PaddedIn a.kind) a.children b.children := by
  cases h with
  | node _ _ _ _ children => exact children.forall₂

theorem chars_eq (h : Padded a b) (source : Source) : source.chars a = source.chars b := by
  cases h with
  | node _ _ start stop _ => rw [Source.chars, Source.chars, start, stop]

theorem isOperand_eq (h : Padded a b) : a.isOperand = b.isOperand := by
  cases h with
  | node kind named _ _ _ => rw [isOperand, isOperand, kind, named]

end Padded

namespace PaddedIn

theorem field_eq (h : PaddedIn parent a b) : a.field = b.field := by
  rcases h with ⟨core, _, _, hfield, _⟩
  exact hfield.symm

/-- Where parentheses are not redundant, none are added. -/
theorem plain (h : PaddedIn parent a b) (hseat : parent.seats a.field = false) : Padded a b := by
  rcases h with ⟨core, hpadded, _, _, rfl | ⟨_, hseated⟩⟩
  · exact hpadded
  · exact absurd (hseat.symm.trans hseated) Bool.false_ne_true

theorem isOperand_eq (h : PaddedIn parent a b) : a.isOperand = b.isOperand := by
  rcases h with ⟨core, hpadded, henclosed, _, rfl | ⟨hoperand, _⟩⟩
  · exact hpadded.isOperand_eq
  · have hcore : core.isOperand = true := hpadded.isOperand_eq ▸ hoperand
    rw [hoperand, henclosed.isOperand hcore]

end PaddedIn

/-- As many operands stand in a row as in the padded row. -/
theorem Padded.operands (h : Padded a b) :
    List.Forall₂ (PaddedIn a.kind) (a.children.filter isOperand)
      (b.children.filter isOperand) :=
  List.rel_filter (fun _ _ hxy => Bool.eq_iff_iff.mp hxy.isOperand_eq) h.children

/-- Parentheses that stood in the tree before come off first. None are added inside them, so
    what they hold is padded as it stands. -/
theorem Padded.unwrap (h : Padded a b) : Padded a.unwrap b.unwrap := by
  refine unwrap_rel (fun hxy => by rw [hxy.kind_eq]) ?_ h
  intro a b hpadded hkind
  exact hpadded.operands.imp fun _ _ hxy => hxy.plain (by rw [hkind]; rfl)

/-- Without parentheses, a child and what stands in its place are the same but for what is
    added further below. -/
theorem PaddedIn.unwrap (h : PaddedIn parent a b) : Padded a.unwrap b.unwrap := by
  rcases h with ⟨core, hpadded, henclosed, _, rfl | ⟨hoperand, _⟩⟩
  · exact hpadded.unwrap
  · rw [henclosed.unwrap_eq (hpadded.isOperand_eq ▸ hoperand)]
    exact hpadded.unwrap

namespace Padded

theorem child? (h : Padded a b) (field : Field) :
    Option.Rel (fun x y => PaddedIn a.kind x y ∧ x.field = some field)
      (a.child? field) (b.child? field) :=
  child?_rel PaddedIn.field_eq h.children field

/-- A child in a place where no parentheses are added. -/
theorem child?_plain (h : Padded a b) (field : Field)
    (hseat : a.kind.seats (some field) = false) :
    Option.Rel Padded (a.child? field) (b.child? field) :=
  rel_imp (h.child? field) fun hxy => hxy.1.plain (hxy.2 ▸ hseat)

/-- What is read of such a child. -/
theorem chars_child?_eq (h : Padded a b) (source : Source) (field : Field)
    (hseat : a.kind.seats (some field) = false) :
    Option.Rel (fun x y => source.chars x = source.chars y) (a.child? field) (b.child? field) :=
  rel_imp (h.child?_plain field hseat) fun hxy => hxy.chars_eq source

theorem operator_eq (h : Padded a b) (hseat : a.kind.seats (some .operator) = false) :
    a.operator = b.operator := by
  have hchild := h.child?_plain .operator hseat
  rw [operator, operator]
  generalize a.child? .operator = x, b.child? .operator = y at hchild
  cases hchild with
  | none => rfl
  | some hxy => exact congrArg Kind.name hxy.kind_eq

/-- The arguments of a call are held in a node of their own, and each may get parentheses
    there. -/
theorem arguments (h : Padded a b) (hkind : a.kind = .call) :
    List.Forall₂ (fun x y => Padded x.unwrap y.unwrap) a.arguments b.arguments :=
  arguments_rel (h.child?_plain .arguments (by rw [hkind]; rfl))
    fun hxy => hxy.operands.imp fun _ _ => PaddedIn.unwrap

theorem bindingName?_eq (h : Padded a b) : a.bindingName? = b.bindingName? := by
  rw [bindingName?, bindingName?, h.kind_eq]

theorem boundFunction? (h : Padded a b) :
    Option.Rel Padded a.boundFunction? b.boundFunction? := by
  rw [Node.boundFunction?, Node.boundFunction?, ← h.bindingName?_eq]
  cases hbinding : a.bindingName? with
  | none => exact .none
  | some field =>
      have hseat := seats_of_bindingName? (Option.isSome_of_eq_some hbinding) (some .value)
      have hvalue := h.child?_plain .value hseat
      generalize a.child? .value = x, b.child? .value = y at hvalue
      cases hvalue with
      | none => exact .none
      | @some x y hxy =>
          simp only [Option.filter_some, ← hxy.kind_eq]
          cases x.kind.isFunctionValue with
          | true => exact .some hxy
          | false => exact .none

theorem isSome_boundFunction?_eq (h : Padded a b) :
    a.boundFunction?.isSome = b.boundFunction?.isSome := by
  have hbound := h.boundFunction?
  generalize a.boundFunction? = x, b.boundFunction? = y at hbound
  cases hbound with
  | none => rfl
  | some _ => rfl

theorem isSeparate_eq (h : Padded a b) : a.isSeparate = b.isSeparate := by
  rw [isSeparate, isSeparate, h.kind_eq, h.isSome_boundFunction?_eq]

theorem abreast (h : Padded a b) : Abreast Padded a.children b.children := by
  have hchildren := h.children
  generalize a.children = nodes, b.children = images at hchildren
  induction hchildren with
  | nil => exact .nil
  | cons hxy _ ih =>
      rcases hxy with ⟨core, hpadded, henclosed, _⟩
      exact henclosed.abreast hpadded ih

/-- A tree means the same to a walk as the tree with parentheses added. -/
def agreement (source : Source) : Agreement source source where
  Agrees := Padded
  isSeparate_eq h := h.isSeparate_eq
  kind_eq h _ := h.kind_eq
  chars_eq h _ := h.chars_eq source
  property?_eq h hkind := Source.property?_eq_of_rel
    (h.chars_child?_eq source .property (by rw [hkind]; rfl))
  object_eq h hkind := by
    rw [Source.text?_eq_of_rel (h.chars_child?_eq source .object (by rw [hkind]; rfl))]
  operator_eq h hkind _ _ := by rw [h.operator_eq (seats_operator hkind)]
  operand h _ field := rel_imp (h.child? field) fun hxy => hxy.1.unwrap
  arguments h := h.arguments
  children h _ := h.abreast

end Padded

end Node

end Syntax

end Costwise
