import Costwise.Proofs.Agreement

/-!
# Trees That Differ Inside Separate Definitions Only

Two programs are compared, each with its own source. `alike` says that two trees
are the same as long as nobody looks inside a separate definition: node by node
they have the same kind and cover the same bytes, once the bytes of separate
definitions are taken out, and where one has a separate definition, so has the
other. What such a definition is, what it holds and how long it is may differ.

Every question that a walk asks of an expression should then have the same
answer in both programs. It has, with one proviso. A question about a text is
answered from all the bytes of a node, and if a separate definition stood inside
a name, the name would not be the same. No grammar puts a function inside a name
or a number, but a tree is not made by a grammar here. `legible` is the proviso,
node by node, and `Clear` says it of everything that a walk takes up.

## Main definitions

* `Node.isWhole`: Whether a tree has no separate definition in it.
* `Source.bytesOutside`: The bytes of a node outside separate definitions.
* `Node.alike`: Whether two trees differ inside separate definitions only.
* `Source.legible`: Whether what is read at a node is outside of them.
* `Node.Clear`: Everything that a walk takes up in a tree is legible.
* `Node.Matched`: Two trees that are alike and clear.

## Theorems

* `alike_iff`: What it takes for two trees to be alike.
* `chars_eq_of_isWhole`: Whole trees that are alike have the same text.
* `Clear.child`: A clear tree has clear parts.
* `Matched.unwrap`: Parentheses come off trees that match in the same way.
* `Matched.agreement`: Trees that match mean the same to a walk.
-/

namespace Costwise

open Syntax

namespace Syntax

namespace Node

/-- Whether there is no separate definition in a tree. -/
def isWhole (node : Node) : Bool :=
  node.preorder.all fun inner => !inner.isSeparate

/-- Whether a byte belongs to a separate definition in a tree. -/
def covers (node : Node) (offset : Nat) : Bool :=
  node.preorder.any fun inner =>
    inner.isSeparate && decide (inner.start ≤ offset) && decide (offset < inner.stop)

end Node

/-- The bytes of a node that belong to no separate definition in it. -/
def Source.bytesOutside (source : Source) (node : Node) : List UInt8 :=
  ((List.range' node.start (node.stop - node.start)).filter fun offset =>
    !node.covers offset).filterMap fun offset => source.bytes[offset]?

namespace Node

mutual

/-- Whether two trees are the same outside separate definitions. The part that a
    definition plays in its parent counts as outside. -/
def alike (s t : Source) : Node → Node → Bool
  | ⟨entry, children⟩, other =>
    let node : Node := ⟨entry, children⟩
    node.field == other.field && node.named == other.named &&
      node.isSeparate == other.isSeparate &&
      (node.isSeparate ||
        node.kind == other.kind && s.bytesOutside node == t.bytesOutside other &&
          alikeAll s t children other.children)

/-- Whether two rows of trees are the same outside separate definitions. -/
def alikeAll (s t : Source) : List Node → List Node → Bool
  | [], [] => true
  | node :: nodes, other :: others => alike s t node other && alikeAll s t nodes others
  | _, _ => false

end

variable {s t : Source} {a b : Node}

theorem alikeAll_iff {nodes others : List Node} :
    alikeAll s t nodes others = true ↔
      List.Forall₂ (fun x y => alike s t x y = true) nodes others := by
  induction nodes generalizing others with
  | nil =>
      cases others with
      | nil => simp only [alikeAll, List.forall₂_nil_left_iff]
      | cons => simp only [alikeAll, List.forall₂_nil_left_iff, reduceCtorEq]
  | cons node rest ih =>
      cases others with
      | nil => simp only [alikeAll, List.forall₂_nil_right_iff, reduceCtorEq]
      | cons other others =>
          simp only [alikeAll, Bool.and_eq_true, List.forall₂_cons, ih]

theorem alike_iff :
    alike s t a b = true ↔
      a.field = b.field ∧ a.named = b.named ∧ a.isSeparate = b.isSeparate ∧
        (a.isSeparate = false → a.kind = b.kind ∧ s.bytesOutside a = t.bytesOutside b ∧
          List.Forall₂ (fun x y => alike s t x y = true) a.children b.children) := by
  cases a with
  | mk entry children =>
      rw [alike, ← alikeAll_iff]
      cases hsep : isSeparate ⟨entry, children⟩ with
      | true => simp [and_assoc]
      | false => simp [and_assoc]

theorem field_eq_of_alike (h : alike s t a b = true) : a.field = b.field :=
  (alike_iff.mp h).1

theorem isSeparate_eq_of_alike (h : alike s t a b = true) : a.isSeparate = b.isSeparate :=
  (alike_iff.mp h).2.2.1

theorem kind_eq_of_alike (h : alike s t a b = true) (hsep : a.isSeparate = false) :
    a.kind = b.kind :=
  ((alike_iff.mp h).2.2.2 hsep).1

theorem children_alike (h : alike s t a b = true) (hsep : a.isSeparate = false) :
    List.Forall₂ (fun x y => alike s t x y = true) a.children b.children :=
  ((alike_iff.mp h).2.2.2 hsep).2.2

/-- Trees that are alike agree on every kind that no separate definition has. -/
theorem kind_eq_iff_of_alike (h : alike s t a b = true) {kind : Kind}
    (hkind : kind ∉ separateKinds) : a.kind = kind ↔ b.kind = kind :=
  kind_eq_iff (isSeparate_eq_of_alike h) (kind_eq_of_alike h) hkind

theorem isOperand_eq_of_alike (h : alike s t a b = true) : a.isOperand = b.isOperand := by
  have hcomment := kind_eq_iff_of_alike h (show Kind.comment ∉ separateKinds by decide)
  rw [isOperand, isOperand, (alike_iff.mp h).2.1]
  by_cases hkind : a.kind = .comment
  · rw [hkind, hcomment.mp hkind]
  · rw [bne_iff_ne.mpr hkind, bne_iff_ne.mpr (hcomment.not.mp hkind)]

theorem isWhole_eq_all (node : Node) :
    node.isWhole = (!node.isSeparate && node.children.all isWhole) := by
  rw [isWhole, preorder_eq_flatMap, List.all_cons, List.all_flatMap]
  rfl

theorem isWhole_eq_of_alike (h : alike s t a b = true) : a.isWhole = b.isWhole := by
  induction a using Node.induction generalizing b with
  | step a ih =>
      rw [isWhole_eq_all a, isWhole_eq_all b, ← isSeparate_eq_of_alike h]
      cases hsep : a.isSeparate with
      | true => rfl
      | false =>
          have hchildren := children_alike h hsep
          generalize a.children = nodes at ih hchildren
          generalize b.children = others at hchildren
          congr 1
          induction hchildren with
          | nil => rfl
          | cons hxy _ ihrest =>
              rw [List.all_cons, List.all_cons, ih _ List.mem_cons_self hxy,
                ihrest fun child hmem => ih child (List.mem_cons_of_mem _ hmem)]

end Node

theorem filterMap_getElem?_range' (bytes : List UInt8) (start count : Nat) :
    (List.range' start count).filterMap (fun offset => bytes[offset]?)
      = (bytes.drop start).take count := by
  induction count generalizing start with
  | zero => rw [List.range'_zero, List.filterMap_nil, List.take_zero]
  | succ count ih =>
      rw [List.range'_succ, List.filterMap_cons, ih]
      -- Offsets behind the end of the source stand for no byte.
      by_cases hlt : start < bytes.length
      · rw [List.getElem?_eq_getElem hlt, List.drop_eq_getElem_cons hlt, List.take_succ_cons]
      · have hle : bytes.length ≤ start := Nat.le_of_not_lt hlt
        rw [List.getElem?_eq_none hle, List.drop_eq_nil_of_le hle,
          List.drop_eq_nil_of_le (Nat.le_succ_of_le hle), List.take_nil, List.take_nil]

namespace Source

theorem bytesOutside_of_isWhole {source : Source} {node : Node} (h : node.isWhole = true) :
    source.bytesOutside node = (source.bytes.extract node.start node.stop).toList := by
  have hcovers : ∀ offset, node.covers offset = false := by
    intro offset
    rw [Node.covers, List.any_eq_false]
    intro inner hinner
    have hsep := List.all_eq_true.mp h inner hinner
    rw [Bool.not_eq_true'] at hsep
    rw [hsep, Bool.false_and, Bool.false_and]
    exact Bool.false_ne_true
  have hall : ∀ offset ∈ List.range' node.start (node.stop - node.start),
      (!node.covers offset) = true := by
    intro offset _
    rw [hcovers offset, Bool.not_false]
  have hbytes : (fun offset : Nat => source.bytes[offset]?)
      = fun offset => source.bytes.toList[offset]? := by
    funext offset
    rw [Array.getElem?_toList]
  rw [bytesOutside, List.filter_eq_self.mpr hall, hbytes, filterMap_getElem?_range',
    Array.toList_extract, List.extract_eq_take_drop]

variable {s t : Source} {a b : Node}

theorem chars_eq_of_isWhole (h : Node.alike s t a b = true) (hwhole : a.isWhole = true) :
    s.chars a = t.chars b := by
  have hother : b.isWhole = true := Node.isWhole_eq_of_alike h ▸ hwhole
  have hsep : a.isSeparate = false := by
    rw [Node.isWhole_eq_all, Bool.and_eq_true, Bool.not_eq_true'] at hwhole
    exact hwhole.1
  rw [chars, chars, slice, slice, ← bytesOutside_of_isWhole hwhole,
    ← bytesOutside_of_isWhole hother, ((Node.alike_iff.mp h).2.2.2 hsep).2.1]

/-- Whether what is read at a node stands outside separate definitions. A name and
    a number are read whole. Of a member the property is read, and its object is
    compared with one name. The arguments of a call are counted. -/
def legible (source : Source) (node : Node) : Bool :=
  match node.kind with
  | .identifier | .number => node.isWhole
  | .member =>
    (node.child? .property).all Node.isWhole &&
      (node.child? .object).all fun object => source.text object != "Math" || object.isWhole
  | .call => (node.child? .arguments).all (!·.isSeparate)
  | _ => true

end Source

namespace Node

/-- Everything that a walk takes up in a tree is legible. -/
def Clear (source : Source) (node : Node) : Prop :=
  ∀ found ∈ (node.reached 0).map (·.1), source.legible found = true

namespace Clear

variable {source : Source} {node inner : Node}

theorem legible (h : Clear source node) (hsep : node.isSeparate = false) :
    source.legible node = true := by
  refine h node ?_
  rw [reached_of_not_isSeparate hsep, List.map_cons]
  exact List.mem_cons_self

theorem child (h : Clear source node) (hsep : node.isSeparate = false)
    (hinner : inner ∈ node.children) : Clear source inner := by
  intro found hfound
  refine h found (mem_map_fst_reached_iff.mpr ?_)
  exact exists_clear_lineage_of_child hsep hinner (mem_map_fst_reached_iff.mp hfound)

end Clear

/-- Two trees that are alike and clear, each in its own source. -/
structure Matched (s t : Source) (a b : Node) : Prop where
  /-- They differ inside separate definitions only. -/
  alike : alike s t a b = true
  /-- The first can be read. -/
  left : Clear s a
  /-- The second can be read. -/
  right : Clear t b

namespace Matched

theorem isSeparate_eq (h : Matched s t a b) : a.isSeparate = b.isSeparate :=
  isSeparate_eq_of_alike h.alike

theorem children (h : Matched s t a b) (hsep : a.isSeparate = false) :
    List.Forall₂ (Matched s t) a.children b.children := by
  have hother : b.isSeparate = false := h.isSeparate_eq ▸ hsep
  have hleft : ∀ x ∈ a.children, Clear s x := fun x => h.left.child hsep
  have hright : ∀ y ∈ b.children, Clear t y := fun y => h.right.child hother
  have hchildren := children_alike h.alike hsep
  generalize a.children = nodes at hleft hchildren
  generalize b.children = others at hright hchildren
  induction hchildren with
  | nil => exact .nil
  | cons hxy _ ih =>
      refine .cons ⟨hxy, hleft _ List.mem_cons_self, hright _ List.mem_cons_self⟩ (ih ?_ ?_)
      · exact fun x hx => hleft x (List.mem_cons_of_mem _ hx)
      · exact fun y hy => hright y (List.mem_cons_of_mem _ hy)

theorem child? (h : Matched s t a b) (hsep : a.isSeparate = false) (field : Field) :
    Option.Rel (Matched s t) (a.child? field) (b.child? field) :=
  rel_imp (child?_rel (fun hxy => field_eq_of_alike hxy.alike) (h.children hsep) field)
    fun hxy => hxy.1

theorem operands (h : Matched s t a b) (hsep : a.isSeparate = false) :
    List.Forall₂ (Matched s t) (a.children.filter isOperand) (b.children.filter isOperand) :=
  List.rel_filter (fun _ _ hxy => Bool.eq_iff_iff.mp (isOperand_eq_of_alike hxy.alike))
    (h.children hsep)

theorem unwrap (h : Matched s t a b) : Matched s t a.unwrap b.unwrap := by
  refine unwrap_rel (fun hxy => kind_eq_iff_of_alike hxy.alike (by decide)) ?_ h
  intro a b hmatched hkind
  exact hmatched.operands (not_isSeparate_of_kind (hkind ▸ by decide))

/-- What is read of a name or a number is outside separate definitions. -/
theorem chars_eq (h : Matched s t a b) (hkind : a.kind = .identifier ∨ a.kind = .number) :
    s.chars a = t.chars b := by
  have hsep : a.isSeparate = false := by
    refine not_isSeparate_of_kind ?_
    rcases hkind with hkind | hkind <;> rw [hkind] <;> decide
  have hlegible := h.left.legible hsep
  have hwhole : a.isWhole = true := by
    rcases hkind with hkind | hkind <;> simpa only [Source.legible, hkind] using hlegible
  exact Source.chars_eq_of_isWhole h.alike hwhole

theorem property?_eq (h : Matched s t a b) (hkind : a.kind = .member) :
    s.property? a = t.property? b := by
  have hsep : a.isSeparate = false := not_isSeparate_of_kind (hkind ▸ by decide)
  have hlegible := h.left.legible hsep
  have hchild := h.child? hsep .property
  simp only [Source.legible, hkind, Bool.and_eq_true] at hlegible
  refine Source.property?_eq_of_rel ?_
  generalize a.child? .property = x, b.child? .property = y at hchild hlegible
  cases hchild with
  | none => exact .none
  | some hxy => exact .some (Source.chars_eq_of_isWhole hxy.alike hlegible.1)

/-- Members that match agree on whether their object is the one that rounds. -/
theorem object_eq (h : Matched s t a b) (hkind : a.kind = .member) :
    (s.text? (a.child? .object) == "Math") = (t.text? (b.child? .object) == "Math") := by
  have hsep : a.isSeparate = false := not_isSeparate_of_kind (hkind ▸ by decide)
  have hother : b.isSeparate = false := h.isSeparate_eq ▸ hsep
  have hmember : b.kind = .member := kind_eq_of_alike h.alike hsep ▸ hkind
  have hleft := h.left.legible hsep
  have hright := h.right.legible hother
  have hchild := h.child? hsep .object
  simp only [Source.legible, hkind, Bool.and_eq_true] at hleft
  simp only [Source.legible, hmember, Bool.and_eq_true] at hright
  replace hleft := hleft.2
  replace hright := hright.2
  generalize a.child? .object = x, b.child? .object = y at hchild hleft hright
  cases hchild with
  | none => rfl
  | @some x y hxy =>
      simp only [Option.all_some, Bool.or_eq_true, bne_iff_ne] at hleft hright
      rw [Source.text?, Source.text?, Bool.eq_iff_iff, beq_iff_eq, beq_iff_eq]
      -- A definition in one object would be in the other, and then neither is the name.
      by_cases hwhole : x.isWhole = true
      · rw [Source.text, Source.text, Source.chars_eq_of_isWhole hxy.alike hwhole]
      · have hnot : ¬y.isWhole = true := isWhole_eq_of_alike hxy.alike ▸ hwhole
        exact iff_of_false (hleft.resolve_right hwhole) (hright.resolve_right hnot)

/-- Trees that match have the same operator, unless a definition stands in the place of the
    operator in both, and then neither has one. -/
theorem operator_eq (h : Matched s t a b) (hsep : a.isSeparate = false)
    {operators : List String} (hnames : ∀ name ∈ separateNames, operators.contains name = false) :
    operators.contains a.operator = operators.contains b.operator := by
  have hchild := h.child? hsep .operator
  rw [operator, operator]
  generalize a.child? .operator = x, b.child? .operator = y at hchild
  cases hchild with
  | none => rfl
  | @some x y hxy =>
      cases hx : x.isSeparate with
      | false => simp only [kind_eq_of_alike hxy.alike hx]
      | true =>
          have hy : y.isSeparate = true := hxy.isSeparate_eq ▸ hx
          have hnone : ∀ node : Node, node.isSeparate = true →
              operators.contains node.kind.name = false :=
            fun node hnode => hnames _ (List.mem_map_of_mem (kind_mem_separateKinds hnode))
          exact (hnone x hx).trans (hnone y hy).symm

theorem arguments (h : Matched s t a b) (hkind : a.kind = .call) :
    List.Forall₂ (Matched s t) a.arguments b.arguments := by
  have hsep : a.isSeparate = false := not_isSeparate_of_kind (hkind ▸ by decide)
  have hlegible := h.left.legible hsep
  have hchild := h.child? hsep .arguments
  simp only [Source.legible, hkind] at hlegible
  have hlist : Option.Rel (fun x y => Matched s t x y ∧ x.isSeparate = false)
      (a.child? .arguments) (b.child? .arguments) := by
    generalize a.child? .arguments = x, b.child? .arguments = y at hchild hlegible
    cases hchild with
    | none => exact .none
    | some hxy =>
        rw [Option.all_some, Bool.not_eq_true'] at hlegible
        exact .some ⟨hxy, hlegible⟩
  exact arguments_rel hlist fun hxy => hxy.1.operands hxy.2

/-- Trees that match mean the same to a walk. -/
def agreement (s t : Source) : Agreement s t where
  Agrees := Matched s t
  isSeparate_eq h := h.isSeparate_eq
  kind_eq h := kind_eq_of_alike h.alike
  chars_eq h := h.chars_eq
  property?_eq h := h.property?_eq
  object_eq h := h.object_eq
  operator_eq h hkind _ := h.operator_eq (not_isSeparate_of_operator hkind)
  operand h hsep field := rel_imp (h.child? hsep field) unwrap
  arguments h hkind := (h.arguments hkind).imp fun _ _ => unwrap
  children h hsep := .of_forall₂ (h.children hsep)

end Matched

end Node

end Syntax

end Costwise
