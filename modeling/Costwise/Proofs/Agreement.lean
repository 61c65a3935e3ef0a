import Costwise.Proofs.Site
import Costwise.Proofs.Traversal
import Mathlib.Data.List.Forall2

/-!
# Trees That Mean the Same to a Walk

A walk asks a fixed set of questions at every node that it takes up: what is called,
which operator stands here, what number is on its right, which property is named. Two
trees get the same record if the questions have the same answers in both. They need not
be the same trees. One may be a copy of the other in another source, it may have more
parentheses, or it may differ inside definitions that the walk does not enter.

This file says once what it takes. An `Agreement` is a relation between the nodes of two
sources with a handful of conditions. Nodes that agree have the same kind, unless they
are separate and the walk does not enter them. The few texts that a walk reads are the
same. What is asked of an operand is asked of it without its parentheses, so there the
operands agree, and not where they stand. And a walk comes from nodes that agree to
children that agree, in the same order. On its way it may take up comments, tokens and
parentheses in one of the trees that are not in the other: `Abreast` says which, and a
walk learns nothing from them.

Whoever has such a relation need not look at the questions any more.
`Agreement.foldlM_reached` says that the two walks find the same things, and
`Agreement.record_eq` that two functions get the same record.

## Main definitions

* `Node.isFiller`: A token or a comment, with nothing below it.
* `Node.Abreast`: Two rows of trees with nodes that are related, and fillers and
  parentheses between them.
* `Agreement`: A relation between nodes that mean the same to a walk.

## Theorems

* `Node.unwrap_eq`: Parentheses come off a node by its sole operand.
* `Node.unwrap_rel`: They come off related nodes in the same way.
* `Node.child?_rel`: Related rows have related children under every field.
* `Body.foldlM_reached_of_isFiller`, `Body.foldlM_reached_of_parenthesized`: A walk
  learns nothing from fillers and parentheses.
* `Agreement.findings_eq`: Nodes that agree mean the same.
* `Agreement.foldlM_reached`: Two walks find the same things.
* `Agreement.record_eq`: Two functions have the same record.
-/

namespace Costwise

open Syntax

namespace Syntax.Node

/-! Parentheses, and what is related by its parts. -/

theorem unwrapSole_eq (nodes : List Node) :
    unwrapSole nodes = match nodes.filter isOperand with
      | [only] => some only.unwrap
      | _ => none := by
  induction nodes with
  | nil => rw [unwrapSole, List.filter_nil]
  | cons node rest ih =>
      rw [unwrapSole, List.filter_cons]
      cases node.isOperand with
      | false => exact ih
      | true =>
          rw [if_pos rfl, if_pos rfl]
          -- The function asks whether another operand follows, the filter collects them.
          cases hrest : rest.filter isOperand with
          | nil =>
              have hany : rest.any isOperand = false := by
                rw [← Bool.not_eq_true, List.any_eq_true]
                rintro ⟨found, hmem, hfound⟩
                exact absurd hfound (List.filter_eq_nil_iff.mp hrest found hmem)
              rw [hany, if_neg Bool.false_ne_true]
          | cons next others =>
              have hnext : next ∈ rest.filter isOperand := hrest ▸ List.mem_cons_self
              have hany : rest.any isOperand = true :=
                List.any_eq_true.mpr ⟨next, List.mem_filter.mp hnext⟩
              rw [hany, if_pos rfl]

theorem unwrap_eq (node : Node) :
    node.unwrap =
      if node.kind = .parenthesized then
        match node.children.filter isOperand with
        | [only] => only.unwrap
        | _ => node
      else node := by
  cases node with
  | mk entry children =>
      rw [unwrap, unwrapSole_eq]
      by_cases hkind : entry.kind = .parenthesized
      · rw [if_pos hkind, if_pos hkind]
        cases children.filter isOperand with
        | nil => rfl
        | cons first rest =>
            cases rest with
            | nil => rfl
            | cons => rfl
      · rw [if_neg hkind, if_neg hkind]

variable {R : Node → Node → Prop} {a b : Node}

/-- Parentheses come off related nodes in the same way, if related parentheses hold
    related operands. -/
theorem unwrap_rel
    (hkind : ∀ {a b}, R a b → (a.kind = .parenthesized ↔ b.kind = .parenthesized))
    (hoperands : ∀ {a b}, R a b → a.kind = .parenthesized →
      List.Forall₂ R (a.children.filter isOperand) (b.children.filter isOperand))
    (h : R a b) : R a.unwrap b.unwrap := by
  induction a using Node.induction generalizing b with
  | step a ih =>
      rw [unwrap_eq a, unwrap_eq b]
      by_cases hparen : a.kind = .parenthesized
      · rw [if_pos hparen, if_pos ((hkind h).mp hparen)]
        have hmem : ∀ x ∈ a.children.filter isOperand, x ∈ a.children :=
          fun x hx => (List.mem_filter.mp hx).1
        have hrel := hoperands h hparen
        generalize a.children.filter isOperand = operands at hmem hrel
        generalize b.children.filter isOperand = others at hrel
        -- As many operands stand in one pair of parentheses as in the other.
        cases hrel with
        | nil => exact h
        | cons hfirst hrest =>
            cases hrest with
            | nil => exact ih _ (hmem _ List.mem_cons_self) hfirst
            | cons => exact h
      · rw [if_neg hparen, if_neg ((hkind h).not.mp hparen)]
        exact h

/-- Nodes whose children are related one by one have related children under a field. -/
theorem child?_rel (hfield : ∀ {x y}, R x y → x.field = y.field)
    (h : List.Forall₂ R a.children b.children) (field : Field) :
    Option.Rel (fun x y => R x y ∧ x.field = some field) (a.child? field) (b.child? field) := by
  rw [child?, child?]
  generalize a.children = nodes, b.children = others at h
  induction h with
  | nil => exact .none
  | @cons x y _ _ hxy _ ih =>
      rw [List.find?_cons, List.find?_cons, ← hfield hxy]
      cases hfound : x.field == some field with
      | true => exact .some ⟨hxy, beq_iff_eq.mp hfound⟩
      | false => exact ih

theorem rel_imp {S : Node → Node → Prop} {x y : Option Node} (h : Option.Rel R x y)
    (himp : ∀ {a b}, R a b → S a b) : Option.Rel S x y := by
  cases h with
  | none => exact .none
  | some h => exact .some (himp h)

theorem rel_cases {x y : Option Node} (h : Option.Rel R x y) :
    (x = none ∧ y = none) ∨ ∃ a b, x = some a ∧ y = some b ∧ R a b := by
  cases h with
  | none => exact .inl ⟨rfl, rfl⟩
  | some h => exact .inr ⟨_, _, rfl, rfl, h⟩

/-- Calls with related argument lists have related arguments, if the lists have related
    operands. -/
theorem arguments_rel {S : Node → Node → Prop}
    (h : Option.Rel R (a.child? .arguments) (b.child? .arguments))
    (hoperands : ∀ {x y}, R x y →
      List.Forall₂ S (x.children.filter isOperand) (y.children.filter isOperand)) :
    List.Forall₂ S a.arguments b.arguments := by
  rw [arguments, arguments]
  generalize a.child? .arguments = x, b.child? .arguments = y at h
  cases h with
  | none => exact .nil
  | some hxy => exact hoperands hxy

/-- Nodes that are separate both or neither, and then of the same kind, agree on every
    kind that no separate definition has. -/
theorem kind_eq_iff (hsep : a.isSeparate = b.isSeparate)
    (heq : a.isSeparate = false → a.kind = b.kind) {kind : Kind} (hkind : kind ∉ separateKinds) :
    a.kind = kind ↔ b.kind = kind := by
  cases ha : a.isSeparate with
  | false => rw [heq ha]
  | true =>
      -- Both are separate, perhaps of different kinds, but neither is of this one.
      have hb : b.isSeparate = true := hsep ▸ ha
      constructor
      · intro h
        exact absurd (h ▸ kind_mem_separateKinds ha) hkind
      · intro h
        exact absurd (h ▸ kind_mem_separateKinds hb) hkind

theorem not_isSeparate_of_operator (h : a.kind = .binary ∨ a.kind = .compoundAssignment) :
    a.isSeparate = false := by
  refine not_isSeparate_of_kind ?_
  rcases h with h | h <;> rw [h] <;> decide

/-- The names of the kinds that a separate definition can have. None is an operator. -/
def separateNames : List String :=
  separateKinds.map Kind.name

/-! Tokens and comments. -/

/-- Whether a node is a comment or a token, with nothing below it. A token is called what
    it reads, so it is not called like a loop or a subscript. -/
def isFiller (node : Node) : Bool :=
  node.children.isEmpty &&
    (node.kind == .comment || !node.named && !node.kind.isLoop && node.kind != .subscript)

section Filler

variable {node : Node}

theorem isFiller_iff :
    node.isFiller = true ↔ node.children = [] ∧ (node.kind = .comment ∨
      node.named = false ∧ node.kind.isLoop = false ∧ node.kind ≠ .subscript) := by
  simp only [isFiller, Bool.and_eq_true, Bool.or_eq_true, List.isEmpty_iff, beq_iff_eq,
    Bool.not_eq_true', bne_iff_ne, and_assoc]

theorem isOperand_of_isFiller (h : node.isFiller = true) : node.isOperand = false := by
  rcases (isFiller_iff.mp h).2 with hkind | ⟨hnamed, _⟩
  · rw [isOperand, hkind]
    exact Bool.and_false _
  · rw [isOperand, hnamed, Bool.false_and]

end Filler

/-- Two rows of trees in which a walk meets related nodes, in the same order. Fillers may
    stand between them on either side, and on one side related nodes may be in
    parentheses. -/
inductive Abreast (R : Node → Node → Prop) : List Node → List Node → Prop
  /-- No trees. -/
  | nil : Abreast R [] []
  /-- Related nodes. -/
  | pair {x y : Node} {nodes images : List Node} (related : R x y)
      (rest : Abreast R nodes images) : Abreast R (x :: nodes) (y :: images)
  /-- A filler on the one side. -/
  | skip {x : Node} {nodes images : List Node} (filler : x.isFiller = true)
      (rest : Abreast R nodes images) : Abreast R (x :: nodes) images
  /-- A filler on the other side. -/
  | insert {y : Node} {nodes images : List Node} (filler : y.isFiller = true)
      (rest : Abreast R nodes images) : Abreast R nodes (y :: images)
  /-- Parentheses on the other side, with what is in them. -/
  | enclose {y : Node} {nodes images : List Node} (kind : y.kind = .parenthesized)
      (rest : Abreast R nodes (y.children ++ images)) : Abreast R nodes (y :: images)

theorem Abreast.inserts {fillers nodes images : List Node}
    (hfillers : ∀ filler ∈ fillers, filler.isFiller = true) (h : Abreast R nodes images) :
    Abreast R nodes (fillers ++ images) := by
  induction fillers with
  | nil => exact h
  | cons filler rest ih =>
      exact .insert (hfillers filler List.mem_cons_self)
        (ih fun later hlater => hfillers later (List.mem_cons_of_mem _ hlater))

theorem Abreast.of_forall₂ {nodes images : List Node} (h : List.Forall₂ R nodes images) :
    Abreast R nodes images := by
  induction h with
  | nil => exact .nil
  | cons related _ ih => exact .pair related ih

end Syntax.Node

/-! What is read of a child that may not be there. -/

section Reading

variable {s t : Source} {a b : Node}

theorem Syntax.Source.text?_eq_of_rel {x y : Option Node}
    (h : Option.Rel (fun x y => s.chars x = t.chars y) x y) : s.text? x = t.text? y := by
  cases h with
  | none => rfl
  | some h => exact congrArg String.ofList h

theorem Syntax.Source.property?_eq_of_rel
    (h : Option.Rel (fun x y => s.chars x = t.chars y) (a.child? .property) (b.child? .property)) :
    s.property? a = t.property? b := by
  rw [property?, property?]
  generalize a.child? .property = x, b.child? .property = y at h
  cases h with
  | none => rfl
  | some h => rw [Option.map_some, Option.map_some, h]

theorem Definition.nameAt_eq_of_rel {field : Field}
    (h : Option.Rel (fun x y => s.chars x = t.chars y) (a.child? field) (b.child? field)) :
    nameAt s a field = nameAt t b field := by
  rw [nameAt, nameAt]
  generalize a.child? field = x, b.child? field = y at h
  cases h with
  | none => rfl
  | some h => exact congrArg cleanName h

end Reading

namespace Body

variable (body : Body) (progress : Progress)

/-- A token or a comment means nothing to a walk. -/
theorem note_of_isFiller {stop : Node × Nat} (h : stop.1.isFiller = true) :
    body.note progress stop = .ok progress := by
  rcases Node.isFiller_iff.mp h with ⟨hchildren, hkind | ⟨_, hloop, hsubscript⟩⟩
  · simp only [note, findings, hkind]
    rfl
  · have hchild := Node.child?_of_children_eq_nil hchildren
    rw [note, hloop, if_neg Bool.false_ne_true, findings]
    split
    · -- Nothing is called.
      simp only [callFindings, Source.calleeName?, Node.callee?, hchild]
      rfl
    · -- There is no operator, and no operator is written with no character.
      rw [operatorFindings, Node.operator, hchild]
      rfl
    · rw [operatorFindings, Node.operator, hchild]
      rfl
    · -- No property is named, so none is that of an array.
      simp only [Source.property?, hchild, Option.map_none, Except.map, Progress.run,
        List.foldl_cons, List.foldl_nil, Progress.step, Progress.divideIf, Option.any_none,
        Bool.or_false, Bool.and_false]
    · exact absurd ‹_› hsubscript
    · rfl

theorem foldlM_reached_of_isFiller {node : Node} (h : node.isFiller = true) (depth : Nat) :
    (node.reached depth).foldlM body.note progress = .ok progress := by
  cases hsep : node.isSeparate with
  | true =>
      rw [Node.reached_of_isSeparate hsep]
      rfl
  | false =>
      rw [Node.reached_of_not_isSeparate hsep, (Node.isFiller_iff.mp h).1, List.flatMap_nil,
        List.foldlM_cons, body.note_of_isFiller progress h]
      rfl

/-- A walk takes up parentheses and goes on to what is in them. -/
theorem foldlM_reached_of_parenthesized {node : Node} (h : node.kind = .parenthesized)
    (depth : Nat) :
    (node.reached depth).foldlM body.note progress
      = (node.children.flatMap (Node.reached depth)).foldlM body.note progress := by
  have hsep : node.isSeparate = false := Node.not_isSeparate_of_kind (by rw [h]; decide)
  have hdepth : node.innerDepth depth = depth := by
    rw [Node.innerDepth, h]
    rfl
  have hnote : body.note progress (node, depth) = .ok progress := by
    simp only [note, findings, h]
    rfl
  rw [Node.reached_of_not_isSeparate hsep, hdepth, List.foldlM_cons, hnote]
  rfl

end Body

/-- Walks through two rows find the same things if they do so in related nodes. -/
theorem Syntax.Node.Abreast.foldlM_reached {R : Node → Node → Prop} {body other : Body}
    {depth : Nat} {nodes images : List Node} (h : Abreast R nodes images)
    (hR : ∀ x ∈ nodes, ∀ y, R x y → ∀ progress,
      (x.reached depth).foldlM body.note progress
        = (y.reached depth).foldlM other.note progress)
    (progress : Progress) :
    (nodes.flatMap (reached depth)).foldlM body.note progress
      = (images.flatMap (reached depth)).foldlM other.note progress := by
  induction h generalizing progress with
  | nil => rw [List.flatMap_nil, List.foldlM_nil, List.foldlM_nil]
  | pair related _ ih =>
      rw [List.flatMap_cons, List.flatMap_cons, List.foldlM_append, List.foldlM_append,
        hR _ List.mem_cons_self _ related]
      congr 1
      funext next
      exact ih (fun x hx => hR x (List.mem_cons_of_mem _ hx)) next
  | skip filler _ ih =>
      rw [List.flatMap_cons, List.foldlM_append, body.foldlM_reached_of_isFiller progress filler]
      exact ih (fun x hx => hR x (List.mem_cons_of_mem _ hx)) progress
  | insert filler _ ih =>
      rw [List.flatMap_cons, List.foldlM_append, other.foldlM_reached_of_isFiller progress filler]
      exact ih hR progress
  | enclose kind _ ih =>
      have hopened : ∀ progress, _ :=
        fun progress => other.foldlM_reached_of_parenthesized progress kind depth
      rw [ih hR progress, List.flatMap_append, List.flatMap_cons, List.foldlM_append,
        List.foldlM_append, hopened]

/-- A relation between nodes of two sources that mean the same to walks of functions with
    the same name and the same signals. -/
structure Agreement (s t : Source) where
  /-- Whether two nodes mean the same. -/
  Agrees : Node → Node → Prop
  /-- A walk enters both or neither. -/
  isSeparate_eq : ∀ {a b}, Agrees a b → a.isSeparate = b.isSeparate
  /-- What it enters is of the same kind. -/
  kind_eq : ∀ {a b}, Agrees a b → a.isSeparate = false → a.kind = b.kind
  /-- Names and numbers are read. -/
  chars_eq : ∀ {a b}, Agrees a b → a.kind = .identifier ∨ a.kind = .number →
    s.chars a = t.chars b
  /-- The property of a member is read. -/
  property?_eq : ∀ {a b}, Agrees a b → a.kind = .member → s.property? a = t.property? b
  /-- The object of a member is compared with one name. -/
  object_eq : ∀ {a b}, Agrees a b → a.kind = .member →
    (s.text? (a.child? .object) == "Math") = (t.text? (b.child? .object) == "Math")
  /-- Operators are looked up in lists of operators. -/
  operator_eq : ∀ {a b}, Agrees a b → a.kind = .binary ∨ a.kind = .compoundAssignment →
    ∀ operators : List String, (∀ name ∈ Node.separateNames, operators.contains name = false) →
      operators.contains a.operator = operators.contains b.operator
  /-- Operands agree without their parentheses. -/
  operand : ∀ {a b}, Agrees a b → a.isSeparate = false → ∀ field,
    Option.Rel (fun x y => Agrees x.unwrap y.unwrap) (a.child? field) (b.child? field)
  /-- So do arguments. -/
  arguments : ∀ {a b}, Agrees a b → a.kind = .call →
    List.Forall₂ (fun x y => Agrees x.unwrap y.unwrap) a.arguments b.arguments
  /-- A walk goes on to nodes that agree. -/
  children : ∀ {a b}, Agrees a b → a.isSeparate = false →
    Node.Abreast Agrees a.children b.children

namespace Agreement

variable {s t : Source} (A : Agreement s t) {a b : Node}

theorem kind_eq_iff (h : A.Agrees a b) {kind : Kind} (hkind : kind ∉ Node.separateKinds) :
    a.kind = kind ↔ b.kind = kind :=
  Node.kind_eq_iff (A.isSeparate_eq h) (A.kind_eq h) hkind

theorem beq_kind_eq (h : A.Agrees a b) {kind : Kind} (hkind : kind ∉ Node.separateKinds) :
    (a.kind == kind) = (b.kind == kind) := by
  rw [Bool.eq_iff_iff, beq_iff_eq, beq_iff_eq]
  exact A.kind_eq_iff h hkind

/-! What is read off an expression. -/

theorem number_eq (h : A.Agrees a.unwrap b.unwrap) : s.number a = t.number b := by
  have hkind := A.kind_eq_iff h (show Kind.number ∉ Node.separateKinds by decide)
  rw [Source.number, Source.number]
  by_cases hnumber : a.unwrap.kind = .number
  · rw [if_pos hnumber, if_pos (hkind.mp hnumber), A.chars_eq h (.inr hnumber)]
  · rw [if_neg hnumber, if_neg (hkind.not.mp hnumber)]

theorem number?_child_eq (h : A.Agrees a b) (hsep : a.isSeparate = false) (field : Field) :
    s.number? (a.child? field) = t.number? (b.child? field) := by
  have hoperand := A.operand h hsep field
  generalize a.child? field = x, b.child? field = y at hoperand
  cases hoperand with
  | none => rfl
  | some hxy => exact A.number_eq hxy

theorem isOffsetByOne_eq (h : A.Agrees a.unwrap b.unwrap) :
    s.isOffsetByOne a = t.isOffsetByOne b := by
  have hkind := A.kind_eq_iff h (show Kind.binary ∉ Node.separateKinds by decide)
  simp only [Source.isOffsetByOne]
  by_cases hbinary : a.unwrap.kind = .binary
  · have hsep : a.unwrap.isSeparate = false := Node.not_isSeparate_of_kind (hbinary ▸ by decide)
    have hsign : (a.unwrap.operator = "+" ∨ a.unwrap.operator = "-") ↔
        (b.unwrap.operator = "+" ∨ b.unwrap.operator = "-") := by
      have hsigns := A.operator_eq h (.inl hbinary) ["+", "-"] (by decide)
      have hmem : ∀ name : String, ["+", "-"].contains name = true ↔ name = "+" ∨ name = "-" := by
        intro name
        rw [List.contains_iff_mem, List.mem_pair]
      rw [← hmem, ← hmem, hsigns]
    simp only [hbinary, hkind.mp hbinary, hsign, A.number?_child_eq h hsep]
  · rw [if_neg fun hsum => hbinary hsum.1, if_neg fun hsum => hbinary (hkind.mpr hsum.1)]

theorem anyOffsetByOne_eq {nodes images : List Node}
    (h : List.Forall₂ (fun x y => A.Agrees x.unwrap y.unwrap) nodes images) :
    s.anyOffsetByOne nodes = t.anyOffsetByOne images := by
  induction h with
  | nil => rfl
  | cons hxy _ ih => rw [Source.anyOffsetByOne, Source.anyOffsetByOne, A.isOffsetByOne_eq hxy, ih]

theorem text_eq (h : A.Agrees a b) (hkind : a.kind = .identifier) : s.text a = t.text b := by
  rw [Source.text, Source.text, A.chars_eq h (.inl hkind)]

theorem callee? (h : A.Agrees a b) (hsep : a.isSeparate = false) :
    Option.Rel A.Agrees a.callee? b.callee? := by
  have hoperand := A.operand h hsep .callee
  rw [Node.callee?, Node.callee?]
  generalize a.child? .callee = x, b.child? .callee = y at hoperand
  cases hoperand with
  | none => exact .none
  | some hxy => exact .some hxy

/-- What is called, by the three things that it can be. -/
theorem callee?_cases (h : A.Agrees a b) (hsep : a.isSeparate = false) :
    (a.callee? = none ∧ b.callee? = none) ∨
      ∃ x y, a.callee? = some x ∧ b.callee? = some y ∧ A.Agrees x y ∧
        (x.kind = .identifier ∧ y.kind = .identifier ∧ s.text x = t.text y ∨
          x.kind = .member ∧ y.kind = .member ∧ s.property? x = t.property? y ∨
          (x.kind ≠ .identifier ∧ x.kind ≠ .member) ∧ y.kind ≠ .identifier ∧ y.kind ≠ .member) := by
  rcases Node.rel_cases (A.callee? h hsep) with hnone | ⟨x, y, ha, hb, hxy⟩
  · exact .inl hnone
  · have hname := A.kind_eq_iff hxy (show Kind.identifier ∉ Node.separateKinds by decide)
    have hmember := A.kind_eq_iff hxy (show Kind.member ∉ Node.separateKinds by decide)
    refine .inr ⟨x, y, ha, hb, hxy, ?_⟩
    by_cases hx : x.kind = .identifier
    · exact .inl ⟨hx, hname.mp hx, A.text_eq hxy hx⟩
    · by_cases hx' : x.kind = .member
      · exact .inr (.inl ⟨hx', hmember.mp hx', A.property?_eq hxy hx'⟩)
      · exact .inr (.inr ⟨⟨hx, hx'⟩, hname.not.mp hx, hmember.not.mp hx'⟩)

theorem calleeName?_eq (h : A.Agrees a b) (hsep : a.isSeparate = false) :
    s.calleeName? a = t.calleeName? b := by
  rw [Source.calleeName?, Source.calleeName?]
  rcases A.callee?_cases h hsep with ⟨ha, hb⟩ | ⟨x, y, ha, hb, _, hcase⟩
  · rw [ha, hb]
  · rw [ha, hb]
    rcases hcase with ⟨hx, hy, htext⟩ | ⟨hx, hy, hproperty⟩ | ⟨⟨hx, hx'⟩, hy, hy'⟩
    · simp only [if_pos hx, if_pos hy, htext]
    · simp only [hx, hy, reduceCtorEq, if_false, if_true, hproperty]
    · simp only [if_neg hx, if_neg hx', if_neg hy, if_neg hy']

theorem isMethodCall_eq (h : A.Agrees a b) (hsep : a.isSeparate = false) :
    Source.isMethodCall a = Source.isMethodCall b := by
  rw [Source.isMethodCall, Source.isMethodCall]
  rcases A.callee?_cases h hsep with ⟨ha, hb⟩ | ⟨x, y, ha, hb, hxy, _⟩
  · rw [ha, hb]
  · rw [ha, hb, Option.any_some, Option.any_some]
    exact A.beq_kind_eq hxy (by decide)

theorem isRoundingCall_eq (h : A.Agrees a b) (hsep : a.isSeparate = false) :
    s.isRoundingCall a = t.isRoundingCall b := by
  rw [Source.isRoundingCall, Source.isRoundingCall]
  rcases A.callee?_cases h hsep with ⟨ha, hb⟩ | ⟨x, y, ha, hb, hxy, hcase⟩
  · rw [ha, hb]
  · rw [ha, hb]
    rcases hcase with ⟨hx, hy, _⟩ | ⟨hx, hy, hproperty⟩ | ⟨⟨_, hx⟩, _, hy⟩
    · simp only [hx, hy]
      rfl
    · simp only [hx, hy, A.object_eq hxy hx, hproperty]
    · simp only [beq_eq_false_iff_ne.mpr hx, beq_eq_false_iff_ne.mpr hy, Bool.false_and]

/-- The object is not read here, only whether it is the word for the receiver. -/
theorem isReceiver_eq (h : A.Agrees a b) (hsep : a.isSeparate = false) :
    ((a.child? .object).map Node.unwrap).any (·.kind == .this)
      = ((b.child? .object).map Node.unwrap).any (·.kind == .this) := by
  have hoperand := A.operand h hsep .object
  generalize a.child? .object = x, b.child? .object = y at hoperand
  cases hoperand with
  | none => rfl
  | some hxy => exact A.beq_kind_eq hxy (by decide)

theorem isSelfCall_eq (h : A.Agrees a b) (hsep : a.isSeparate = false) (name : String) :
    s.isSelfCall name a = t.isSelfCall name b := by
  rw [Source.isSelfCall, Source.isSelfCall]
  rcases A.callee?_cases h hsep with ⟨ha, hb⟩ | ⟨x, y, ha, hb, hxy, hcase⟩
  · rw [ha, hb]
  · rw [ha, hb]
    rcases hcase with ⟨hx, hy, htext⟩ | ⟨hx, hy, hproperty⟩ | ⟨⟨hx, hx'⟩, hy, hy'⟩
    · simp only [if_pos hx, if_pos hy, htext]
    · have hmember : x.isSeparate = false := Node.not_isSeparate_of_kind (hx ▸ by decide)
      simp only [hx, hy, reduceCtorEq, if_false, A.isReceiver_eq hxy hmember, hproperty]
    · simp only [if_neg hx, if_neg hy, beq_eq_false_iff_ne.mpr hx', beq_eq_false_iff_ne.mpr hy',
        Bool.false_and]

/-! What a walk makes of nodes that agree. -/

section Walk

variable (name : String) (signals : Signals)

theorem callFindings_eq (h : A.Agrees a b) (hkind : a.kind = .call) :
    Body.callFindings ⟨s, name, signals⟩ a = Body.callFindings ⟨t, name, signals⟩ b := by
  have hsep : a.isSeparate = false := Node.not_isSeparate_of_kind (hkind ▸ by decide)
  have harguments := A.arguments h hkind
  have hnarrows : Body.narrowsRange ⟨s, name, signals⟩ a
      = Body.narrowsRange ⟨t, name, signals⟩ b := by
    rw [Body.narrowsRange, Body.narrowsRange, harguments.length_eq,
      A.anyOffsetByOne_eq harguments]
    rfl
  simp only [Body.callFindings, Body.selfCallFindings, A.calleeName?_eq h hsep,
    A.isSelfCall_eq h hsep, A.isMethodCall_eq h hsep, A.isRoundingCall_eq h hsep, hnarrows]

theorem operatorFindings_eq (h : A.Agrees a b)
    (hkind : a.kind = .binary ∨ a.kind = .compoundAssignment) (inLoop : Bool) :
    Body.operatorFindings ⟨s, name, signals⟩ a inLoop
      = Body.operatorFindings ⟨t, name, signals⟩ b inLoop := by
  have hsep := Node.not_isSeparate_of_operator hkind
  have hdivision := A.operator_eq h hkind Body.divisionOperators (by decide)
  have hcomparison := A.operator_eq h hkind Body.comparisonOperators (by decide)
  have hshift := A.operator_eq h hkind Body.shiftOperators (by decide)
  simp only [Body.operatorFindings, hdivision, hcomparison, hshift, A.number?_child_eq h hsep]

/-- Nodes that agree mean the same to walks of functions with the same name and the same
    signals. -/
theorem findings_eq (h : A.Agrees a b) (hsep : a.isSeparate = false) (inLoop : Bool) :
    Body.findings ⟨s, name, signals⟩ a inLoop = Body.findings ⟨t, name, signals⟩ b inLoop := by
  rw [Body.findings, Body.findings, ← A.kind_eq h hsep]
  split
  next hcall => exact A.callFindings_eq name signals h hcall
  next hbinary => exact A.operatorFindings_eq name signals h (.inl hbinary) inLoop
  next hassignment => exact A.operatorFindings_eq name signals h (.inr hassignment) inLoop
  next hmember => rw [A.property?_eq h hmember]
  next => rfl
  next => rfl

/-- Walks through trees that agree find the same things. They may take up different nodes,
    but at nodes that agree they have found as much. -/
theorem foldlM_reached (h : A.Agrees a b) (depth : Nat) (progress : Progress) :
    (a.reached depth).foldlM (Body.note ⟨s, name, signals⟩) progress
      = (b.reached depth).foldlM (Body.note ⟨t, name, signals⟩) progress := by
  induction a using Node.induction generalizing b depth progress with
  | step a ih =>
      have hsepeq := A.isSeparate_eq h
      cases hsep : a.isSeparate with
      | true =>
          rw [Node.reached_of_isSeparate hsep, Node.reached_of_isSeparate (hsepeq ▸ hsep),
            List.foldlM_nil, List.foldlM_nil]
      | false =>
          have hkind := A.kind_eq h hsep
          have hdepth : a.innerDepth depth = b.innerDepth depth := by
            rw [Node.innerDepth, Node.innerDepth, hkind]
          have hnote : Body.note ⟨s, name, signals⟩ progress (a, depth)
              = Body.note ⟨t, name, signals⟩ progress (b, depth) := by
            simp only [Body.note, hkind, A.findings_eq name signals h hsep]
          rw [Node.reached_of_not_isSeparate hsep,
            Node.reached_of_not_isSeparate (hsepeq ▸ hsep), List.foldlM_cons, List.foldlM_cons,
            hnote, hdepth]
          congr 1
          funext next
          exact (A.children h hsep).foldlM_reached
            (fun x hx y hxy progress => ih x hx hxy _ progress) next

end Walk

/-- Functions of the same name have the same record if their bodies agree and read the
    same. -/
theorem record_eq {d e : Definition} (hname : d.name = e.name) (hbody : A.Agrees d.body e.body)
    (hchars : s.chars d.body = t.chars e.body) : d.record s = e.record t := by
  rw [Definition.record_eq_foldlM, Definition.record_eq_foldlM, Definition.inside,
    Definition.inside, Source.text, Source.text, hname, hchars, A.foldlM_reached _ _ hbody]

end Agreement

end Costwise
