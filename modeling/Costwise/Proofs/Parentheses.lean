import Costwise.Proofs.Padding
import Costwise.Report.Basic

/-!
# Redundant Parentheses

Parentheses around what is called, around the right operand of an operator or around
an argument mean nothing, and every question about an expression looks through them.
Each question does so on its own, and a walk that meets the parentheses does not look
through anything: it takes them up as nodes. So that they change nothing is a fact
about all the questions and about the walk, and not about one function that removes
them.

A tree agrees with every tree that comes of it by adding such parentheses, so a function
and its padded form have the same record. What remains is the search for functions. It
goes by the fields of children and claims what they hold, so it must not meet parentheses
where it expects a function. It does not, because no place for redundant parentheses is
among those that it looks at (`claim?_padded`), and in parentheses it finds what it finds
in the operand (`Enclosed.locate_eq`).

## Main definitions

* `Definition.Padded`: A function with parentheses added to it.

## Theorems

* `Enclosed.locate_eq`: A search finds nothing more in parentheses.
* `Definition.Padded.record_eq`: A function and its padded form have the same record.
* `Definition.claim?_padded`: The same functions are claimed.
* `Definition.locate_padded`: The same functions are found.
* `definitions_padded`: The functions of a padded program have the same records.
-/

namespace Costwise

open Syntax

/-- A search finds in parentheses what it finds in the operand. -/
theorem Syntax.Node.Enclosed.locate_eq {core image : Node} (h : Enclosed core image)
    (source : Source) (anonymous : String) :
    Definition.locate source anonymous true image
      = Definition.locate source anonymous true core := by
  have hnone : ∀ fillers : List Node, (∀ filler ∈ fillers, filler.isFiller = true) →
      fillers.flatMap (Definition.locate source anonymous true) = [] := by
    intro fillers hfillers
    rw [List.flatMap_eq_nil_iff]
    intro filler hfiller
    have hchildren := (isFiller_iff.mp (hfillers filler hfiller)).1
    exact Definition.locate_of_children_eq_nil source anonymous true hchildren
  induction h with
  | bare => rfl
  | @within entry before after inner kind _ opening closing _ ih =>
      have hsep : isSeparate ⟨entry, before ++ inner :: after⟩ = false :=
        not_isSeparate_of_kind (by rw [kind]; decide)
      have hof := Definition.ofNode?_of_not_isSeparate source anonymous hsep
      have hbinds : (boundFunction? ⟨entry, before ++ inner :: after⟩).isSome = false := by
        rw [boundFunction?, bindingName?, kind]
        rfl
      rw [Definition.locate_eq_append, hof, markedChildren, hbinds, marked_false, List.flatMap_map]
      change (before ++ inner :: after).flatMap (Definition.locate source anonymous true) = _
      rw [List.flatMap_append, List.flatMap_cons, hnone before opening, hnone after closing,
        List.nil_append, List.append_nil, ih]

namespace Definition

/-- A function and the same function with parentheses added to it. -/
structure Padded (definition image : Definition) : Prop where
  /-- The name stays. -/
  name : image.name = definition.name
  /-- The function. -/
  function : Node.Padded definition.function image.function
  /-- Its body. -/
  body : Node.Padded definition.body image.body

/-- A function and its padded form have the same record. -/
theorem Padded.record_eq {definition image : Definition} (h : Padded definition image)
    (source : Source) : image.record source = definition.record source := by
  symm
  exact (Node.Padded.agreement source).record_eq h.name.symm h.body (h.body.chars_eq source)

theorem Padded.lines_eq {definition image : Definition} (h : Padded definition image)
    (source : Source) :
    image.startLine source = definition.startLine source ∧
      image.endLine source = definition.endLine source := by
  rw [startLine, startLine, endLine, endLine]
  cases h.function with
  | node _ _ start stop _ => exact ⟨congrArg source.line start, congrArg source.line stop⟩

theorem Padded.verdict_eq {definition image : Definition} (h : Padded definition image)
    (source : Source) : image.verdict source = definition.verdict source := by
  rw [verdict, verdict, h.record_eq, h.name, (h.lines_eq source).1, (h.lines_eq source).2]

variable {a b : Node} (source : Source) (anonymous : String)

theorem claim?_of_unbound {node : Node}
    (hdeclares : ¬(node.kind.isDeclaration || node.kind == .method) = true)
    (h : node.boundFunction? = none) :
    claim? source anonymous node = if node.kind = .arrow then some (anonymous, node) else none := by
  rw [claim?, if_neg hdeclares, h]
  cases node.bindingName? with
  | none => rfl
  | some field => rfl

theorem claim?_of_bound {node function : Node} {field : Field}
    (hdeclares : ¬(node.kind.isDeclaration || node.kind == .method) = true)
    (hname : node.bindingName? = some field) (h : node.boundFunction? = some function) :
    claim? source anonymous node = some (nameAt source node field, function) := by
  rw [claim?, if_neg hdeclares, hname, h]

/-- What a node claims. No function has a place for redundant parentheses among its own
    children, so its body is padded as it stands. -/
theorem claim?_padded (h : Node.Padded a b) :
    (claim? source anonymous a = none ∧ claim? source anonymous b = none) ∨
      ∃ name x y, claim? source anonymous a = some (name, x) ∧
        claim? source anonymous b = some (name, y) ∧ Node.Padded x y ∧
          x.kind.seats (some .body) = false := by
  have hkind := h.kind_eq
  by_cases hdeclares : (a.kind.isDeclaration || a.kind == .method) = true
  · have hseat := Kind.seats_of_declares hdeclares
    refine .inr ⟨nameAt source a .name, a, b, ?_, ?_, h, hseat _⟩
    · rw [claim?, if_pos hdeclares]
    · rw [claim?, ← hkind, if_pos hdeclares,
        nameAt_eq_of_rel (h.chars_child?_eq source .name (hseat _))]
  · have hother : ¬(b.kind.isDeclaration || b.kind == .method) = true := hkind ▸ hdeclares
    rcases Node.rel_cases h.boundFunction? with ⟨ha, hb⟩ | ⟨x, y, ha, hb, hxy⟩
    · rw [claim?_of_unbound source anonymous hdeclares ha,
        claim?_of_unbound source anonymous hother hb, ← hkind]
      by_cases harrow : a.kind = .arrow
      · rw [if_pos harrow, if_pos harrow]
        exact .inr ⟨anonymous, a, b, rfl, rfl, h, by rw [harrow]; rfl⟩
      · rw [if_neg harrow, if_neg harrow]
        exact .inl ⟨rfl, rfl⟩
    · rcases Node.boundFunction?_eq_some_iff.mp ha with ⟨hbinds, _, hfunction⟩
      rcases Option.isSome_iff_exists.mp hbinds with ⟨field, hfield⟩
      have hname : b.bindingName? = some field := h.bindingName?_eq ▸ hfield
      have hseat := Node.seats_of_bindingName? hbinds (some field)
      rw [claim?_of_bound source anonymous hdeclares hfield ha,
        claim?_of_bound source anonymous hother hname hb,
        nameAt_eq_of_rel (h.chars_child?_eq source field hseat)]
      exact .inr ⟨_, x, y, rfl, rfl, hxy, Kind.seats_of_isFunctionValue hfunction (some .body)⟩

theorem ofNode?_padded (h : Node.Padded a b) :
    List.Forall₂ Padded (ofNode? source anonymous a).toList
      (ofNode? source anonymous b).toList := by
  rw [ofNode?, ofNode?]
  rcases claim?_padded source anonymous h with ⟨ha, hb⟩ | ⟨name, x, y, ha, hb, hxy, hseat⟩
  · rw [ha, hb]
    exact .nil
  · have hbody := hxy.child?_plain .body hseat
    simp only [ha, hb]
    generalize x.child? .body = u, y.child? .body = v at hbody
    cases hbody with
    | none => exact .nil
    | some huv => exact .cons ⟨rfl, hxy, huv⟩ .nil

/-- The marks stay on the children, since the fields do. -/
theorem marked_padded {parent : Kind} {nodes images : List Node} (binds : Bool)
    (h : List.Forall₂ (Node.PaddedIn parent) nodes images) :
    List.Forall₂ (fun x y => Node.PaddedIn parent x.1 y.1 ∧ y.2 = x.2)
      (Node.marked binds nodes) (Node.marked binds images) := by
  induction h generalizing binds with
  | nil => exact .nil
  | cons hxy _ ih =>
      rw [Node.marked, Node.marked, ← hxy.field_eq]
      exact .cons ⟨hxy, rfl⟩ (ih _)

/-- The functions of a padded tree are those of the tree, in the same order. -/
theorem locate_padded (claimable : Bool) (h : Node.Padded a b) :
    List.Forall₂ Padded (locate source anonymous claimable a)
      (locate source anonymous claimable b) := by
  induction a using Node.induction generalizing b claimable with
  | step a ih =>
      rw [locate_eq_append, locate_eq_append]
      refine List.rel_append ?_ ?_
      · cases claimable with
        | true => exact ofNode?_padded source anonymous h
        | false => exact .nil
      · have hmarked : List.Forall₂ (fun x y => Node.PaddedIn a.kind x.1 y.1 ∧ y.2 = x.2)
            a.markedChildren b.markedChildren := by
          rw [Node.markedChildren, Node.markedChildren, ← h.isSome_boundFunction?_eq]
          exact marked_padded _ h.children
        have hbelow := (List.forall₂_and_left _ _).mpr ⟨fun _ hx => hx, hmarked⟩
        refine List.rel_flatMap hbelow ?_
        rintro ⟨x, _⟩ ⟨y, isBound⟩ ⟨hmem, hxy, rfl⟩
        have hchild := Node.mem_children_of_markedChildren hmem
        cases isBound with
        | true =>
            -- What a node binds is in a place where no parentheses are added.
            have hbound := Node.mem_markedChildren_true.mp hmem
            have hbinds := (Node.boundFunction?_eq_some_iff.mp hbound).1
            exact ih x hchild false (hxy.plain (Node.seats_of_bindingName? hbinds _))
        | false =>
            rcases hxy with ⟨core, hpadded, henclosed, _⟩
            have hcore := ih x hchild true hpadded
            rw [← henclosed.locate_eq source anonymous] at hcore
            exact hcore

end Definition

theorem mapM_verdict_padded {source : Source} {definitions images : List Definition}
    (h : List.Forall₂ Definition.Padded definitions images) :
    images.mapM (·.verdict source) = definitions.mapM (·.verdict source) := by
  induction h with
  | nil => rfl
  | cons hfirst _ ih => rw [List.mapM_cons, List.mapM_cons, hfirst.verdict_eq, ih]

/-- Redundant parentheses change nothing. Let any operands that are called, that stand on the
    right of an operator or that are arguments be put into any number of parentheses each.
    The same functions are found in the same order, at the same lines, and each has the record
    that it had before, or fails to get one for the same literal. So the verdicts on the
    program are the same. -/
theorem Syntax.Program.definitions_padded (source : Source) (anonymous : String)
    {root padded : Node} (h : Node.Padded root padded) :
    List.Forall₂
        (fun definition image => image.name = definition.name ∧
          Node.Padded definition.function image.function ∧
          Node.Padded definition.body image.body ∧
          image.startLine source = definition.startLine source ∧
          image.endLine source = definition.endLine source ∧
          image.record source = definition.record source)
        (Program.definitions ⟨source, root⟩ anonymous)
        (Program.definitions ⟨source, padded⟩ anonymous) ∧
      Program.verdicts ⟨source, padded⟩ anonymous = Program.verdicts ⟨source, root⟩ anonymous := by
  have hdefinitions : List.Forall₂ Definition.Padded
      (Program.definitions ⟨source, root⟩ anonymous)
      (Program.definitions ⟨source, padded⟩ anonymous) := by
    rw [Program.definitions_eq_locate, Program.definitions_eq_locate]
    exact Definition.locate_padded source anonymous true h
  refine ⟨hdefinitions.imp ?_, mapM_verdict_padded hdefinitions⟩
  intro definition image hpadded
  rcases hpadded.lines_eq source with ⟨hstart, hend⟩
  exact ⟨hpadded.name, hpadded.function, hpadded.body, hstart, hend, hpadded.record_eq source⟩

/-! The function `function f(n){(f)((n/(2)))}`, as a tree without its parentheses and as one
    with them. -/

namespace HalvedArgument

def source : Source := .ofString "function f(n)\x7b(f)((n/(2)))\x7d"

def token (text : String) (start : Nat) (field : Option Field) : Node :=
  ⟨{ kind := .other text, named := false, start, stop := start + 1, field }, []⟩

/-- An operand in parentheses that take over its field. -/
def inParentheses (operand : Node) : Node :=
  ⟨{ kind := .parenthesized, start := operand.start - 1, stop := operand.stop + 1,
      field := operand.field },
    [token "(" (operand.start - 1) none, { operand with field := none },
      token ")" operand.stop none]⟩

def callee : Node := ⟨{ kind := .identifier, start := 15, stop := 16, field := some .callee }, []⟩

def divisor : Node := ⟨{ kind := .number, start := 22, stop := 23, field := some .right }, []⟩

/-- The argument, with something in the place of the divisor. -/
def half (right : Node) : Node :=
  ⟨{ kind := .binary, start := 19, stop := 24 },
    [⟨{ kind := .identifier, start := 19, stop := 20 }, []⟩, token "/" 20 (some .operator), right]⟩

/-- The function, with something in the place of what it calls and of the argument. -/
def function (called argument : Node) : Node :=
  ⟨{ kind := .functionDeclaration, start := 0, stop := 27 },
    [⟨{ kind := .identifier, start := 9, stop := 10, field := some .name }, []⟩,
      ⟨{ kind := .other "statement_block", start := 13, stop := 27, field := some .body },
        [⟨{ kind := .call, start := 14, stop := 26 },
          [called,
            ⟨{ kind := .other "arguments", start := 17, stop := 26, field := some .arguments },
              [argument]⟩]⟩]⟩]⟩

/-- An operand with parentheses added around it, and perhaps below it. -/
theorem paddedAll_inParentheses {parent : Kind} {operand inner : Node} {nodes images : List Node}
    (hpadded : operand.Padded inner) (hfield : inner.field = operand.field)
    (hoperand : operand.isOperand = true) (hseat : parent.seats operand.field = true)
    (hrest : Node.PaddedAll parent nodes images) :
    Node.PaddedAll parent (operand :: nodes) (inParentheses inner :: images) := by
  have hinner : operand.Padded { inner with field := none } := by
    cases hpadded with
    | node kind named start stop children => exact .node kind named start stop children
  have henclosed : Node.Enclosed { inner with field := none } (inParentheses inner) := by
    refine @Node.Enclosed.within _ _ [_] [_] _ rfl rfl ?_ ?_ .bare
    · intro filler hfiller
      rw [List.mem_singleton.mp hfiller]
      rfl
    · intro filler hfiller
      rw [List.mem_singleton.mp hfiller]
      rfl
  exact .cons hinner henclosed hfield (.inr ⟨hoperand, hseat⟩) hrest

/-- With all its parentheses the function still calls itself once, on half of what it got. -/
theorem parentheses_kept_out :
    (function callee (half divisor)).Padded
      (function (inParentheses callee) (inParentheses (half (inParentheses divisor)))) ∧
    (Program.verdicts ⟨source,
        function (inParentheses callee) (inParentheses (half (inParentheses divisor)))⟩
      "anonymous").map (List.map fun verdict =>
        (verdict.name, verdict.record.selfCalls, verdict.record.divides, verdict.growth))
      = .ok [("f", 1, true, .linearithmic)] := by
  have hhalf : (half divisor).Padded (half (inParentheses divisor)) := by
    refine .node rfl rfl rfl rfl ?_
    refine .unenclosed (.refl _) rfl (.unenclosed (.refl _) rfl ?_)
    exact paddedAll_inParentheses (.refl _) rfl rfl rfl .nil
  have hpadded : (function callee (half divisor)).Padded
      (function (inParentheses callee) (inParentheses (half (inParentheses divisor)))) := by
    refine .node rfl rfl rfl rfl (.unenclosed (.refl _) rfl ?_)
    refine .unenclosed (.node rfl rfl rfl rfl ?_) rfl .nil
    refine .unenclosed (.node rfl rfl rfl rfl ?_) rfl .nil
    refine paddedAll_inParentheses (.refl _) rfl rfl rfl ?_
    refine .unenclosed (.node rfl rfl rfl rfl ?_) rfl .nil
    exact paddedAll_inParentheses hhalf rfl rfl rfl .nil
  refine ⟨hpadded, ?_⟩
  rw [(Program.definitions_padded source "anonymous" hpadded).2]
  decide +kernel

end HalvedArgument

end Costwise
