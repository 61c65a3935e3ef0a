import Costwise.Proofs.Concatenation
import Costwise.Proofs.Inventory

/-!
# Order of Appearance

Functions are reported in the order in which the nodes that define them come, and
with the line on which the function starts. For a declaration or an arrow that is
the same node. For a binding it is not: the binding comes first, and its function
is the value at its end. Between the two stands a name or a key, and a pattern with
a default or a computed key can hold functions of its own. They are reported after
the binding although they start before its value.

So the lines of a report rise, except at bindings with a function in front of the
value. Such a binding does no harm as long as its value starts on the same line, and
it breaks the order if the value starts on a later one. `Punctual` is the condition,
and `locate_pairwise_iff` says that nothing else is needed: in a tree whose nodes
start in preorder, every other pair of functions is in order.

The induction goes through the children of a node. What is found below two children
is in order because their nodes are. What is found at the node itself is in order
with everything below it if it is the node, and if it is the value of a binding, with
everything from the value on.

## Main definitions

* `Node.Ordered`: The nodes of a tree start in preorder.
* `Definition.early`: The functions in front of the value of a binding.
* `Definition.Punctual`: The value of a binding starts on a line with those.

## Theorems

* `Source.line_mono`: Later bytes stand on later lines.
* `marked_true_of_find?`: The children of a binding, cut at the value.
* `first_le_iff_punctual`: When a node is in order with what is below it.
* `locate_pairwise_iff`: When the functions of a tree are in order.
* `startLines_pairwise_iff`: When the lines of a report rise.
-/

namespace Costwise

open Syntax

theorem Syntax.Source.line_mono (source : Source) {first second : Nat} (h : first ≤ second) :
    source.line first ≤ source.line second := by
  have hcount := List.Sublist.count_le lineFeed
    (List.take_sublist_take_left (l := source.bytes.toList) h)
  rw [line, line, before_eq_take, before_eq_take]
  omega

namespace Syntax.Node

/-- No node of a tree starts before a node that comes earlier in preorder. -/
def Ordered (root : Node) : Prop :=
  root.preorder.Pairwise fun first second => first.start ≤ second.start

instance (root : Node) : Decidable root.Ordered :=
  inferInstanceAs (Decidable (List.Pairwise _ _))

namespace Ordered

variable {node inner : Node}

theorem start_le (h : node.Ordered) (hinner : inner ∈ node.preorder) :
    node.start ≤ inner.start := by
  rw [Ordered, preorder_eq, List.pairwise_cons] at h
  rw [preorder_eq] at hinner
  rcases List.mem_cons.mp hinner with rfl | hinner
  · exact Nat.le_refl _
  · exact h.1 inner hinner

theorem child (h : node.Ordered) (hinner : inner ∈ node.children) : inner.Ordered :=
  h.sublist (preorder_sublist_of_mem hinner)

theorem children (h : node.Ordered) :
    node.children.Pairwise fun first second =>
      ∀ a ∈ first.preorder, ∀ b ∈ second.preorder, a.start ≤ b.start := by
  rw [Ordered, preorder_eq_flatMap, List.pairwise_cons, List.pairwise_flatMap] at h
  exact h.2.2

end Ordered

-- The children of a binding, cut at the value. Only the value is marked.
theorem marked_true_of_find? {nodes : List Node} {value : Node}
    (h : nodes.find? (·.field == some .value) = some value) :
    ∃ after, nodes = nodes.takeWhile (·.field != some .value) ++ value :: after ∧
      marked true nodes = (nodes.takeWhile (·.field != some .value)).map (·, false)
        ++ (value, true) :: after.map (·, false) := by
  induction nodes with
  | nil => exact absurd h (by simp only [List.find?_nil, reduceCtorEq, not_false_eq_true])
  | cons first rest ih =>
      rw [marked, Bool.true_and, Bool.true_and]
      cases hfirst : first.field == some Field.value with
      | true =>
          simp only [List.find?_cons, hfirst, Option.some.injEq] at h
          subst h
          refine ⟨rest, ?_, ?_⟩
          · rw [List.takeWhile_cons_of_neg (by simp [bne, hfirst]), List.nil_append]
          · rw [List.takeWhile_cons_of_neg (by simp [bne, hfirst]), Bool.not_true, marked_false]
            rfl
      | false =>
          simp only [List.find?_cons, hfirst] at h
          rcases ih h with ⟨after, hrest, hmarked⟩
          refine ⟨after, ?_, ?_⟩
          · rw [List.takeWhile_cons_of_pos (by simp [bne, hfirst]), List.cons_append, ← hrest]
          · rw [List.takeWhile_cons_of_pos (by simp [bne, hfirst]), Bool.not_false, hmarked]
            rfl

end Syntax.Node

namespace Definition

variable {source : Source} {anonymous : String} {node : Node} {definition : Definition}

theorem function_mem_preorder {claimable : Bool}
    (h : definition ∈ locate source anonymous claimable node) :
    definition.function ∈ node.preorder := by
  rw [← Bool.not_not claimable, locate_eq_filterMap source anonymous node [] (!claimable)] at h
  rcases List.mem_filterMap.mp h with ⟨site, hsite, hdefinition⟩
  rcases Site.definition?_eq_some_iff.mp hdefinition with ⟨_, hof⟩
  have hnode := Node.lineage_of_mem_sites hsite .root
  rcases Node.definedFunction?_cases (definedFunction?_of_ofNode? hof) with hself | hbound
  · rw [hself]
    exact hnode.mem_preorder
  · exact (hnode.child (Node.mem_children_of_boundFunction? hbound)).mem_preorder

/-- The functions that are found in front of the value of a binding: in its name or its
    key. -/
def early (source : Source) (anonymous : String) (binding : Node) : List Definition :=
  (binding.children.takeWhile (·.field != some .value)).flatMap (locate source anonymous true)

/-- The function that a node binds starts no later than the line of any function in front
    of it, or has no body and so is not reported. -/
def Punctual (source : Source) (anonymous : String) (binding : Node) : Prop :=
  ∀ function, binding.boundFunction? = some function → (function.child? .body).isSome →
    ∀ definition ∈ early source anonymous binding,
      source.line function.start ≤ definition.startLine source

/-- What is found below a node, child by child. -/
def below (source : Source) (anonymous : String) (node : Node) : List Definition :=
  node.markedChildren.flatMap fun (child, isBound) => locate source anonymous (!isBound) child

-- Two functions below different children are in order, whatever they are.
theorem below_pairwise (hordered : node.Ordered) :
    node.markedChildren.Pairwise fun first second =>
      ∀ a ∈ locate source anonymous (!first.2) first.1,
        ∀ b ∈ locate source anonymous (!second.2) second.1,
          a.startLine source ≤ b.startLine source := by
  have hchildren := hordered.children
  rw [← Node.map_fst_marked node.boundFunction?.isSome node.children, List.pairwise_map]
    at hchildren
  refine hchildren.imp fun hstarts a ha b hb => ?_
  exact source.line_mono (hstarts _ (function_mem_preorder ha) _ (function_mem_preorder hb))

-- What a binding binds is in order with everything from the value on, so what is in
-- front of the value decides.
theorem value_le_iff_early {function : Node} (hordered : node.Ordered)
    (hbinds : node.boundFunction? = some function) :
    (∀ definition ∈ below source anonymous node,
        source.line function.start ≤ definition.startLine source) ↔
      ∀ definition ∈ early source anonymous node,
        source.line function.start ≤ definition.startLine source := by
  rcases Node.marked_true_of_find? (Node.boundFunction?_eq_some_iff.mp hbinds).2.1 with
    ⟨after, hchildren, hmarked⟩
  have hsplit : below source anonymous node = early source anonymous node
      ++ (locate source anonymous false function
        ++ after.flatMap (locate source anonymous true)) := by
    rw [below, Node.markedChildren, hbinds, Option.isSome_some, hmarked, List.flatMap_append,
      List.flatMap_cons, List.flatMap_map, List.flatMap_map]
    rfl
  -- The value comes before what is in it and before the children after it.
  have hvalue : ∀ definition ∈ locate source anonymous false function
      ++ after.flatMap (locate source anonymous true),
      source.line function.start ≤ definition.startLine source := by
    intro definition hmem
    refine source.line_mono ?_
    rcases List.mem_append.mp hmem with hmem | hmem
    · have hfunction := hordered.child (Node.mem_children_of_boundFunction? hbinds)
      exact hfunction.start_le (function_mem_preorder hmem)
    · rcases List.mem_flatMap.mp hmem with ⟨child, hchild, hmem⟩
      have hstarts := hordered.children
      rw [hchildren, List.pairwise_append, List.pairwise_cons] at hstarts
      exact hstarts.2.1.1 child hchild _ function.self_mem_preorder _ (function_mem_preorder hmem)
  rw [hsplit]
  constructor
  · intro h definition hmem
    exact h definition (List.mem_append_left _ hmem)
  · intro h definition hmem
    rcases List.mem_append.mp hmem with hmem | hmem
    · exact h definition hmem
    · exact hvalue definition hmem

theorem first_le_iff_punctual (hordered : node.Ordered) {claimable : Bool}
    (hclaimable : claimable = false → node.boundFunction? = none) :
    (∀ first ∈ (if claimable then ofNode? source anonymous node else none).toList,
        ∀ definition ∈ below source anonymous node,
          first.startLine source ≤ definition.startLine source) ↔
      Punctual source anonymous node := by
  cases hbinds : node.boundFunction? with
  | none =>
      -- What is found here is the node itself, and nothing below starts before it.
      refine ⟨fun _ function hfunction => ?_, fun _ first hfirst definition hmem => ?_⟩
      · rw [hbinds] at hfunction
        cases hfunction
      · rw [Option.mem_toList] at hfirst
        have hof : ofNode? source anonymous node = some first := by
          cases claimable with
          | true => exact hfirst
          | false => cases hfirst
        have hself : first.function = node := by
          rcases Node.definedFunction?_cases (definedFunction?_of_ofNode? hof) with hself | hbound
          · exact hself
          · rw [hbinds] at hbound
            cases hbound
        rcases List.mem_flatMap.mp hmem with ⟨⟨child, isBound⟩, hchild, hmem⟩
        have hinner := (Node.preorder_sublist_of_mem
          (Node.mem_children_of_markedChildren hchild)).subset (function_mem_preorder hmem)
        refine source.line_mono ?_
        rw [hself]
        exact hordered.start_le hinner
  | some function =>
      have hclaimed : claimable = true := by
        refine Bool.eq_true_of_not_eq_false fun hfalse => ?_
        rw [hclaimable hfalse] at hbinds
        cases hbinds
      have hdefined : node.definedFunction? = some function := by
        rw [Node.definedFunction?_of_bindingName? (Node.boundFunction?_eq_some_iff.mp hbinds).1,
          hbinds]
      rw [hclaimed, if_pos rfl]
      constructor
      · intro h bound hbound hbody
        rw [hbinds, Option.some.injEq] at hbound
        subst hbound
        rcases Option.isSome_iff_exists.mp hbody with ⟨body, hbody⟩
        rcases exists_ofNode? source anonymous hdefined hbody with ⟨name, hof⟩
        exact (value_le_iff_early hordered hbinds).mp (h _ (Option.mem_toList.mpr hof))
      · intro h first hfirst
        have hof := Option.mem_toList.mp hfirst
        have hfunction : first.function = function := by
          have hfound := definedFunction?_of_ofNode? hof
          rw [hdefined, Option.some.injEq] at hfound
          exact hfound.symm
        have hbody := (ofNode?_eq_some_iff.mp hof).2
        rw [startLine, hfunction]
        rw [hfunction] at hbody
        exact (value_le_iff_early hordered hbinds).mpr
          (h function hbinds (by rw [hbody, Option.isSome_some]))

/-- The functions of a tree are in order if and only if its bindings are punctual. A node
    that is not claimable is a bound function and so no binding itself. -/
theorem locate_pairwise_iff (hordered : node.Ordered) {claimable : Bool}
    (hclaimable : claimable = false → node.boundFunction? = none) :
    (locate source anonymous claimable node).Pairwise
        (fun first second => first.startLine source ≤ second.startLine source) ↔
      ∀ binding ∈ node.preorder, Punctual source anonymous binding := by
  induction node using Node.induction generalizing claimable with
  | step node ih =>
      have hhere : (if claimable then ofNode? source anonymous node else none).toList.Pairwise
          (fun first second => first.startLine source ≤ second.startLine source) := by
        cases (if claimable then ofNode? source anonymous node else none) with
        | none => exact .nil
        | some definition => exact List.pairwise_singleton _ _
      -- A child is claimable unless the node binds it.
      have hchildren : (∀ child ∈ node.markedChildren,
          (locate source anonymous (!child.2) child.1).Pairwise
            (fun first second => first.startLine source ≤ second.startLine source)) ↔
          ∀ child ∈ node.children, ∀ binding ∈ child.preorder,
            Punctual source anonymous binding := by
        have heach : ∀ child ∈ node.markedChildren,
            ((locate source anonymous (!child.2) child.1).Pairwise
              (fun first second => first.startLine source ≤ second.startLine source) ↔
            ∀ binding ∈ child.1.preorder, Punctual source anonymous binding) := by
          rintro ⟨child, isBound⟩ hchild
          have hmem := Node.mem_children_of_markedChildren hchild
          refine ih child hmem (hordered.child hmem) fun hbound => ?_
          rw [Bool.not_eq_false'] at hbound
          subst hbound
          exact Node.boundFunction?_of_bound (Node.mem_markedChildren_true.mp hchild)
        constructor
        · intro h child hchild
          rcases Node.exists_markedChildren hchild with ⟨isBound, hmarked⟩
          exact (heach _ hmarked).mp (h _ hmarked)
        · intro h child hchild
          exact (heach child hchild).mpr (h child.1 (Node.mem_children_of_markedChildren hchild))
      have hsplit : (∀ binding ∈ node.preorder, Punctual source anonymous binding) ↔
          Punctual source anonymous node ∧ ∀ child ∈ node.children, ∀ binding ∈ child.preorder,
            Punctual source anonymous binding := by
        rw [Node.preorder_eq_flatMap, List.forall_mem_cons, List.forall_mem_flatMap]
      rw [hsplit, ← hchildren, ← first_le_iff_punctual hordered hclaimable, locate_eq_append,
        List.pairwise_append, List.pairwise_flatMap]
      constructor
      · rintro ⟨_, ⟨hbelow, _⟩, hfirst⟩
        exact ⟨hfirst, hbelow⟩
      · rintro ⟨hfirst, hbelow⟩
        exact ⟨hhere, ⟨hbelow, below_pairwise hordered⟩, hfirst⟩

end Definition

/-- What was made of a list by a function that can fail is seen as its items are. -/
theorem map_eq_of_mapM_eq_ok {α β γ ε : Type} {make : α → Except ε β} {seen : β → γ} {view : α → γ}
    (hseen : ∀ item result, make item = .ok result → seen result = view item) {items : List α}
    {made : List β} (h : items.mapM make = .ok made) : made.map seen = items.map view := by
  induction items generalizing made with
  | nil =>
      rw [← Except.ok.inj h]
      rfl
  | cons first rest ih =>
      rcases mapM_cons_eq_ok h with ⟨head, tail, rfl, hfirst, hrest⟩
      rw [List.map_cons, List.map_cons, hseen first head hfirst, ih hrest]

namespace Syntax.Program

theorem firstLines_eq {program : Program} {anonymous : String} {verdicts : List Verdict}
    (h : program.verdicts anonymous = .ok verdicts) :
    verdicts.map (·.span.first)
      = ((program.definitions anonymous).map (·.startLine program.source)).map Int.ofNat := by
  rw [List.map_map]
  refine map_eq_of_mapM_eq_ok (fun definition verdict hverdict => ?_) h
  rcases exists_of_map_eq_ok hverdict with ⟨record, _, rfl⟩
  rfl

/-- In a tree whose nodes start in preorder, the functions that are found start on rising
    lines if and only if no binding has its value on a later line than a function in front
    of the value. The same holds of the verdicts. -/
theorem startLines_pairwise_iff (program : Program) (anonymous : String)
    (hordered : program.root.Ordered) :
    (((program.definitions anonymous).map (·.startLine program.source)).Pairwise (· ≤ ·) ↔
      ∀ binding ∈ program.root.preorder,
        Definition.Punctual program.source anonymous binding) ∧
    ∀ verdicts, program.verdicts anonymous = .ok verdicts →
      ((verdicts.map (·.span.first)).Pairwise (· ≤ ·) ↔
        ∀ binding ∈ program.root.preorder,
          Definition.Punctual program.source anonymous binding) := by
  have hdefinitions :
      ((program.definitions anonymous).map (·.startLine program.source)).Pairwise (· ≤ ·) ↔
        ∀ binding ∈ program.root.preorder,
          Definition.Punctual program.source anonymous binding := by
    rw [definitions_eq_locate, List.pairwise_map]
    exact Definition.locate_pairwise_iff hordered
      fun hfalse => absurd hfalse.symm Bool.false_ne_true
  refine ⟨hdefinitions, fun verdicts hverdicts => ?_⟩
  rw [firstLines_eq hverdicts, List.pairwise_map, ← hdefinitions]
  simp only [Int.ofNat_eq_natCast, Int.ofNat_le]

end Syntax.Program

/-! The object `{[()=>1]:()=>2}` on one line, and with its value on the next. -/

namespace KeyWithArrow

def twoLines : Program := ⟨.ofString "\x7b[()=>1]:\n()=>2\x7d", object 10⟩

theorem value_on_later_line :
    program.root.Ordered ∧ twoLines.root.Ordered ∧
      (∀ binding ∈ program.root.preorder, Definition.Punctual program.source "" binding) ∧
      (twoLines.definitions "").map (·.startLine twoLines.source) = [2, 1] ∧
      (¬ ∀ binding ∈ twoLines.root.preorder, Definition.Punctual twoLines.source "" binding) ∧
      ∃ verdicts, twoLines.verdicts "" = .ok verdicts ∧
        ¬ (verdicts.map (·.span.first)).Pairwise (· ≤ ·) := by
  have hone : program.root.Ordered := by decide
  have htwo : twoLines.root.Ordered := by decide
  have hlines : (twoLines.definitions "").map (·.startLine twoLines.source) = [2, 1] := by
    decide +kernel
  rcases twoLines.startLines_pairwise_iff "" htwo with ⟨hdefinitions, hverdicts⟩
  have hlate : ¬ ∀ binding ∈ twoLines.root.preorder,
      Definition.Punctual twoLines.source "" binding := by
    rw [← hdefinitions, hlines]
    decide
  refine ⟨hone, htwo, ?_, hlines, hlate, ?_⟩
  · exact (program.startLines_pairwise_iff "" hone).1.mp (by decide +kernel)
  · have hjudged : (twoLines.verdicts "").isOk = true := by decide +kernel
    cases hmade : twoLines.verdicts "" with
    | error overflow =>
        rw [hmade] at hjudged
        cases hjudged
    | ok verdicts => exact ⟨verdicts, rfl, mt (hverdicts verdicts hmade).mp hlate⟩

end KeyWithArrow

end Costwise
