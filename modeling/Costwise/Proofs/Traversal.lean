import Costwise.Features.Walk
import Costwise.Proofs.Lineage

/-!
# What a Walk Takes Up

A walk keeps an agenda and counts loops up and down while it works it off. Both
are there so that the walk needs no recursion, and both are in the way of
every question about its result, because the agenda mixes nodes from all over
the body.

This file takes the walk apart. `reached` lists the nodes that a walk takes up,
in order, each with the number of loops around it, by plain recursion on the
tree. `note` is what a walk does with one of them. `walk_visit` says that
working off an agenda is noting the nodes reached, one after the other, and
`record_eq_foldlM` says it of a whole function. Whatever holds at the start and
is kept by `note` then holds of every record, and two walks agree as soon as
they reach nodes at which `note` does the same.

A number literal that is too large makes `note` fail, and the fold stops there
just as the walk does.

## Main definitions

* `Node.reached`: The nodes that a walk takes up, with the loops around them.
* `Body.note`: What a walk does with one node.
* `Definition.visited`: The nodes that the walk of a function takes up.

## Theorems

* `mem_reached_child`: A walk goes on to every child that is not separate.
* `exists_clear_lineage_of_child`: What can be reached from a child can be reached
  from its parent.
* `mem_map_fst_reached_iff`: A walk takes up what no separate node lies above.
* `Body.walk_visit`: Working off an agenda is noting the nodes reached.
* `Definition.record_eq_foldlM`: The record of a function, node by node.
-/

namespace Costwise

open Syntax

namespace Syntax.Node

/-- The number of loops around the children of a node with some loops around it. -/
def innerDepth (node : Node) (depth : Nat) : Nat :=
  if node.kind.isLoop then depth + 1 else depth

mutual

/-- The nodes that a walk takes up in a tree, each with the number of loops around
    it. Separate definitions are left out with everything below them. -/
def reached (depth : Nat) : Node → List (Node × Nat)
  | ⟨entry, children⟩ =>
    let node : Node := ⟨entry, children⟩
    if node.isSeparate then []
    else (node, depth) :: reachedAll (node.innerDepth depth) children

/-- The nodes that a walk takes up in a row of trees. -/
def reachedAll (depth : Nat) : List Node → List (Node × Nat)
  | [] => []
  | node :: nodes => node.reached depth ++ reachedAll depth nodes

end

theorem reachedAll_eq_flatMap (depth : Nat) (nodes : List Node) :
    reachedAll depth nodes = nodes.flatMap (reached depth) := by
  induction nodes with
  | nil => rw [reachedAll, List.flatMap_nil]
  | cons node rest ih => rw [reachedAll, List.flatMap_cons, ih]

theorem reached_of_isSeparate {node : Node} (h : node.isSeparate = true) (depth : Nat) :
    node.reached depth = [] := by
  cases node
  rw [reached, if_pos h]

theorem reached_of_not_isSeparate {node : Node} (h : node.isSeparate = false) (depth : Nat) :
    node.reached depth
      = (node, depth) :: node.children.flatMap (reached (node.innerDepth depth)) := by
  cases node
  rw [reached, if_neg (by rw [h]; exact Bool.false_ne_true), reachedAll_eq_flatMap]

/-- A walk takes up nodes of its tree, in their order and each once. -/
theorem reached_sublist (node : Node) (depth : Nat) :
    ((node.reached depth).map (·.1)).Sublist node.preorder := by
  induction node using Node.induction generalizing depth with
  | step node ih =>
      cases hsep : node.isSeparate with
      | true =>
          rw [reached_of_isSeparate hsep]
          exact List.nil_sublist _
      | false =>
          rw [reached_of_not_isSeparate hsep, preorder_eq_flatMap, List.map_cons,
            List.map_flatMap]
          refine List.Sublist.cons_cons _ ?_
          -- Child by child, what is reached stands in the same order.
          generalize hchildren : node.children = children at ih
          clear hchildren
          induction children with
          | nil => exact List.nil_sublist _
          | cons child rest ihrest =>
              rw [List.flatMap_cons, List.flatMap_cons]
              exact (ih child List.mem_cons_self _).append
                (ihrest fun later hlater => ih later (List.mem_cons_of_mem _ hlater))

/-- A walk goes on from a node to every child that is not separate, and counts one
    loop more if the node is a loop. -/
theorem mem_reached_child {node found child : Node} {depth around : Nat}
    (h : (found, around) ∈ node.reached depth) (hchild : child ∈ found.children)
    (hsep : child.isSeparate = false) :
    (child, found.innerDepth around) ∈ node.reached depth := by
  induction node using Node.induction generalizing depth with
  | step node ih =>
      cases hnode : node.isSeparate with
      | true =>
          rw [reached_of_isSeparate hnode] at h
          exact absurd h List.not_mem_nil
      | false =>
          rw [reached_of_not_isSeparate hnode] at h ⊢
          refine List.mem_cons_of_mem _ (List.mem_flatMap.mpr ?_)
          rcases List.mem_cons.mp h with h | h
          · rcases Prod.mk.inj h with ⟨rfl, rfl⟩
            refine ⟨child, hchild, ?_⟩
            rw [reached_of_not_isSeparate hsep]
            exact List.mem_cons_self
          · rcases List.mem_flatMap.mp h with ⟨first, hfirst, h⟩
            exact ⟨first, hfirst, ih first hfirst h⟩

/-- A way down on which nothing is separate goes on to be one from the parent, if the
    parent is not separate either. -/
theorem exists_clear_lineage_of_child {node child found : Node} (hsep : node.isSeparate = false)
    (hchild : child ∈ node.children)
    (h : ∃ above, Lineage child found above ∧ ∀ on ∈ found :: above, on.isSeparate = false) :
    ∃ above, Lineage node found above ∧ ∀ on ∈ found :: above, on.isSeparate = false := by
  rcases h with ⟨above, hlineage, hon⟩
  refine ⟨above ++ [node], (Lineage.root.child hchild).trans hlineage, fun on hmem => ?_⟩
  rw [← List.cons_append] at hmem
  rcases List.mem_append.mp hmem with hmem | hmem
  · exact hon on hmem
  · rw [List.mem_singleton.mp hmem]
    exact hsep

/-- A walk takes up a node if and only if neither it nor any node on the way down
    to it is separate. -/
theorem mem_map_fst_reached_iff {node found : Node} {depth : Nat} :
    found ∈ (node.reached depth).map (·.1) ↔
      ∃ above, Lineage node found above ∧ ∀ on ∈ found :: above, on.isSeparate = false := by
  constructor
  · intro h
    induction node using Node.induction generalizing depth with
    | step node ih =>
        cases hsep : node.isSeparate with
        | true =>
            rw [reached_of_isSeparate hsep] at h
            exact absurd h List.not_mem_nil
        | false =>
            rw [reached_of_not_isSeparate hsep, List.map_cons, List.map_flatMap] at h
            rcases List.mem_cons.mp h with rfl | h
            · refine ⟨[], .root, fun on hon => ?_⟩
              rw [List.mem_singleton.mp hon]
              exact hsep
            · rcases List.mem_flatMap.mp h with ⟨child, hchild, h⟩
              exact exists_clear_lineage_of_child hsep hchild (ih child hchild h)
  · rintro ⟨above, hlineage, hon⟩
    -- How many loops stand around the node is not asked for, and found on the way.
    suffices h : ∃ around, (found, around) ∈ node.reached depth by
      rcases h with ⟨around, h⟩
      exact List.mem_map_of_mem h
    induction hlineage with
    | root =>
        refine ⟨depth, ?_⟩
        rw [reached_of_not_isSeparate (hon _ List.mem_cons_self)]
        exact List.mem_cons_self
    | child _ mem ih =>
        rcases ih fun on hmem => hon on (List.mem_cons_of_mem _ hmem) with ⟨around, hparent⟩
        exact ⟨_, mem_reached_child hparent mem (hon _ List.mem_cons_self)⟩

end Syntax.Node

namespace Body

/-- What a walk does with a node that it takes up, with some loops around it: a
    loop is counted, any other node means what its findings say. -/
def note (body : Body) (progress : Progress) (stop : Node × Nat) :
    Except Literal.Overflow Progress :=
  if stop.1.kind.isLoop then .ok (progress.step body.signals (.loop (stop.2 + 1 : Nat)))
  else (body.findings stop.1 (decide (0 < stop.2))).map (progress.run body.signals)

variable (body : Body)

/-- The trees at the front of an agenda, if each alone is worked off by noting what
    is reached in it. -/
theorem walk_visits {nodes : List Node}
    (hnodes : ∀ node ∈ nodes, ∀ (depth : Nat) (progress : Progress) (agenda : List Task),
      body.walk depth progress (.visit node (decide (0 < depth)) :: agenda)
        = (node.reached depth).foldlM body.note progress >>= (body.walk depth · agenda))
    (depth : Nat) (progress : Progress) (agenda : List Task) :
    body.walk depth progress (Task.visits nodes (decide (0 < depth)) ++ agenda)
      = (nodes.flatMap (Node.reached depth)).foldlM body.note progress
        >>= (body.walk depth · agenda) := by
  induction nodes generalizing progress with
  | nil => rfl
  | cons node rest ih =>
      rw [Task.visits, List.map_cons, List.cons_append, ← Task.visits,
        hnodes node List.mem_cons_self, List.flatMap_cons, List.foldlM_append, bind_assoc]
      congr 1
      funext next
      exact ih (fun later hlater => hnodes later (List.mem_cons_of_mem _ hlater)) next

/-- Working off a tree at the front of an agenda is noting the nodes reached in it.
    The flag of the item has to say whether there are loops around it, which every
    item that a walk puts on its agenda does. -/
theorem walk_visit (node : Node) (depth : Nat) (progress : Progress) (agenda : List Task) :
    body.walk depth progress (.visit node (decide (0 < depth)) :: agenda)
      = (node.reached depth).foldlM body.note progress >>= (body.walk depth · agenda) := by
  induction node using Node.induction generalizing depth progress agenda with
  | step node ih =>
      rw [walk]
      cases hsep : node.isSeparate with
      | true =>
          -- A separate node is dropped from the agenda, and nothing is reached in it.
          rw [if_pos rfl, Node.reached_of_isSeparate hsep]
          rfl
      | false =>
          rw [if_neg Bool.false_ne_true, Node.reached_of_not_isSeparate hsep, List.foldlM_cons,
            note, Node.innerDepth]
          cases hloop : node.kind.isLoop with
          | true =>
              have hinner := body.walk_visits ih (depth + 1)
                (progress.step body.signals (.loop (depth + 1 : Nat))) (.leave :: agenda)
              rw [decide_eq_true (Nat.succ_pos depth)] at hinner
              rw [if_pos rfl, if_pos rfl, hinner, if_pos rfl]
              -- The end of the loop takes back the loop that was counted.
              simp only [walk, Nat.add_sub_cancel]
              rfl
          | false =>
              rw [if_neg Bool.false_ne_true, if_neg Bool.false_ne_true,
                if_neg Bool.false_ne_true]
              cases body.findings node (decide (0 < depth)) with
              | error overflow => rfl
              | ok steps => exact body.walk_visits ih depth _ agenda

end Body

namespace Definition

/-- The nodes that the walk of a function takes up, in order. -/
def visited (definition : Definition) : List Node :=
  (definition.body.reached 0).map (·.1)

/-- What the walk of a function knows of it. -/
def inside (source : Source) (definition : Definition) : Body :=
  ⟨source, definition.name, Signals.ofText (source.chars definition.body)⟩

/-- The record of a function is made by noting the nodes that its walk takes up, one
    after the other. -/
theorem record_eq_foldlM (source : Source) (definition : Definition) :
    definition.record source
      = ((definition.body.reached 0).foldlM (definition.inside source).note {}).map
        fun progress => progress.seal definition.name (source.text definition.body)
          (definition.inside source).signals := by
  have hrecord : definition.record source
      = ((definition.inside source).walk 0 {} [.visit definition.body false]).map
        fun last => last.2.seal definition.name (source.text definition.body)
          (definition.inside source).signals := rfl
  have hwalk := (definition.inside source).walk_visit definition.body 0 {} []
  rw [decide_eq_false (Nat.lt_irrefl 0)] at hwalk
  rw [hrecord, hwalk]
  cases (definition.body.reached 0).foldlM (definition.inside source).note {} with
  | error overflow => rfl
  | ok progress =>
      simp only [bind, Except.bind, Body.walk]
      rfl

end Definition

end Costwise
