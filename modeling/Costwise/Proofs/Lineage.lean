import Costwise.Syntax.Listing
import Mathlib.Data.List.Nodup

/-!
# Nodes and the Nodes Above Them

What the functions of the analysis do at a node depends on what stands above
it: a loop counts for the function whose body it is in, and which function that
is can only be seen from further up. A tree does not give that away. A node
knows its children and not its parent, so the way down to it has to be
remembered, and `Lineage` does that.

Two subtrees that are equal in all else can stand at different places, so a
statement about "this node" needs something that tells places apart. The
number of a node is there for it. `Distinct` says that the numbers of a tree do
their work, and every tree that was read from a list has this property, because
the nodes are numbered while the list is read.

The functions on trees come in pairs, one for a tree and one for a row of
trees. `Node.induction` is the induction that fits both: what holds of a node
whenever it holds of its children holds of every node, and the row is only
looked at through its members.

## Main definitions

* `Node.Lineage`: The nodes on the way down to a node, the nearest first.
* `Node.Distinct`: No two nodes of a tree have the same number.

## Theorems

* `Node.induction`: Induction through the children of a node.
* `Lineage.trans`: The way down to a node continues the way down to one above it.
* `Lineage.of_mem_above`: Every node on the way has its own way down.
* `exists_lineage`: Every node of a tree has a way down to it.
* `Lineage.preorder_sublist`: A subtree has its nodes in the same order.
* `preorder_ofEntries`: A tree that was read holds the entries of its list.
* `distinct_ofJson`: A tree that was read from a list has distinct numbers.
-/

namespace Costwise

namespace Syntax

namespace Node

theorem size_le_sizeAll {child : Node} {nodes : List Node} (h : child ∈ nodes) :
    child.size ≤ sizeAll nodes := by
  induction nodes with
  | nil => exact absurd h List.not_mem_nil
  | cons node rest ih =>
      rw [sizeAll]
      rcases List.mem_cons.mp h with rfl | h
      · omega
      · have := ih h
        omega

theorem size_lt_of_mem {child node : Node} (h : child ∈ node.children) :
    child.size < node.size := by
  have := size_le_sizeAll h
  rw [size_eq node]
  omega

/-- Induction through the children of a node. The row of the children never
    enters: a statement about it is a statement about its members. -/
theorem induction {motive : Node → Prop}
    (step : ∀ node, (∀ child ∈ node.children, motive child) → motive node)
    (node : Node) : motive node :=
  step node fun child _ => induction step child
termination_by node.size
decreasing_by exact size_lt_of_mem ‹_›

theorem preorder_eq_flatMap (node : Node) :
    node.preorder = node :: node.children.flatMap preorder := by
  rw [preorder_eq, preorderAll_eq_flatMap]

theorem self_mem_preorder (node : Node) : node ∈ node.preorder := by
  rw [preorder_eq]
  exact List.mem_cons_self

theorem preorder_sublist_of_mem {child node : Node} (h : child ∈ node.children) :
    child.preorder.Sublist node.preorder := by
  rw [preorder_eq_flatMap node]
  refine List.Sublist.cons _ ?_
  rcases List.append_of_mem h with ⟨before, after, hsplit⟩
  rw [hsplit, List.flatMap_append, List.flatMap_cons]
  exact (List.sublist_append_left _ _).trans (List.sublist_append_right _ _)

/-- The nodes on the way from the root of a tree down to a node, the nearest
    first. The node itself is not on the way, the root is unless it is the
    node. -/
inductive Lineage (root : Node) : Node → List Node → Prop
  /-- Nothing is above the root. -/
  | root : Lineage root root []
  /-- Above a child is its parent, and then what is above the parent. -/
  | child {parent child : Node} {above : List Node} (up : Lineage root parent above)
      (mem : child ∈ parent.children) : Lineage root child (parent :: above)

namespace Lineage

variable {root middle node : Node} {above up : List Node}

theorem trans (first : Lineage root middle up) (second : Lineage middle node above) :
    Lineage root node (above ++ up) := by
  induction second with
  | root => exact first
  | child _ mem ih => exact ih.child mem

theorem preorder_sublist (h : Lineage root node above) :
    node.preorder.Sublist root.preorder := by
  induction h with
  | root => exact List.Sublist.refl _
  | child _ mem ih => exact (preorder_sublist_of_mem mem).trans ih

theorem mem_preorder (h : Lineage root node above) : node ∈ root.preorder :=
  h.preorder_sublist.subset node.self_mem_preorder

end Lineage

theorem exists_lineage {root node : Node} (h : node ∈ root.preorder) :
    ∃ above, Lineage root node above := by
  induction root using Node.induction with
  | step root ih =>
      rw [preorder_eq_flatMap] at h
      rcases List.mem_cons.mp h with rfl | h
      · exact ⟨[], .root⟩
      · rcases List.mem_flatMap.mp h with ⟨child, hmem, hnode⟩
        rcases ih child hmem hnode with ⟨above, hlineage⟩
        exact ⟨above ++ [root], (Lineage.root.child hmem).trans hlineage⟩

/-- No two nodes of a tree have the same number. -/
def Distinct (root : Node) : Prop :=
  (root.preorder.map (·.index)).Nodup

instance (root : Node) : Decidable root.Distinct :=
  inferInstanceAs (Decidable (List.Nodup _))

theorem Distinct.of_lineage {root node : Node} {above : List Node} (h : root.Distinct)
    (hlineage : Lineage root node above) : node.Distinct :=
  h.sublist (hlineage.preorder_sublist.map _)

/-- The entries of a row of trees, parents first. -/
def rowEntries (row : List (Nat × Node)) : List Entry :=
  row.flatMap fun tree => tree.2.preorder.map (·.toEntry)

/-- Attaching an entry puts it in front. The trees that become its children stay
    where they are, so nothing else moves. -/
theorem rowEntries_attach (depth : Nat) (entry : Entry) (row : List (Nat × Node)) :
    rowEntries (attach depth entry row) = entry :: rowEntries row := by
  -- The row is cut where the first tree stands that is no deeper than the entry.
  let deeper (tree : Nat × Node) := decide (depth < tree.1)
  have hchildren : (preorderAll ((row.takeWhile deeper).map (·.2))).map (·.toEntry)
      = rowEntries (row.takeWhile deeper) := by
    rw [preorderAll_eq_flatMap, List.flatMap_map, List.map_flatMap, rowEntries]
  have hrow : rowEntries row
      = rowEntries (row.takeWhile deeper) ++ rowEntries (row.dropWhile deeper) := by
    rw [rowEntries, rowEntries, rowEntries, ← List.flatMap_append, List.takeWhile_append_dropWhile]
  rw [hrow, ← hchildren, attach, rowEntries, List.flatMap_cons, preorder_eq, List.map_cons,
    List.cons_append, rowEntries]

theorem rowEntries_foldr (entries : List (Nat × Entry)) :
    rowEntries (entries.foldr (fun (depth, entry) row => attach depth entry row) [])
      = entries.map (·.2) := by
  induction entries with
  | nil => rfl
  | cons first rest ih => rw [List.foldr_cons, rowEntries_attach, ih, List.map_cons]

/-- A tree that was read from a list holds entries of the list only, in order. -/
theorem preorder_ofEntries {entries : List (Nat × Entry)} {root : Node}
    (h : ofEntries? entries = some root) :
    (root.preorder.map (·.toEntry)).Sublist (entries.map (·.2)) := by
  -- The tree is the first of the row that the list was folded into.
  rw [← rowEntries_foldr entries]
  rcases Option.map_eq_some_iff.mp h with ⟨first, hfirst, rfl⟩
  rcases List.head?_eq_some_iff.mp hfirst with ⟨rest, hrest⟩
  rw [hrest, rowEntries, List.flatMap_cons]
  exact List.sublist_append_left _ _

theorem distinct_ofEntries {entries : List (Nat × Entry)} {root : Node}
    (hnodup : (entries.map (·.2.index)).Nodup) (h : ofEntries? entries = some root) :
    root.Distinct := by
  have hsub := (preorder_ofEntries h).map (·.index)
  rw [List.map_map, List.map_map] at hsub
  exact List.Nodup.sublist hsub hnodup

/-- Items of six parts are numbered by their place in the list, so a tree that was
    read from such items has distinct numbers. -/
theorem distinct_ofJson {listed : List Json}
    (hitems : ∀ item ∈ listed, ∃ depth kind flags start stop field,
      item = .arr [depth, kind, flags, start, stop, field]) :
    (ofJson (.arr listed)).Distinct := by
  have hindex : (listed.mapIdx Entry.ofJson).map (·.2.index) = List.range listed.length := by
    refine List.ext_getElem (by simp only [List.length_map, List.length_mapIdx, List.length_range])
      fun i hi _ => ?_
    rw [List.length_map, List.length_mapIdx] at hi
    rcases hitems listed[i] (List.getElem_mem hi) with
      ⟨depth, kind, flags, start, stop, field, hitem⟩
    rw [List.getElem_map, List.getElem_mapIdx, hitem, List.getElem_range]
    rfl
  rw [ofJson]
  cases h : ofEntries? (listed.mapIdx Entry.ofJson) with
  | none =>
      -- No tree came of an empty list, and a lone node stands in for it.
      rw [Option.getD_none]
      decide
  | some root => exact distinct_ofEntries (by rw [hindex]; exact List.nodup_range) h

end Node

end Syntax

end Costwise
