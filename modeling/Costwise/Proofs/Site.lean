import Costwise.Definition
import Costwise.Proofs.Lineage

/-!
# Where Definitions Stand

The search for definitions goes through a tree once and hands a flag down: a
function that its parent binds to a name is not claimed a second time. It does so
with an agenda, and `toList_search` does away with that: `locate` finds the same
definitions by recursion on the tree. The flag remains, and it is what makes the
search hard to reason about, because what the search does at a node cannot be
read off the node.

A `Site` is a node together with what the flag stands for. It knows the nodes
above it and whether its parent binds it. `sites` lists all sites of a tree,
and `locate_eq_filterMap` says that the search is a filter of that list: what
it finds at a site depends on the site alone. From there on a question about
the search is a question about sites, and the two lemmas that lead from a site
to those next to it, `child_mem_sites` and `parent_mem_sites`, answer it.

## Main definitions

* `Node.definedFunction?`: The function that a node defines.
* `Site`: A node with the nodes above it, and whether its parent binds it.
* `Node.sites`: All sites of a tree, parents first.
* `Site.definition?`: What the search finds at a site.
* `Definition.locate`: The search by recursion.

## Theorems

* `kind_mem_separateKinds`: What is judged on its own is of one of nine kinds.
* `Definition.ofNode?_eq_some_iff`: When a node holds a definition.
* `Definition.toList_search`: The search by agenda finds what the recursion finds.
* `Definition.locate_eq_filterMap`: The search finds what its sites hold.
* `map_node_sites`: There is one site for each node.
* `child_mem_sites`, `parent_mem_sites`: From a site to its children and its
  parent.
* `parent_of_bound`: A site that is marked has a parent that binds it.
* `Distinct.site_unique`: A node stands at one site only.
-/

namespace Costwise

open Syntax

namespace Syntax.Node

/-- The function that a node defines, if it defines one that is judged on its own:
    a declaration, a method or an arrow defines itself, a binding what it binds. -/
def definedFunction? (node : Node) : Option Node :=
  if node.kind.isDeclaration || node.kind == .method || node.kind == .arrow then some node
  else node.boundFunction?

/-- What a binding binds is its first child that is held as a value, and a function. -/
theorem boundFunction?_eq_some_iff {node function : Node} :
    node.boundFunction? = some function ↔
      node.bindingName?.isSome ∧ node.child? .value = some function ∧
        function.kind.isFunctionValue = true := by
  unfold boundFunction?
  cases node.bindingName? with
  | none => simp only [reduceCtorEq, Option.isSome_none, Bool.false_eq_true, false_and]
  | some field => simp only [Option.filter_eq_some_iff, Option.isSome_some, true_and]

theorem child?_of_children_eq_nil {node : Node} (h : node.children = []) (field : Field) :
    node.child? field = none := by
  rw [child?, h, List.find?_nil]

theorem mem_children_of_child? {node child : Node} {field : Field}
    (h : node.child? field = some child) : child ∈ node.children :=
  List.mem_of_find?_eq_some h

theorem mem_children_of_boundFunction? {node function : Node}
    (h : node.boundFunction? = some function) : function ∈ node.children :=
  mem_children_of_child? (boundFunction?_eq_some_iff.mp h).2.1

theorem not_isFunctionValue_of_bindingName? {node : Node} (h : node.bindingName?.isSome) :
    node.kind.isFunctionValue = false := by
  unfold bindingName? at h
  cases hk : node.kind <;> simp only [hk, Option.isSome_none, Bool.false_eq_true] at h <;> rfl

theorem definedFunction?_of_bindingName? {node : Node} (h : node.bindingName?.isSome) :
    node.definedFunction? = node.boundFunction? := by
  unfold bindingName? at h
  unfold definedFunction?
  cases hk : node.kind <;> simp only [hk, Option.isSome_none, Bool.false_eq_true] at h <;> rfl

theorem definedFunction?_cases {node function : Node}
    (h : node.definedFunction? = some function) :
    function = node ∨ node.boundFunction? = some function := by
  unfold definedFunction? at h
  split at h
  · exact .inl (Option.some.inj h).symm
  · exact .inr h

/-- The kinds that a separate definition can have. A binding has one of them only
    if it binds a function. -/
def separateKinds : List Kind :=
  [.functionDeclaration, .generatorDeclaration, .method, .classDeclaration, .classValue, .arrow,
    .declarator, .pair, .fieldDefinition]

theorem kind_mem_separateKinds {node : Node} (h : node.isSeparate = true) :
    node.kind ∈ separateKinds := by
  simp only [isSeparate, boundFunction?, bindingName?] at h
  cases hkind : node.kind <;> simp only [hkind] at h <;>
    first | decide | exact absurd h (by simp [Kind.isDeclaration, Kind.isClass])

theorem not_isSeparate_of_kind {node : Node} (h : node.kind ∉ separateKinds) :
    node.isSeparate = false :=
  eq_false_of_ne_true fun hsep => h (kind_mem_separateKinds hsep)

/-- Among the functions that can be bound, only arrows are judged on their own. -/
theorem kind_eq_arrow {node : Node} (hsep : node.isSeparate = true)
    (hvalue : node.kind.isFunctionValue = true) : node.kind = .arrow := by
  have honly : ∀ kind ∈ separateKinds, kind.isFunctionValue = true → kind = .arrow := by decide
  exact honly node.kind (kind_mem_separateKinds hsep) hvalue

theorem isSeparate_of_definedFunction? {node function : Node}
    (h : node.definedFunction? = some function) : node.isSeparate = true := by
  unfold definedFunction? at h
  unfold isSeparate
  split at h
  · rename_i hkind
    simp only [Bool.or_eq_true] at hkind ⊢
    rcases hkind with (hkind | hkind) | hkind
    · exact .inl (.inl (.inl (.inl hkind)))
    · exact .inl (.inl (.inl (.inr hkind)))
    · exact .inl (.inr hkind)
  · rw [h, Option.isSome_some, Bool.or_true]

end Syntax.Node

namespace Definition

variable {source : Source} {anonymous : String}

theorem map_snd_claim? (source : Source) (anonymous : String) (node : Node) :
    (claim? source anonymous node).map (·.2) = node.definedFunction? := by
  -- A binding claims what it binds or nothing, any other node itself or nothing.
  by_cases hbinding : node.bindingName?.isSome
  · rw [Node.definedFunction?_of_bindingName? hbinding]
    unfold claim? Node.boundFunction?
    unfold Node.bindingName? at hbinding ⊢
    cases hk : node.kind <;> simp only [hk, Option.isSome_none, Bool.false_eq_true] at hbinding <;>
      cases (node.child? .value).filter (·.kind.isFunctionValue) <;> rfl
  · unfold claim? Node.definedFunction? Node.boundFunction?
    rw [Option.not_isSome_iff_eq_none.mp hbinding]
    cases node.kind <;> rfl

/-- A node holds a definition if it claims a function and the function has a body. -/
theorem ofNode?_eq_some_iff {node : Node} {definition : Definition} :
    ofNode? source anonymous node = some definition ↔
      claim? source anonymous node = some (definition.name, definition.function) ∧
        definition.function.child? .body = some definition.body := by
  unfold ofNode?
  rcases definition with ⟨name, function, body⟩
  cases claim? source anonymous node with
  | none => simp only [reduceCtorEq, false_and]
  | some claimed =>
      rcases claimed with ⟨claimedName, claimedFunction⟩
      simp only [Option.map_eq_some_iff, mk.injEq, Option.some.injEq, Prod.mk.injEq]
      constructor
      · rintro ⟨found, hbody, rfl, rfl, rfl⟩
        exact ⟨⟨rfl, rfl⟩, hbody⟩
      · rintro ⟨⟨rfl, rfl⟩, hbody⟩
        exact ⟨body, hbody, rfl, rfl, rfl⟩

theorem definedFunction?_of_ofNode? {node : Node} {definition : Definition}
    (h : ofNode? source anonymous node = some definition) :
    node.definedFunction? = some definition.function := by
  rw [← map_snd_claim? source anonymous, (ofNode?_eq_some_iff.mp h).1, Option.map_some]

theorem ofNode?_of_not_isSeparate (source : Source) (anonymous : String) {node : Node}
    (h : node.isSeparate = false) : ofNode? source anonymous node = none := by
  cases hof : ofNode? source anonymous node with
  | none => rfl
  | some definition =>
      have hsep := Node.isSeparate_of_definedFunction? (definedFunction?_of_ofNode? hof)
      exact absurd (h.symm.trans hsep) Bool.false_ne_true

/-- A function without children has no body, and what has no children binds none. -/
theorem ofNode?_of_children_eq_nil (source : Source) (anonymous : String) {node : Node}
    (h : node.children = []) : ofNode? source anonymous node = none := by
  have hchild := Node.child?_of_children_eq_nil h
  cases hof : ofNode? source anonymous node with
  | none => rfl
  | some definition =>
      have hbody := (ofNode?_eq_some_iff.mp hof).2
      rcases Node.definedFunction?_cases (definedFunction?_of_ofNode? hof) with hself | hbound
      · rw [hself, hchild] at hbody
        exact nomatch hbody
      · have hvalue := (Node.boundFunction?_eq_some_iff.mp hbound).2.1
        exact nomatch (hchild .value).symm.trans hvalue

/-- A function with a body gives a definition wherever it is claimed. -/
theorem exists_ofNode? {node function body : Node} (source : Source) (anonymous : String)
    (hfunction : node.definedFunction? = some function)
    (hbody : function.child? .body = some body) :
    ∃ name, ofNode? source anonymous node = some ⟨name, function, body⟩ := by
  rw [← map_snd_claim? source anonymous] at hfunction
  rcases Option.map_eq_some_iff.mp hfunction with ⟨⟨name, claimed⟩, hclaim, rfl⟩
  exact ⟨name, ofNode?_eq_some_iff.mpr ⟨hclaim, hbody⟩⟩

end Definition

/-- A node with the nodes above it, the nearest first, and whether its parent
    binds it to a name. -/
structure Site where
  /-- The node. -/
  node : Node
  /-- The nodes above. -/
  above : List Node
  /-- Whether the parent binds the node to a name. -/
  bound : Bool

/-- What the search for definitions finds at a site: nothing if the parent has
    claimed the node. -/
def Site.definition? (source : Source) (anonymous : String) (site : Site) : Option Definition :=
  if site.bound then none else Definition.ofNode? source anonymous site.node

namespace Syntax.Node

mutual

/-- All sites of a tree, parents first. -/
def sites (above : List Node) (bound : Bool) : Node → List Site
  | ⟨entry, children⟩ =>
    let node : Node := ⟨entry, children⟩
    ⟨node, above, bound⟩ :: sitesAll (node :: above) node.boundFunction?.isSome children

/-- All sites of a row of trees. -/
def sitesAll (above : List Node) (binds : Bool) : List Node → List Site
  | [] => []
  | node :: nodes =>
    let isBound := binds && node.field == some .value
    node.sites above isBound ++ sitesAll above (binds && !isBound) nodes

end

theorem marked_false (nodes : List Node) :
    marked false nodes = nodes.map fun node => (node, false) := by
  induction nodes with
  | nil => rfl
  | cons node rest ih => rw [marked, List.map_cons, Bool.false_and, Bool.false_and, ih]

/-- The marked node is the first that is held as a value. -/
theorem mem_marked_true {binds : Bool} {nodes : List Node} {node : Node}
    (h : (node, true) ∈ marked binds nodes) :
    binds = true ∧ nodes.find? (·.field == some .value) = some node := by
  induction nodes generalizing binds with
  | nil => exact absurd h List.not_mem_nil
  | cons first rest ih =>
      rw [marked] at h
      rcases List.mem_cons.mp h with h | h
      · rcases Prod.mk.inj h with ⟨rfl, hbound⟩
        rw [eq_comm, Bool.and_eq_true] at hbound
        exact ⟨hbound.1, List.find?_cons_of_pos hbound.2⟩
      · -- Further on a node is marked only if the first was not.
        rcases ih h with ⟨hbinds, hfind⟩
        rw [Bool.and_eq_true] at hbinds
        rcases hbinds with ⟨rfl, hnot⟩
        refine ⟨rfl, ?_⟩
        rw [Bool.true_and, Bool.not_eq_true'] at hnot
        rw [List.find?_cons_of_neg (by rw [hnot]; exact Bool.false_ne_true), hfind]

theorem marked_of_find? {nodes : List Node} {node : Node}
    (h : nodes.find? (·.field == some .value) = some node) :
    (node, true) ∈ marked true nodes := by
  induction nodes with
  | nil => exact absurd h (by simp only [List.find?_nil, reduceCtorEq, not_false_eq_true])
  | cons first rest ih =>
      rw [marked, Bool.true_and, Bool.true_and]
      cases hfirst : first.field == some Field.value with
      | true =>
          simp only [List.find?_cons, hfirst, Option.some.injEq] at h
          rw [h]
          exact List.mem_cons_self
      | false =>
          simp only [List.find?_cons, hfirst] at h
          exact List.mem_cons_of_mem _ (ih h)

theorem sitesAll_eq_flatMap (above : List Node) (binds : Bool) (nodes : List Node) :
    sitesAll above binds nodes
      = (marked binds nodes).flatMap fun (child, isBound) => child.sites above isBound := by
  induction nodes generalizing binds with
  | nil => rw [sitesAll, marked, List.flatMap_nil]
  | cons node rest ih => rw [sitesAll, marked, List.flatMap_cons, ih]

theorem sites_eq_flatMap (node : Node) (above : List Node) (bound : Bool) :
    node.sites above bound = ⟨node, above, bound⟩ ::
      node.markedChildren.flatMap fun (child, isBound) => child.sites (node :: above) isBound := by
  cases node
  rw [sites, sitesAll_eq_flatMap, markedChildren]

theorem mem_markedChildren_true {node child : Node} :
    (child, true) ∈ node.markedChildren ↔ node.boundFunction? = some child := by
  constructor
  · intro h
    rcases mem_marked_true h with ⟨hbinds, hfind⟩
    rcases Option.isSome_iff_exists.mp hbinds with ⟨function, hfunction⟩
    have hchild := (boundFunction?_eq_some_iff.mp hfunction).2.1
    rw [child?, hfind, Option.some.injEq] at hchild
    rw [hfunction, hchild]
  · intro h
    rw [markedChildren, h, Option.isSome_some]
    exact marked_of_find? (boundFunction?_eq_some_iff.mp h).2.1

theorem mem_children_of_markedChildren {node child : Node} {isBound : Bool}
    (h : (child, isBound) ∈ node.markedChildren) : child ∈ node.children := by
  rw [← map_fst_marked node.boundFunction?.isSome node.children]
  exact List.mem_map_of_mem h

theorem exists_markedChildren {node child : Node} (h : child ∈ node.children) :
    ∃ isBound, (child, isBound) ∈ node.markedChildren := by
  rw [← map_fst_marked node.boundFunction?.isSome node.children] at h
  rcases List.mem_map.mp h with ⟨⟨found, isBound⟩, hmem, rfl⟩
  exact ⟨isBound, hmem⟩

/-- There is one site for each node, in the same order. -/
theorem map_node_sites (node : Node) (above : List Node) (bound : Bool) :
    (node.sites above bound).map (·.node) = node.preorder := by
  induction node using Node.induction generalizing above bound with
  | step node ih =>
      rw [sites_eq_flatMap, preorder_eq_flatMap, List.map_cons, List.map_flatMap]
      congr 1
      -- Marking the children leaves their order alone.
      rw [← map_fst_marked node.boundFunction?.isSome node.children, List.flatMap_map]
      refine List.flatMap_congr fun child hchild => ?_
      exact ih child.1 (mem_children_of_markedChildren hchild) _ _

theorem self_mem_sites (node : Node) (above : List Node) (bound : Bool) :
    ⟨node, above, bound⟩ ∈ node.sites above bound := by
  rw [sites_eq_flatMap]
  exact List.mem_cons_self

theorem child_mem_sites {node child : Node} {above : List Node} {bound isBound : Bool} {site : Site}
    (hsite : site ∈ node.sites above bound) (hchild : (child, isBound) ∈ site.node.markedChildren) :
    ⟨child, site.node :: site.above, isBound⟩ ∈ node.sites above bound := by
  induction node using Node.induction generalizing above bound with
  | step node ih =>
      rw [sites_eq_flatMap] at hsite ⊢
      refine List.mem_cons_of_mem _ (List.mem_flatMap.mpr ?_)
      rcases List.mem_cons.mp hsite with rfl | hsite
      · exact ⟨(child, isBound), hchild, self_mem_sites _ _ _⟩
      · rcases List.mem_flatMap.mp hsite with ⟨⟨first, isFirstBound⟩, hfirst, hsite⟩
        exact ⟨_, hfirst, ih first (mem_children_of_markedChildren hfirst) hsite⟩

theorem parent_mem_sites {node : Node} {above : List Node} {bound : Bool} {site : Site}
    (hsite : site ∈ node.sites above bound) :
    site = ⟨node, above, bound⟩ ∨
      ∃ parent ∈ node.sites above bound,
        (site.node, site.bound) ∈ parent.node.markedChildren ∧
          site.above = parent.node :: parent.above := by
  induction node using Node.induction generalizing above bound with
  | step node ih =>
      rw [sites_eq_flatMap] at hsite ⊢
      rcases List.mem_cons.mp hsite with rfl | hsite
      · exact .inl rfl
      · right
        rcases List.mem_flatMap.mp hsite with ⟨⟨child, isBound⟩, hchild, hsite⟩
        -- The site is that of a child, or its parent lies below the child as well.
        rcases ih child (mem_children_of_markedChildren hchild) hsite with
          rfl | ⟨parent, hparent, hmarked, habove⟩
        · exact ⟨⟨node, above, bound⟩, List.mem_cons_self, hchild, rfl⟩
        · exact ⟨parent, List.mem_cons_of_mem _ (List.mem_flatMap.mpr ⟨_, hchild, hparent⟩),
            hmarked, habove⟩

theorem parent_of_bound {root : Node} {site : Site} (hsite : site ∈ root.sites [] false)
    (hbound : site.bound = true) :
    ∃ parent ∈ root.sites [] false, parent.node.boundFunction? = some site.node ∧
      site.above = parent.node :: parent.above := by
  rcases parent_mem_sites hsite with rfl | ⟨parent, hparent, hmarked, habove⟩
  · exact absurd hbound Bool.false_ne_true
  · rw [hbound] at hmarked
    exact ⟨parent, hparent, mem_markedChildren_true.mp hmarked, habove⟩

theorem lineage_of_mem_sites {root node : Node} {above : List Node} {bound : Bool} {site : Site}
    (hsite : site ∈ node.sites above bound) (hnode : Lineage root node above) :
    Lineage root site.node site.above := by
  induction node using Node.induction generalizing above bound with
  | step node ih =>
      rw [sites_eq_flatMap] at hsite
      rcases List.mem_cons.mp hsite with rfl | hsite
      · exact hnode
      · rcases List.mem_flatMap.mp hsite with ⟨⟨child, isBound⟩, hchild, hsite⟩
        have hmem := mem_children_of_markedChildren hchild
        exact ih child hmem hsite (hnode.child hmem)

theorem exists_site_of_lineage {root node : Node} {above : List Node}
    (h : Lineage root node above) : ∃ bound, ⟨node, above, bound⟩ ∈ root.sites [] false := by
  induction h with
  | root => exact ⟨false, self_mem_sites _ _ _⟩
  | child _ mem ih =>
      rcases ih with ⟨bound, hparent⟩
      rcases exists_markedChildren mem with ⟨isBound, hmarked⟩
      exact ⟨isBound, child_mem_sites hparent hmarked⟩

theorem Distinct.nodup_sites {root : Node} (hdistinct : root.Distinct) :
    ((root.sites [] false).map fun site => site.node.index).Nodup := by
  rw [Distinct, ← map_node_sites root [] false, List.map_map] at hdistinct
  exact hdistinct

theorem Distinct.site_unique {root : Node} (hdistinct : root.Distinct) {first second : Site}
    (hfirst : first ∈ root.sites [] false) (hsecond : second ∈ root.sites [] false)
    (hindex : first.node.index = second.node.index) : first = second :=
  List.inj_on_of_nodup_map hdistinct.nodup_sites hfirst hsecond hindex

/-- A node has one way down to it. -/
theorem Distinct.lineage_unique {root node : Node} (hdistinct : root.Distinct)
    {first second : List Node} (hfirst : Lineage root node first)
    (hsecond : Lineage root node second) : first = second := by
  rcases exists_site_of_lineage hfirst with ⟨_, hfirst⟩
  rcases exists_site_of_lineage hsecond with ⟨_, hsecond⟩
  exact congrArg Site.above (hdistinct.site_unique hfirst hsecond rfl)

end Syntax.Node

namespace Definition

variable (source : Source) (anonymous : String)

mutual

/-- The definitions of a tree, in preorder. A bound function is not claimable: its
    binding has claimed it. -/
def locate (claimable : Bool) : Node → List Definition
  | ⟨entry, children⟩ =>
    let node : Node := ⟨entry, children⟩
    let here := if claimable then ofNode? source anonymous node else none
    here.toList ++ locateAll node.boundFunction?.isSome children

/-- The definitions of a forest. If a bound function is among the trees, it is the
    first that is held as a value. -/
def locateAll (bound : Bool) : List Node → List Definition
  | [] => []
  | node :: nodes =>
    let isBound := bound && node.field == some .value
    locate (!isBound) node ++ locateAll (bound && !isBound) nodes

end

theorem locateAll_eq_flatMap (binds : Bool) (nodes : List Node) :
    locateAll source anonymous binds nodes
      = (Node.marked binds nodes).flatMap fun (child, isBound) =>
        locate source anonymous (!isBound) child := by
  induction nodes generalizing binds with
  | nil => rw [locateAll, Node.marked, List.flatMap_nil]
  | cons node rest ih => rw [locateAll, Node.marked, List.flatMap_cons, ih]

/-- What the search finds at a node and below it, child by child. -/
theorem locate_eq_append (claimable : Bool) (node : Node) :
    locate source anonymous claimable node
      = (if claimable then ofNode? source anonymous node else none).toList
        ++ node.markedChildren.flatMap fun (child, isBound) =>
          locate source anonymous (!isBound) child := by
  cases node
  rw [locate, locateAll_eq_flatMap, Node.markedChildren]

/-- There is no function in a node without children. -/
theorem locate_of_children_eq_nil (claimable : Bool) {node : Node} (h : node.children = []) :
    locate source anonymous claimable node = [] := by
  rw [locate_eq_append, ofNode?_of_children_eq_nil source anonymous h, ite_self,
    Node.markedChildren, h]
  rfl

/-- The search by agenda finds what was found before and then what the trees of the agenda
    hold. A node makes room for its children, and all that they hold comes next. -/
theorem toList_search (found : Array Definition) (agenda : List (Node × Bool)) :
    (search source anonymous found agenda).toList
      = found.toList ++ agenda.flatMap fun (node, bound) =>
        locate source anonymous (!bound) node := by
  fun_induction search source anonymous found agenda with
  | case1 found => rw [List.flatMap_nil, List.append_nil]
  | case2 found node bound agenda here ih =>
      have hhere : (if !bound then ofNode? source anonymous node else none) = here := by
        cases bound <;> rfl
      have hfound : (here.elim found found.push).toList = found.toList ++ here.toList := by
        cases here with
        | none => rw [Option.elim_none, Option.toList_none, List.append_nil]
        | some definition => rw [Option.elim_some, Array.toList_push, Option.toList_some]
      have hnode := locate_eq_append source anonymous (!bound) node
      rw [hhere] at hnode
      simp only [ih, hfound, List.flatMap_append, List.flatMap_cons, hnode, List.append_assoc]

/-- The search finds what the sites of the tree hold, one by one. -/
theorem locate_eq_filterMap (node : Node) (above : List Node) (bound : Bool) :
    locate source anonymous (!bound) node
      = (node.sites above bound).filterMap (Site.definition? source anonymous) := by
  induction node using Node.induction generalizing above bound with
  | step node ih =>
      -- The flag that the search hands down is the mark of the site, negated.
      have hhere : (if !bound then ofNode? source anonymous node else none)
          = Site.definition? source anonymous ⟨node, above, bound⟩ := by
        cases bound <;> rfl
      have hbelow : (node.markedChildren.flatMap fun (child, isBound) =>
            locate source anonymous (!isBound) child)
          = (node.markedChildren.flatMap fun (child, isBound) =>
              child.sites (node :: above) isBound).filterMap
            (Site.definition? source anonymous) := by
        rw [List.filterMap_flatMap]
        refine List.flatMap_congr fun child hchild => ?_
        exact ih child.1 (Node.mem_children_of_markedChildren hchild) _ _
      rw [locate_eq_append, hhere, hbelow, Node.sites_eq_flatMap, List.filterMap_cons]
      cases Site.definition? source anonymous ⟨node, above, bound⟩ <;> rfl

end Definition

namespace Syntax.Program

theorem definitions_eq_locate (program : Program) (anonymous : String) :
    program.definitions anonymous
      = Definition.locate program.source anonymous true program.root := by
  rw [definitions, Definition.toList_search, List.flatMap_singleton]
  rfl

/-- The definitions of a program are those that its sites hold. -/
theorem definitions_eq_filterMap (program : Program) (anonymous : String) :
    program.definitions anonymous = (program.root.sites [] false).filterMap
      (Site.definition? program.source anonymous) := by
  rw [definitions_eq_locate]
  exact Definition.locate_eq_filterMap program.source anonymous program.root [] false

end Syntax.Program

end Costwise
