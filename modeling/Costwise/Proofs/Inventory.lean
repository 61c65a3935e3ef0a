import Costwise.Proofs.Ownership
import Mathlib.Data.List.Forall2
import Mathlib.Data.List.TakeWhile

/-!
# The Inventory of a Program

Which functions a search should find can be said without the search. Declarations
and methods define themselves, a binding defines what it binds, and an arrow
defines itself unless a binding has defined it already. Read the nodes of a tree
in preorder, keep those that define a function with a body, and that is the
inventory. Nothing in it depends on how a node was come to.

The search has only its flag to go by, and the flag is about the child that the
search is looking at, while `isBoundIn` asks the whole tree whether some node
binds this one. The two agree because a node can only be bound by its parent, and
has one parent (`bound_eq_isBoundIn`). Here the numbers of the nodes matter: in a
tree with two nodes of the same number there is no telling which of them is bound.
Trees that were read from a list have distinct numbers.

What is reported of a node is described rather than computed. In particular the
name is the text of a field without the blanks around it and then without the
quotes around the rest, and `Stripped` says what "without" means.

## Main definitions

* `Text.Stripped`: A text without the characters of a class at its ends.
* `Node.inventory`: The nodes of a tree that define a function with a body.
* `Definition.Reports`: What is to be reported of such a node.

## Theorems

* `bound_eq_isBoundIn`: The flag of the search says what the tree says.
* `definition?_cases`: What is found at a site is what is to be reported.
* `function_site_unique`: No function is found at two sites.
* `definitions_report_inventory`: The search reports the inventory, node by node.
-/

namespace Costwise

open Syntax

/-- A text without the characters of a class at its two ends. What is left begins and
    ends with another character, or is empty. -/
def Text.Stripped (drops : Char → Bool) (text core : List Char) : Prop :=
  ∃ front back, text = front ++ core ++ back ∧
    (∀ c ∈ front, drops c = true) ∧ (∀ c ∈ back, drops c = true) ∧
      (∀ c ∈ core.head?, drops c = false) ∧ ∀ c ∈ core.getLast?, drops c = false

theorem Text.stripped_dropWhile (drops : Char → Bool) (text : List Char) :
    Stripped drops text ((text.dropWhile drops).reverse.dropWhile drops).reverse := by
  have hhead : ∀ cs : List Char, ∀ c ∈ (cs.dropWhile drops).head?, drops c = false := by
    intro cs c hc
    have hnot := List.head?_dropWhile_not drops cs
    rw [hc] at hnot
    exact hnot
  -- The front goes first. The back is the front of what is left, read backwards.
  generalize hrest : text.dropWhile drops = rest
  have hsplit : rest = (rest.reverse.dropWhile drops).reverse
      ++ (rest.reverse.takeWhile drops).reverse := by
    rw [← List.reverse_append, List.takeWhile_append_dropWhile, List.reverse_reverse]
  refine ⟨text.takeWhile drops, (rest.reverse.takeWhile drops).reverse, ?_, ?_, ?_, ?_, ?_⟩
  · rw [List.append_assoc, ← hsplit, ← hrest, List.takeWhile_append_dropWhile]
  · exact fun c hc => List.mem_takeWhile_imp hc
  · exact fun c hc => List.mem_takeWhile_imp (List.mem_reverse.mp hc)
  · -- What is left begins as the rest did before its back was dropped.
    intro c hc
    refine hhead text c ?_
    rw [hrest, hsplit, List.head?_append, hc, Option.some_or]
    exact rfl
  · intro c hc
    rw [List.getLast?_reverse] at hc
    exact hhead _ c hc

namespace Syntax.Node

/-- Whether some node of a tree binds a node to a name. -/
def isBoundIn (root node : Node) : Bool :=
  root.preorder.any fun binding => binding.boundFunction?.any (·.index == node.index)

/-- Whether a node of a tree defines a function that is judged on its own. -/
def isDefining (root node : Node) : Bool :=
  node.kind == .functionDeclaration || node.kind == .generatorDeclaration ||
    node.kind == .method || node.boundFunction?.isSome ||
    (node.kind == .arrow && !root.isBoundIn node)

/-- The function of a node that defines one: the value of a binding, else the node. -/
def functionNode (node : Node) : Node :=
  node.boundFunction?.getD node

/-- The field that holds the name of what a node defines. An arrow has none. -/
def nameField? (node : Node) : Option Field :=
  match node.kind with
  | .functionDeclaration | .generatorDeclaration | .method | .declarator => some .name
  | .pair => some .key
  | .fieldDefinition => some .property
  | _ => none

/-- Whether a node of a tree defines a function that has a body. -/
def isListed (root node : Node) : Bool :=
  root.isDefining node && (node.functionNode.child? .body).isSome

/-- The nodes of a tree that define a function with a body, in preorder. -/
def inventory (root : Node) : List Node :=
  root.preorder.filter root.isListed

theorem isDefining_eq (root node : Node) :
    root.isDefining node = (node.kind.isDeclaration || node.kind == .method ||
      node.boundFunction?.isSome || (node.kind == .arrow && !root.isBoundIn node)) := by
  unfold isDefining
  cases node.kind <;> rfl

theorem nameField?_eq (node : Node) :
    node.nameField?
      = if node.kind.isDeclaration || node.kind == .method then some .name
        else node.bindingName? := by
  unfold nameField? bindingName?
  cases node.kind <;> rfl

theorem boundFunction?_eq_none_of_bindingName? {node : Node} (h : node.bindingName? = none) :
    node.boundFunction? = none := by
  rw [boundFunction?, h]

-- What is bound is a function, and no function binds anything.
theorem boundFunction?_of_bound {node function : Node} (h : node.boundFunction? = some function) :
    function.boundFunction? = none := by
  have hvalue := (boundFunction?_eq_some_iff.mp h).2.2
  refine boundFunction?_eq_none_of_bindingName?
    (Option.not_isSome_iff_eq_none.mp fun hbinding => ?_)
  rw [not_isFunctionValue_of_bindingName? hbinding] at hvalue
  exact absurd hvalue Bool.false_ne_true

theorem functionNode_eq {node function : Node} (h : node.definedFunction? = some function) :
    node.functionNode = function := by
  unfold functionNode
  by_cases hbinding : node.bindingName?.isSome
  · rw [← definedFunction?_of_bindingName? hbinding, h, Option.getD_some]
  · -- What is no binding defines itself.
    have hnone := boundFunction?_eq_none_of_bindingName? (Option.not_isSome_iff_eq_none.mp hbinding)
    unfold definedFunction? at h
    split at h
    · rw [hnone, Option.getD_none]
      exact Option.some.inj h
    · rw [hnone] at h
      cases h

theorem isSome_definedFunction? (node : Node) :
    node.definedFunction?.isSome = (node.kind.isDeclaration || node.kind == .method ||
      node.boundFunction?.isSome || node.kind == .arrow) := by
  unfold definedFunction?
  split
  · rename_i hkind
    rw [Option.isSome_some, Bool.or_right_comm, hkind, Bool.true_or]
  · rename_i hkind
    rw [Bool.or_right_comm, Bool.eq_false_iff.mpr hkind, Bool.false_or]

-- A node is bound in a tree if its parent binds it: the search needs to know no more
-- than what it was told on the way down.
theorem bound_eq_isBoundIn {root : Node} {site : Site} (hdistinct : root.Distinct)
    (hsite : site ∈ root.sites [] false) : site.bound = root.isBoundIn site.node := by
  rw [Bool.eq_iff_iff]
  constructor
  · intro hbound
    rcases parent_of_bound hsite hbound with ⟨parent, hparent, hbinds, _⟩
    have hmem : parent.node ∈ root.preorder := (lineage_of_mem_sites hparent .root).mem_preorder
    refine List.any_eq_true.mpr ⟨parent.node, hmem, ?_⟩
    rw [hbinds, Option.any_some]
    exact beq_self_eq_true _
  · intro hbound
    rcases List.any_eq_true.mp hbound with ⟨binding, hmem, hbinds⟩
    rcases (Option.any_eq_true _ _).mp hbinds with ⟨function, hfunction, hindex⟩
    rcases exists_lineage hmem with ⟨above, hlineage⟩
    rcases exists_site_of_lineage hlineage with ⟨bound, hbinding⟩
    -- What is bound stands at a marked site, and there is one site for its number.
    have hmarked := child_mem_sites hbinding (mem_markedChildren_true.mpr hfunction)
    rw [hdistinct.site_unique hsite hmarked (beq_iff_eq.mp hindex).symm]

end Syntax.Node

namespace Definition

variable {source : Source} {anonymous : String} {definition : Definition}

/-- Whether a name is a text without the blanks around it and then without quotes. -/
def IsNameOf (name : String) (text : List Char) : Prop :=
  ∃ trimmed, Text.Stripped Text.isBlank text trimmed ∧ Text.Stripped isQuote trimmed name.toList

theorem isNameOf_cleanName (text : List Char) : IsNameOf (cleanName text) text := by
  refine ⟨Text.trim text, Text.stripped_dropWhile _ _, ?_⟩
  rw [cleanName, String.toList_ofList]
  exact Text.stripped_dropWhile _ _

/-- What is to be reported of a node that defines a function. -/
structure Reports (source : Source) (anonymous : String) (node : Node) (definition : Definition) :
    Prop where
  function_eq : definition.function = node.functionNode
  body_eq : definition.function.child? .body = some definition.body
  named : ∀ field, node.nameField? = some field →
    IsNameOf definition.name (source.text? (node.child? field)).toList
  nameless : node.nameField? = none → definition.name = anonymous

theorem isNameOf_nameAt (source : Source) (node : Node) (field : Field) :
    IsNameOf (nameAt source node field) (source.text? (node.child? field)).toList := by
  unfold nameAt
  cases node.child? field with
  | none => exact isNameOf_cleanName []
  | some name =>
      rw [Source.text?, Source.text, String.toList_ofList]
      exact isNameOf_cleanName _

-- The name that is claimed, by the field that holds it.
theorem name_of_claim? {node function : Node} {name : String}
    (h : claim? source anonymous node = some (name, function)) :
    (∀ field, node.nameField? = some field → name = nameAt source node field) ∧
      (node.nameField? = none → name = anonymous) := by
  unfold claim? at h
  rw [Node.nameField?_eq]
  split at h
  · rename_i hkind
    rw [if_pos hkind]
    refine ⟨fun field hfield => ?_, fun hnone => absurd hnone (Option.some_ne_none _)⟩
    rw [← Option.some.inj hfield]
    exact (Prod.mk.inj (Option.some.inj h)).1.symm
  · rename_i hkind
    rw [if_neg hkind]
    split at h
    · rename_i field _ hbinding _
      rw [hbinding]
      refine ⟨fun given hgiven => ?_, fun hnone => absurd hnone (Option.some_ne_none _)⟩
      rw [← Option.some.inj hgiven]
      exact (Prod.mk.inj (Option.some.inj h)).1.symm
    · split at h
      · rename_i harrow
        have hbinding : node.bindingName? = none := by rw [Node.bindingName?, harrow]
        rw [hbinding]
        refine ⟨fun _ hfield => absurd hfield.symm (Option.some_ne_none _), fun _ => ?_⟩
        exact (Prod.mk.inj (Option.some.inj h)).1.symm
      · cases h

theorem reports_of_ofNode? {node : Node} (h : ofNode? source anonymous node = some definition) :
    Reports source anonymous node definition := by
  rcases ofNode?_eq_some_iff.mp h with ⟨hclaim, hbody⟩
  rcases name_of_claim? hclaim with ⟨hnamed, hnameless⟩
  refine ⟨(Node.functionNode_eq (definedFunction?_of_ofNode? h)).symm, hbody, ?_, hnameless⟩
  intro field hfield
  rw [hnamed field hfield]
  exact isNameOf_nameAt source node field

end Definition

namespace Site

variable {source : Source} {anonymous : String} {root : Node} {site other : Site}
  {definition otherDefinition : Definition}

-- A bound node is a function and so defines nothing but itself, which its binding has
-- defined already.
theorem isDefining_of_bound (hdistinct : root.Distinct) (hsite : site ∈ root.sites [] false)
    (hbound : site.bound = true) : root.isDefining site.node = false := by
  rcases Node.parent_of_bound hsite hbound with ⟨_, _, hbinds, _⟩
  have hvalue := (Node.boundFunction?_eq_some_iff.mp hbinds).2.2
  have hneither : site.node.kind.isDeclaration = false ∧ (site.node.kind == .method) = false := by
    cases hkind : site.node.kind <;> rw [hkind] at hvalue <;>
      first | exact ⟨rfl, rfl⟩ | exact absurd hvalue Bool.false_ne_true
  rw [Node.isDefining_eq, hneither.1, hneither.2, Node.boundFunction?_of_bound hbinds,
    ← Node.bound_eq_isBoundIn hdistinct hsite, hbound]
  exact Bool.and_false _

theorem isDefining_of_not_bound (hdistinct : root.Distinct) (hsite : site ∈ root.sites [] false)
    (hbound : site.bound = false) :
    root.isDefining site.node = site.node.definedFunction?.isSome := by
  rw [Node.isDefining_eq, Node.isSome_definedFunction?, ← Node.bound_eq_isBoundIn hdistinct hsite,
    hbound, Bool.not_false, Bool.and_true]

-- A site holds a definition if its node is on the inventory, and then the right one.
theorem definition?_cases (source : Source) (anonymous : String) (hdistinct : root.Distinct)
    (hsite : site ∈ root.sites [] false) :
    (root.isListed site.node = false ∧ site.definition? source anonymous = none) ∨
      (root.isListed site.node = true ∧ ∃ definition,
        site.definition? source anonymous = some definition ∧
          Definition.Reports source anonymous site.node definition) := by
  unfold Node.isListed
  cases hbound : site.bound with
  | true =>
      refine .inl ⟨?_, if_pos hbound⟩
      rw [isDefining_of_bound hdistinct hsite hbound, Bool.false_and]
  | false =>
      rw [isDefining_of_not_bound hdistinct hsite hbound, definition?, hbound]
      cases hof : Definition.ofNode? source anonymous site.node with
      | some definition =>
          have hfunction := Definition.definedFunction?_of_ofNode? hof
          have hbody := (Definition.ofNode?_eq_some_iff.mp hof).2
          refine .inr ⟨?_, definition, rfl, Definition.reports_of_ofNode? hof⟩
          rw [Node.functionNode_eq hfunction, hfunction, hbody]
          rfl
      | none =>
          -- A function with a body would have been claimed.
          refine .inl ⟨eq_false_of_ne_true fun hlisted => ?_, rfl⟩
          rcases Bool.and_eq_true_iff.mp hlisted with ⟨hdefined, hbody⟩
          rcases Option.isSome_iff_exists.mp hdefined with ⟨function, hfunction⟩
          rw [Node.functionNode_eq hfunction] at hbody
          rcases Option.isSome_iff_exists.mp hbody with ⟨body, hbody⟩
          rcases Definition.exists_ofNode? source anonymous hfunction hbody with ⟨name, hsome⟩
          rw [hof] at hsome
          cases hsome

-- The function that is found at a site stands there, or one step below it as a bound
-- node.
theorem exists_function_site (hsite : site ∈ root.sites [] false)
    (hdefinition : site.definition? source anonymous = some definition) :
    ∃ place ∈ root.sites [] false, place.node = definition.function ∧
      (place = site ∨ place.bound = true ∧ place.above = site.node :: site.above) := by
  rcases definition?_eq_some_iff.mp hdefinition with ⟨_, hof⟩
  have hdefined := Definition.definedFunction?_of_ofNode? hof
  rcases Node.definedFunction?_cases hdefined with hself | hbound
  · exact ⟨site, hsite, hself.symm, .inl rfl⟩
  · have hplace := Node.child_mem_sites hsite (Node.mem_markedChildren_true.mpr hbound)
    exact ⟨_, hplace, rfl, .inr ⟨rfl, rfl⟩⟩

theorem function_site_unique (hdistinct : root.Distinct) (hsite : site ∈ root.sites [] false)
    (hdefinition : site.definition? source anonymous = some definition)
    (hother : other ∈ root.sites [] false)
    (hotherDefinition : other.definition? source anonymous = some otherDefinition)
    (hindex : definition.function.index = otherDefinition.function.index) : site = other := by
  have hfree := (definition?_eq_some_iff.mp hdefinition).1
  have hotherFree := (definition?_eq_some_iff.mp hotherDefinition).1
  rcases exists_function_site hsite hdefinition with ⟨place, hplace, hnode, hwhere⟩
  rcases exists_function_site hother hotherDefinition with
    ⟨otherPlace, hotherPlace, hotherNode, hotherWhere⟩
  -- Functions of the same number stand at the same place.
  have hsame : place = otherPlace := by
    refine hdistinct.site_unique hplace hotherPlace ?_
    rw [hnode, hotherNode, hindex]
  subst hsame
  rcases hwhere with rfl | ⟨hbound, habove⟩
  · rcases hotherWhere with rfl | ⟨hbound, _⟩
    · rfl
    · rw [hfree] at hbound
      exact absurd hbound Bool.false_ne_true
  · rcases hotherWhere with rfl | ⟨_, hotherAbove⟩
    · rw [hotherFree] at hbound
      exact absurd hbound Bool.false_ne_true
    · -- Both sites are the one above the function.
      rw [habove] at hotherAbove
      exact hdistinct.site_unique hsite hother (by rw [(List.cons.inj hotherAbove).1])

end Site

/-- Keeping some items and picking from the items gives two lists that belong together, if
    exactly the kept ones have something to pick. -/
theorem forall₂_filter_filterMap {α β : Type} {keeps : α → Bool} {pick : α → Option β}
    {relates : α → β → Prop} {items : List α}
    (h : ∀ item ∈ items, (keeps item = false ∧ pick item = none) ∨
      (keeps item = true ∧ ∃ picked, pick item = some picked ∧ relates item picked)) :
    List.Forall₂ relates (items.filter keeps) (items.filterMap pick) := by
  induction items with
  | nil => exact .nil
  | cons first rest ih =>
      have hrest := ih fun item hitem => h item (List.mem_cons_of_mem _ hitem)
      rcases h first List.mem_cons_self with ⟨hkeeps, hpick⟩ | ⟨hkeeps, picked, hpick, hrelates⟩
      · rw [List.filter_cons_of_neg (by rw [hkeeps]; exact Bool.false_ne_true),
          List.filterMap_cons_none hpick]
        exact hrest
      · rw [List.filter_cons_of_pos hkeeps, List.filterMap_cons_some hpick]
        exact .cons hrelates hrest

namespace Syntax.Program

theorem nodup_functions (program : Program) (anonymous : String)
    (hdistinct : program.root.Distinct) :
    ((program.definitions anonymous).map (·.function.index)).Nodup := by
  have hsites : (program.root.sites [] false).Nodup := List.Nodup.of_map _ hdistinct.nodup_sites
  rw [program.definitions_eq_filterMap, List.map_filterMap]
  refine List.pairwise_filterMap.mpr (hsites.pairwise_of_forall_ne ?_)
  intro site hsite other hother hne index hindex otherIndex hotherIndex hsame
  rcases Option.map_eq_some_iff.mp hindex with ⟨definition, hdefinition, rfl⟩
  rcases Option.map_eq_some_iff.mp hotherIndex with ⟨otherDefinition, hotherDefinition, rfl⟩
  exact hne (Site.function_site_unique hdistinct hsite hdefinition hother hotherDefinition hsame)

/-- The search reports the inventory of a program: for each node that defines a function
    with a body, in preorder, one entry with the function, its body and its name. No
    function has two entries. -/
theorem definitions_report_inventory (program : Program) (anonymous : String)
    (hdistinct : program.root.Distinct) :
    List.Forall₂ (Definition.Reports program.source anonymous) program.root.inventory
      (program.definitions anonymous) ∧
    ((program.definitions anonymous).map (·.function.index)).Nodup := by
  refine ⟨?_, nodup_functions program anonymous hdistinct⟩
  -- One site for each node, so both lists can be read off the sites.
  rw [program.definitions_eq_filterMap, Node.inventory, ← Node.map_node_sites program.root [] false,
    List.filter_map, List.forall₂_map_left_iff]
  exact forall₂_filter_filterMap fun site hsite =>
    Site.definition?_cases program.source anonymous hdistinct hsite

end Syntax.Program

/-! The object `{[()=>1]:()=>2}`. Its key holds an arrow that is bound to nothing, and
    the arrow after it is bound to the key. -/

namespace KeyWithArrow

/-- An arrow function without parameters whose body is one digit. -/
def arrowAt (index start : Nat) (field : Option Field) : Node :=
  ⟨{ index, kind := .arrow, start, stop := start + 5, field },
    [⟨{ index := index + 1, kind := .number, start := start + 4, stop := start + 5,
        field := some .body }, []⟩]⟩

/-- The tree of the object, with its value from some byte on. -/
def object (value : Nat) : Node :=
  ⟨{ kind := .other "program", stop := value + 6 },
    [⟨{ index := 1, kind := .pair, start := 1, stop := value + 5 },
      [⟨{ index := 2, kind := .other "computed_property_name", start := 1, stop := 8,
          field := some .key }, [arrowAt 3 2 none]⟩,
      arrowAt 5 value (some .value)]⟩]⟩

def program : Program := ⟨.ofString "\x7b[()=>1]:()=>2\x7d", object 9⟩

theorem pair_and_arrow_reported :
    program.root.Distinct ∧ program.root.inventory.map (·.index) = [1, 3] ∧
      (program.definitions "anonymous").length = 2 ∧
      ((program.definitions "anonymous").map (·.function.index)).Nodup := by
  have hdistinct : program.root.Distinct := by decide
  have hlisted : program.root.inventory.map (·.index) = [1, 3] := by decide
  rcases program.definitions_report_inventory "anonymous" hdistinct with ⟨hreports, hnodup⟩
  have hlength : program.root.inventory.length = 2 := by
    rw [← List.length_map (fun node : Node => node.index), hlisted]
    rfl
  exact ⟨hdistinct, hlisted, hreports.length_eq.symm.trans hlength, hnodup⟩

end KeyWithArrow

end Costwise
