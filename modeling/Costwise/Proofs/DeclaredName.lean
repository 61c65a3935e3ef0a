import Costwise.Proofs.Tally

/-!
# Calls by the Declared Name

A function is declared under one name and called under another text. Both are
cleaned before they are compared, and not in the same way: the declared name loses
its quotes, and the property that a call names loses its marks, which private
properties begin with. A private method keeps the mark in its declared name. So a
call of a private method is never recognised by the method itself, and is taken for
a self-call by a method that has the same name without the mark.

`callsByName` is what a self-call should be: a plain call of the declared name, or a
call of a property of the same object that is written like it. The two ways to count
are compared call by call. They agree at every call that is plain or of a property
without a mark, because there nothing is dropped. At a marked property the walk asks
for the name without the mark and `callsByName` for the name with it, and each of
these calls is weighed on the side where it is missing (`selfCall_balance`). A name
either has a mark or has none, so the two kinds of error do not occur together and
cannot make up for each other.

## Main definitions

* `Source.callsByName`: Whether a call is of the declared name, as written.
* `Source.callsMarked`: Whether a call is of a private property of the same object.
* `Source.unmarked`: A property without its marks.

## Theorems

* `isSelfCall_eq`: What the walk takes for a self-call.
* `selfCall_balance`: The two ways to count, at one node.
* `selfCalls_of_record`: What a record counts.
* `selfCalls_eq_iff_unmarked`: When a record counts the calls of the declared name.
-/

namespace Costwise

open Syntax

namespace Syntax.Source

/-- The name that a call calls without an object. -/
def plainName? (source : Source) (call : Node) : Option String :=
  call.callee?.bind fun callee =>
    if callee.kind = .identifier then some (source.text callee) else none

/-- The property of the same object that a call calls, as it is written. -/
def ownProperty? (source : Source) (call : Node) : Option String :=
  call.callee?.bind fun callee =>
    if callee.kind = .member ∧ ((callee.child? .object).map Node.unwrap).any (·.kind == .this) then
      (callee.child? .property).map source.text
    else none

/-- Whether a node is a call of a name, directly or as a property of the same object. -/
def callsByName (source : Source) (name : String) (node : Node) : Bool :=
  node.kind == .call &&
    (source.plainName? node == some name || source.ownProperty? node == some name)

/-- Whether a property is written with the mark of a private one. -/
def isMarked (property : String) : Bool :=
  property.toList.head? == some '#'

/-- A property without its marks. -/
def unmarked (property : String) : String :=
  String.ofList (property.toList.dropWhile (· == '#'))

/-- Whether a node is a call of a private property of the same object that passes a
    test. -/
def callsMarked (source : Source) (test : String → Bool) (node : Node) : Bool :=
  node.kind == .call && (source.ownProperty? node).any fun property =>
    isMarked property && test property

theorem unmarked_of_not_isMarked {property : String} (h : isMarked property = false) :
    unmarked property = property := by
  unfold isMarked at h
  unfold unmarked
  cases hproperty : property.toList with
  | nil => rw [List.dropWhile_nil, ← hproperty, String.ofList_toList]
  | cons c rest =>
      rw [hproperty, List.head?_cons, beq_eq_false_iff_ne, ne_eq, Option.some.injEq] at h
      rw [List.dropWhile_cons_of_neg (by rwa [beq_iff_eq]), ← hproperty, String.ofList_toList]

theorem isMarked_unmarked (property : String) : isMarked (unmarked property) = false := by
  have hhead := List.head?_dropWhile_not (· == '#') property.toList
  rw [isMarked, unmarked, String.toList_ofList]
  cases hrest : (property.toList.dropWhile (· == '#')).head? with
  | none => rfl
  | some c =>
      rw [hrest] at hhead
      rw [beq_eq_false_iff_ne, ne_eq, Option.some.injEq]
      exact beq_eq_false_iff_ne.mp hhead

theorem property?_eq_map_unmarked (source : Source) (callee : Node) :
    source.property? callee = ((callee.child? .property).map source.text).map unmarked := by
  rw [property?, Option.map_map]
  congr 1
  funext property
  rw [Function.comp_apply, unmarked, text, String.toList_ofList]

-- A callee is an identifier or a member, so a call has a plain name or a property of
-- its object and never both.
theorem plainName?_of_ownProperty? {source : Source} {call : Node} {property : String}
    (h : source.ownProperty? call = some property) : source.plainName? call = none := by
  unfold ownProperty? at h
  unfold plainName?
  cases hcallee : call.callee? with
  | none => rfl
  | some callee =>
      rw [hcallee, Option.bind_some] at h
      by_cases hkind : callee.kind = .identifier
      · have hmember : callee.kind ≠ .member := by
          rw [hkind]
          decide
        rw [if_neg fun hown => hmember hown.1] at h
        cases h
      · rw [Option.bind_some, if_neg hkind]

theorem isSelfCall_eq (source : Source) (name : String) (call : Node) :
    source.isSelfCall name call = (source.plainName? call == some name ||
      (source.ownProperty? call).map unmarked == some name) := by
  unfold isSelfCall plainName? ownProperty?
  cases call.callee? with
  | none => rfl
  | some callee =>
      simp only [Option.bind_some]
      by_cases hidentifier : callee.kind = .identifier
      · have hmember : callee.kind ≠ .member := by
          rw [hidentifier]
          decide
        rw [if_pos hidentifier, if_pos hidentifier, if_neg fun h => hmember h.1, Option.map_none]
        exact (Bool.or_false _).symm
      · rw [if_neg hidentifier, if_neg hidentifier, property?_eq_map_unmarked]
        by_cases hown : callee.kind = .member ∧
            ((callee.child? .object).map Node.unwrap).any (·.kind == .this) = true
        · rw [if_pos hown, hown.1, hown.2]
          rfl
        · -- A property of another object is no property of this one.
          rw [if_neg hown, Option.map_none]
          refine (Bool.eq_false_iff.mpr fun h => hown ?_).trans (Bool.or_false _).symm
          rw [Bool.and_eq_true, Bool.and_eq_true, beq_iff_eq] at h
          exact h.1

-- What the walk counts and what it misses is what it should count and what it makes up.
theorem selfCall_balance (source : Source) (name : String) (node : Node) :
    (if node.kind == .call && source.isSelfCall name node then 1 else 0)
        + (if source.callsMarked (· == name) node then 1 else 0)
      = (if source.callsByName name node then 1 else 0)
        + if source.callsMarked (unmarked · == name) node then 1 else 0 := by
  rw [isSelfCall_eq, callsByName, callsMarked, callsMarked]
  cases node.kind == .call with
  | false => simp only [Bool.false_and]
  | true =>
      simp only [Bool.true_and]
      cases hown : source.ownProperty? node with
      | none => simp only [Option.map_none, Option.any_none, Bool.false_eq_true, if_false]
      | some property =>
          -- Without a mark nothing is dropped. With one, the two conditions trade places.
          rw [plainName?_of_ownProperty? hown]
          cases hmarked : isMarked property with
          | false =>
              simp only [Option.map_some, unmarked_of_not_isMarked hmarked, Option.any_some,
                hmarked, Bool.false_and]
          | true =>
              simp only [Option.map_some, Option.any_some, hmarked, Bool.true_and,
                Option.some_beq_some, Option.none_beq_some, Bool.false_or]
              exact Nat.add_comm _ _

end Syntax.Source

theorem countP_add_countP {α : Type} {a b c d : α → Bool}
    (h : ∀ item, (if a item then 1 else 0) + (if b item then 1 else 0)
      = (if c item then 1 else 0) + if d item then 1 else 0) (items : List α) :
    items.countP a + items.countP b = items.countP c + items.countP d := by
  induction items with
  | nil => rfl
  | cons first rest ih =>
      have hfirst := h first
      rw [List.countP_cons, List.countP_cons, List.countP_cons, List.countP_cons]
      omega

namespace Definition

variable {source : Source} {definition : Definition} {record : Record}

theorem selfCalls_of_record (h : definition.record source = .ok record) :
    record.selfCalls = definition.body.own.countP fun site =>
      site.node.kind == .call && source.isSelfCall definition.name site.node := by
  rcases exists_progress_of_record h with ⟨progress, hfold, rfl⟩
  have hself := Body.selfCalls_foldlM hfold
  rw [Node.reached_eq_own, List.countP_map] at hself
  exact hself.trans (Nat.zero_add _)

-- The statements about no call at all, property by property.
theorem countP_callsMarked_eq_zero_iff (source : Source) (test : String → Bool)
    (sites : List Site) :
    sites.countP (fun site => source.callsMarked test site.node) = 0 ↔
      ∀ site ∈ sites, ∀ property, site.node.kind = .call →
        source.ownProperty? site.node = some property → Source.isMarked property = true →
          test property = false := by
  rw [List.countP_eq_zero]
  refine forall₂_congr fun site _ => ?_
  unfold Source.callsMarked
  constructor
  · intro hnone property hcall hproperty hmarked
    refine eq_false_of_ne_true fun htest => hnone ?_
    rw [hcall, hproperty, Option.any_some, hmarked, htest]
    rfl
  · intro hall hcalls
    rw [Bool.and_eq_true, beq_iff_eq, Option.any_eq_true] at hcalls
    rcases hcalls with ⟨hcall, property, hproperty, hboth⟩
    rcases Bool.and_eq_true_iff.mp hboth with ⟨hmarked, htest⟩
    rw [hall property hcall hproperty hmarked] at htest
    exact Bool.false_ne_true htest

-- A call is missed for a name with a mark and made up for a name without one.
theorem not_missed_and_made_up (source : Source) (name : String) (sites : List Site) :
    sites.countP (fun site => source.callsMarked (· == name) site.node) = 0 ∨
      sites.countP (fun site => source.callsMarked (Source.unmarked · == name) site.node) = 0 := by
  rw [countP_callsMarked_eq_zero_iff, countP_callsMarked_eq_zero_iff]
  cases hname : Source.isMarked name with
  | false =>
      refine .inl fun site _ property _ _ hmarked => beq_eq_false_iff_ne.mpr fun hsame => ?_
      rw [hsame, hname] at hmarked
      exact Bool.false_ne_true hmarked
  | true =>
      refine .inr fun site _ property _ _ _ => beq_eq_false_iff_ne.mpr fun hsame => ?_
      rw [← hsame, Source.isMarked_unmarked] at hname
      exact Bool.false_ne_true hname

/-- A record counts the calls of the declared name, less those of a private property that is
    written like the name, and with those of a private property that is written like the
    name behind a mark. The count is right if and only if there are no such calls. -/
theorem selfCalls_eq_iff_unmarked (h : definition.record source = .ok record) :
    record.selfCalls + definition.body.own.countP
        (fun site => source.callsMarked (· == definition.name) site.node)
      = definition.body.own.countP (fun site => source.callsByName definition.name site.node)
        + definition.body.own.countP
          (fun site => source.callsMarked (Source.unmarked · == definition.name) site.node) ∧
    (record.selfCalls
        = definition.body.own.countP
          (fun site => source.callsByName definition.name site.node) ↔
      ∀ site ∈ definition.body.own, ∀ property, site.node.kind = .call →
        source.ownProperty? site.node = some property → Source.isMarked property = true →
          property ≠ definition.name ∧ Source.unmarked property ≠ definition.name) := by
  have hbalance := countP_add_countP
    (fun site : Site => source.selfCall_balance definition.name site.node) definition.body.own
  rw [← selfCalls_of_record h] at hbalance
  have hone := not_missed_and_made_up source definition.name definition.body.own
  have hmissed := countP_callsMarked_eq_zero_iff source (· == definition.name) definition.body.own
  have hmadeUp := countP_callsMarked_eq_zero_iff source (Source.unmarked · == definition.name)
    definition.body.own
  refine ⟨hbalance, fun heq site hsite property hcall hproperty hmarked => ⟨?_, ?_⟩,
    fun hnone => ?_⟩
  -- As many calls are missed as are made up, and one of the two is none.
  · exact beq_eq_false_iff_ne.mp (hmissed.mp (by omega) site hsite property hcall hproperty hmarked)
  · exact beq_eq_false_iff_ne.mp (hmadeUp.mp (by omega) site hsite property hcall hproperty hmarked)
  · have hnoneMissed := hmissed.mpr fun site hsite property hcall hproperty hmarked =>
      beq_eq_false_iff_ne.mpr (hnone site hsite property hcall hproperty hmarked).1
    have hnoneMadeUp := hmadeUp.mpr fun site hsite property hcall hproperty hmarked =>
      beq_eq_false_iff_ne.mpr (hnone site hsite property hcall hproperty hmarked).2
    omega

end Definition

/-! A method with the body `{this.#p()}`, under the name `#p` and under the name `p`. -/

namespace PrivateMethod

def source : Source := .ofString "\x7bthis.#p()\x7d"

def body : Node :=
  ⟨{ kind := .other "statement_block", start := 0, stop := 11, field := some .body },
    [⟨{ kind := .call, start := 1, stop := 10 },
      [⟨{ kind := .member, start := 1, stop := 8, field := some .callee },
        [⟨{ kind := .this, start := 1, stop := 5, field := some .object }, []⟩,
        ⟨{ kind := .other "private_property_identifier", start := 6, stop := 8,
            field := some .property }, []⟩]⟩]⟩]⟩

def method (name : String) : Definition := ⟨name, ⟨{ kind := .method }, [body]⟩, body⟩

/-- The record of the method under one of the two names. -/
def record (name : String) (selfCalls : Nat) : Record where
  selfCalls := selfCalls
  calls := [("p", 1)]
  functionName := name
  bodyText := "\x7bthis.#p()\x7d"
  recursive := decide (0 < selfCalls)

theorem private_call_misjudged :
    (method "#p").record source = .ok (record "#p" 0) ∧
      body.own.countP (fun site => source.callsByName "#p" site.node) = 1 ∧
      (method "p").record source = .ok (record "p" 1) ∧
      body.own.countP (fun site => source.callsByName "p" site.node) = 0 := by
  have hmarked : (method "#p").record source = .ok (record "#p" 0) := by decide +kernel
  have hbare : (method "p").record source = .ok (record "p" 1) := by decide +kernel
  have hmissed : 0 + body.own.countP (fun site => source.callsMarked (· == "#p") site.node)
      = body.own.countP (fun site => source.callsByName "#p" site.node) + body.own.countP
        (fun site => source.callsMarked (Source.unmarked · == "#p") site.node) :=
    (Definition.selfCalls_eq_iff_unmarked hmarked).1
  have hmadeUp : 1 + body.own.countP (fun site => source.callsMarked (· == "p") site.node)
      = body.own.countP (fun site => source.callsByName "p" site.node) + body.own.countP
        (fun site => source.callsMarked (Source.unmarked · == "p") site.node) :=
    (Definition.selfCalls_eq_iff_unmarked hbare).1
  have hsame : body.own.countP (fun site => source.callsMarked (· == "#p") site.node) = 1 ∧
      body.own.countP
        (fun site => source.callsMarked (Source.unmarked · == "#p") site.node) = 0 := by
    decide +kernel
  have hother : body.own.countP (fun site => source.callsMarked (· == "p") site.node) = 0 ∧
      body.own.countP
        (fun site => source.callsMarked (Source.unmarked · == "p") site.node) = 1 := by
    decide +kernel
  exact ⟨hmarked, by omega, hbare, by omega⟩

end PrivateMethod

end Costwise
