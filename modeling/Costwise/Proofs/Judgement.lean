import Costwise.Proofs.Consistency

/-!
# What a Verdict Says

Fourteen rules are tried in order, and what a rule says is only half of what it
means: the other half is that no rule before it applied. This file turns the
list around. For most classes it gives the condition on the record under which
the verdict is that class, without any mention of rules.

A function that calls itself is judged by one of the first seven rules, any
other function by one of the last seven, and the two halves are treated apart
(`growth_of_recursive`, `growth_of_not_recursive`). The conditions come out as
simple as they do because the parts of a record agree with each other; a record
made by hand can have a confirmed search and no recursion, and then the halves
mix.

One rule never decides. It asks for several callees, and a function with several
callees calls one besides itself, which is enough for an earlier rule
(`rule_ne_permutationRecursion`). This needs no walk: it holds of every record
in which each name is counted once.

## Main definitions

* `Record.ruleBy`: The rule that decides when only some rules are tried.

## Theorems

* `rule_ne_permutationRecursion`: No function is found to visit all orderings.
* `growth_of_recursive`: How a function that calls itself is judged.
* `growth_of_not_recursive`: How any other function is judged.
* `growth_iff_of_mem_verdicts`: What the verdict on a function says about its record.
-/

namespace Costwise

open Syntax

theorem Calls.mem_keys_of_count_pos {calls : Calls} {name : String} (h : 0 < count calls name) :
    name ∈ Keyed.keys calls := by
  refine Keyed.mem_keys_of_get? ?_
  rw [count] at h
  cases hget : Keyed.get? calls name with
  | none =>
      rw [hget] at h
      exact absurd h (Nat.lt_irrefl 0)
  | some n => rfl

namespace Record

variable {record : Record}

/-- The rule that decides when only these rules are tried, in this order. -/
def ruleBy (record : Record) (rules : List Rule) : Rule :=
  (rules.find? (·.applies record)).getD .constant

theorem rule_eq_ruleBy (record : Record) : record.rule = record.ruleBy Rule.all := rfl

theorem ruleBy_cons (record : Record) (first : Rule) (rest : List Rule) :
    record.ruleBy (first :: rest)
      = if first.applies record then first else record.ruleBy rest := by
  rw [ruleBy, List.find?_cons]
  cases first.applies record <;> rfl

/-- A function without helpers calls itself at most, if each name is counted once. -/
theorem keys_of_helperNames_eq_nil (hkeys : (Keyed.keys record.calls).Nodup)
    (hhelpers : record.helperNames = []) :
    Keyed.keys record.calls = [] ∨ Keyed.keys record.calls = [record.functionName] := by
  have hall : ∀ key ∈ Keyed.keys record.calls, key = record.functionName := by
    intro key hkey
    have hnot := List.filter_eq_nil_iff.mp hhelpers key hkey
    rw [bne_iff_ne, not_not] at hnot
    exact hnot
  -- All keys are the same and none occurs twice, so there is one at most.
  have hreplicate := List.eq_replicate_of_mem hall
  rw [hreplicate, List.nodup_replicate] at hkeys
  rw [hreplicate]
  generalize (Keyed.keys record.calls).length = n at hkeys
  rcases Nat.le_one_iff_eq_zero_or_eq_one.mp hkeys with rfl | rfl
  · exact .inl rfl
  · exact .inr rfl

/-- Several callees are never what decides: one of them is a helper, and a recursion
    with a helper is judged before. -/
theorem applies_divideAndConquer_of_permutation (hkeys : (Keyed.keys record.calls).Nodup)
    (h : Rule.permutationRecursion.applies record = true) :
    Rule.recursiveDivideAndConquer.applies record = true := by
  simp only [Rule.applies, Bool.and_eq_true, decide_eq_true_eq] at h
  have hhelpers : record.helperNames ≠ [] := by
    intro hnil
    have hlength : (Keyed.keys record.calls).length = record.calls.length := List.length_map _
    rcases keys_of_helperNames_eq_nil hkeys hnil with hnone | hone
    · rw [hnone, List.length_nil] at hlength
      omega
    · rw [hone, List.length_singleton] at hlength
      omega
  simp only [Rule.applies, h.1.1, Bool.true_and, Bool.or_eq_true]
  exact .inr (by rw [Bool.not_eq_true', List.isEmpty_eq_false_iff]; exact hhelpers)

theorem rule_ne_permutationRecursion (hkeys : (Keyed.keys record.calls).Nodup) :
    record.rule ≠ .permutationRecursion := by
  intro hrule
  have happlies := record.rule_applies
  rw [hrule] at happlies
  have hearlier := applies_divideAndConquer_of_permutation hkeys happlies
  -- The first four rules are tried before, and the fourth applies.
  simp only [rule_eq_ruleBy, Rule.all, ruleBy_cons, hearlier, if_true] at hrule
  split at hrule
  · exact absurd hrule (by decide)
  · split at hrule
    · exact absurd hrule (by decide)
    · split at hrule <;> exact absurd hrule (by decide)

/-- How a function that calls itself is judged. It takes exponential time only if
    nothing else is known of it: no loop, no divide step, no helper. -/
theorem growth_of_recursive (hrecursive : record.recursive = true)
    (hkeys : (Keyed.keys record.calls).Nodup) :
    record.growth = .logarithmic ∨ record.growth = .linearithmic ∨
      (record.growth = .exponential ∧ record.loopCount = 0 ∧ record.divides = false ∧
        record.signals.transforms = false ∧ record.helperNames = []) := by
  rw [growth, rule_eq_ruleBy, Rule.all, ruleBy_cons]
  by_cases hsearch : Rule.recursiveBinarySearch.applies record = true
  · exact .inl (by rw [if_pos hsearch]; rfl)
  rw [if_neg hsearch, ruleBy_cons]
  by_cases hhalving : Rule.recursiveHalvingSearch.applies record = true
  · exact .inl (by rw [if_pos hhalving]; rfl)
  rw [if_neg hhalving, ruleBy_cons]
  by_cases hmidpoint : Rule.recursiveMidpointSearch.applies record = true
  · exact .inl (by rw [if_pos hmidpoint]; rfl)
  rw [if_neg hmidpoint, ruleBy_cons]
  by_cases hdivides : Rule.recursiveDivideAndConquer.applies record = true
  · exact .inr (.inl (by rw [if_pos hdivides]; rfl))
  -- What is left is one of the last three, and all that the fourth asks for is missing.
  have hlast : Rule.recursion.applies record = true := hrecursive
  have hpermutation : ¬ Rule.permutationRecursion.applies record = true :=
    fun h => hdivides (applies_divideAndConquer_of_permutation hkeys h)
  refine .inr (.inr ⟨?_, ?_⟩)
  · rw [if_neg hdivides, ruleBy_cons]
    by_cases hbranching : Rule.branchingRecursion.applies record = true
    · rw [if_pos hbranching]
      rfl
    · rw [if_neg hbranching, ruleBy_cons, if_neg hpermutation, ruleBy_cons, if_pos hlast]
      rfl
  · simp only [Rule.applies, hrecursive, Bool.true_and, Bool.or_eq_true, not_or,
      Bool.not_eq_true, decide_eq_false_iff_not, Bool.not_eq_false', List.isEmpty_iff]
      at hdivides
    rcases hdivides with ⟨⟨⟨hdivides, htransforms⟩, hloops⟩, hhelpers⟩
    exact ⟨Nat.eq_zero_of_not_pos hloops, hdivides, htransforms, hhelpers⟩

theorem growth_of_not_recursive (hrecursive : record.recursive = false)
    (hsearch : record.recursiveSearch = false) :
    record.growth =
      if 3 ≤ record.nestingDepth then .cubic
      else if record.nestingDepth = 2 then .quadratic
      else if record.binarySearch then .logarithmic
      else if record.divides ∧ 0 < record.loopCount then .linearithmic
      else if 0 < record.loopCount ∨ record.linear then .linear
      else if record.divides ∨ record.logarithmic then .logarithmic
      else .constant := by
  -- Six of the first seven rules ask for recursion, and one for a search that needs it.
  have hrule : record.rule =
      if 3 ≤ record.nestingDepth then .tripleNestedLoops
      else if record.nestingDepth = 2 then .doubleNestedLoops
      else if record.binarySearch then .iterativeBinarySearch
      else if record.divides ∧ 0 < record.loopCount then .loopedDivideAndConquer
      else if 0 < record.loopCount ∨ record.linear then .linearPass
      else if record.divides ∨ record.logarithmic then .halvingOperation
      else .constant := by
    simp only [rule_eq_ruleBy, Rule.all, ruleBy_cons, Rule.applies, hrecursive, hsearch,
      Bool.false_and, Bool.false_eq_true, if_false, if_true, decide_eq_true_eq,
      Bool.and_eq_true, Bool.or_eq_true]
  rw [growth, hrule]
  simp only [apply_ite Rule.growth]
  rfl

namespace Walked

theorem recursiveSearch_eq_false (h : record.Walked) (hrecursive : record.recursive = false) :
    record.recursiveSearch = false := by
  cases hsearch : record.recursiveSearch with
  | false => rfl
  | true =>
      have hself := h.consistent.recursive_of_search hsearch
      rw [h.recursive_eq, Progress.isRecursive, decide_eq_false_iff_not] at hrecursive
      exact absurd hself hrecursive

/-- A class that no recursion is found to have goes with a condition on functions that
    do not call themselves. -/
theorem growth_eq_iff {growth : Growth} {condition : Prop} (h : record.Walked)
    (hgrowth : growth ∉ [.logarithmic, .linearithmic, .exponential])
    (hcondition : record.recursive = false → (record.growth = growth ↔ condition)) :
    record.growth = growth ↔ record.recursive = false ∧ condition := by
  cases hrecursive : record.recursive with
  | false => rw [hcondition hrecursive, eq_self_iff_true, true_and]
  | true =>
      refine ⟨fun heq => absurd ?_ hgrowth, fun hfalse => absurd hfalse.1.symm Bool.false_ne_true⟩
      rw [← heq]
      rcases growth_of_recursive hrecursive h.consistent.nodup_keys with hlog | hlin | ⟨hexp, _⟩
      · rw [hlog]
        decide
      · rw [hlin]
        decide
      · rw [hexp]
        decide

theorem growth_eq_cubic_iff (h : record.Walked) :
    record.growth = .cubic ↔ record.recursive = false ∧ 3 ≤ record.nestingDepth := by
  refine h.growth_eq_iff (by decide) fun hrecursive => ?_
  rw [growth_of_not_recursive hrecursive (h.recursiveSearch_eq_false hrecursive)]
  split_ifs with hthree
  · exact iff_of_true rfl hthree
  all_goals exact iff_of_false (by decide) hthree

theorem growth_eq_quadratic_iff (h : record.Walked) :
    record.growth = .quadratic ↔ record.recursive = false ∧ record.nestingDepth = 2 := by
  refine h.growth_eq_iff (by decide) fun hrecursive => ?_
  rw [growth_of_not_recursive hrecursive (h.recursiveSearch_eq_false hrecursive)]
  split_ifs with hthree htwo
  · exact iff_of_false (by decide) (by omega)
  · exact iff_of_true rfl htwo
  all_goals exact iff_of_false (by decide) htwo

/-- Nothing was found: no loop, and no flag that a rule asks for. Nesting needs a loop
    and a search in a loop comes with a sign of logarithmic work, so neither has to
    be mentioned. -/
theorem growth_eq_constant_iff (h : record.Walked) :
    record.growth = .constant ↔ record.recursive = false ∧ record.loopCount = 0 ∧
      record.linear = false ∧ record.divides = false ∧ record.logarithmic = false := by
  refine h.growth_eq_iff (by decide) fun hrecursive => ?_
  have hnested := h.consistent.nested_iff
  have hsearch := h.consistent.logarithmic_of_search
  rw [growth_of_not_recursive hrecursive (h.recursiveSearch_eq_false hrecursive)]
  split_ifs with hthree htwo hbinary hdivides hlinear hhalving
  -- Each rule that decides is one whose condition contradicts that nothing was found.
  · exact iff_of_false (by decide) fun hnone => by omega
  · exact iff_of_false (by decide) fun hnone => by omega
  · refine iff_of_false (by decide) fun hnone => ?_
    rw [hsearch hbinary] at hnone
    exact absurd hnone.2.2.2.symm Bool.false_ne_true
  · exact iff_of_false (by decide) fun hnone => by omega
  · refine iff_of_false (by decide) fun hnone => ?_
    rcases hlinear with hloops | hlinear
    · omega
    · exact absurd (hnone.2.1.symm.trans hlinear) Bool.false_ne_true
  · refine iff_of_false (by decide) fun hnone => ?_
    rcases hhalving with hdivides | hlogarithmic
    · exact absurd (hnone.2.2.1.symm.trans hdivides) Bool.false_ne_true
    · exact absurd (hnone.2.2.2.symm.trans hlogarithmic) Bool.false_ne_true
  · simp only [not_or, Bool.not_eq_true, Nat.not_lt, Nat.le_zero] at hlinear hhalving
    exact iff_of_true rfl ⟨hlinear.1, hlinear.2, hhalving.1, hhalving.2⟩

/-- One loop level and no divide step, or no loop and a method that walks an array. -/
theorem growth_eq_linear_iff (h : record.Walked) :
    record.growth = .linear ↔ record.recursive = false ∧ record.nestingDepth ≤ 1 ∧
      record.binarySearch = false ∧
        ((0 < record.loopCount ∧ record.divides = false) ∨
          (record.loopCount = 0 ∧ record.linear = true)) := by
  refine h.growth_eq_iff (by decide) fun hrecursive => ?_
  rw [growth_of_not_recursive hrecursive (h.recursiveSearch_eq_false hrecursive)]
  split_ifs with hthree htwo hbinary hdivides hlinear hhalving
  · exact iff_of_false (by decide) fun hpass => by omega
  · exact iff_of_false (by decide) fun hpass => by omega
  · refine iff_of_false (by decide) fun hpass => ?_
    exact absurd (hpass.2.1.symm.trans hbinary) Bool.false_ne_true
  · refine iff_of_false (by decide) fun hpass => ?_
    rcases hpass.2.2 with ⟨_, hnot⟩ | ⟨hnone, _⟩
    · exact absurd (hnot.symm.trans hdivides.1) Bool.false_ne_true
    · omega
  · -- The linear rule decides: with loops nothing divides, without them a method walks.
    refine iff_of_true rfl ⟨by omega, eq_false_of_ne_true hbinary, ?_⟩
    rcases Nat.eq_zero_or_pos record.loopCount with hnone | hloops
    · exact .inr ⟨hnone, hlinear.resolve_left (by omega)⟩
    · exact .inl ⟨hloops, eq_false_of_ne_true fun hd => hdivides ⟨hd, hloops⟩⟩
  · refine iff_of_false (by decide) fun hpass => hlinear ?_
    exact hpass.2.2.imp (·.1) (·.2)
  · refine iff_of_false (by decide) fun hpass => hlinear ?_
    exact hpass.2.2.imp (·.1) (·.2)

theorem growth_ne_factorial (h : record.Walked) : record.growth ≠ .factorial := by
  have hfalse : record.growth = .factorial ↔ record.recursive = false ∧ False := by
    refine h.growth_eq_iff (by decide) fun hrecursive => ?_
    rw [growth_of_not_recursive hrecursive (h.recursiveSearch_eq_false hrecursive)]
    split_ifs <;> decide
  exact fun heq => (hfalse.mp heq).2

/-- A function takes exponential time only if it does nothing but call itself. -/
theorem of_growth_eq_exponential (h : record.Walked) (hgrowth : record.growth = .exponential) :
    record.recursive = true ∧ record.loopCount = 0 ∧ record.divides = false ∧
      record.signals.transforms = false ∧ Keyed.keys record.calls = [record.functionName] := by
  cases hrecursive : record.recursive with
  | false =>
      rw [growth_of_not_recursive hrecursive (h.recursiveSearch_eq_false hrecursive)] at hgrowth
      split_ifs at hgrowth
  | true =>
      rcases growth_of_recursive hrecursive h.consistent.nodup_keys with
        hlog | hlin | ⟨_, hloops, hdivides, htransforms, hhelpers⟩
      · rw [hlog] at hgrowth
        exact absurd hgrowth (by decide)
      · rw [hlin] at hgrowth
        exact absurd hgrowth (by decide)
      · refine ⟨rfl, hloops, hdivides, htransforms, ?_⟩
        -- The self-call that makes it recursive is a call under its own name.
        rw [h.recursive_eq, Progress.isRecursive, decide_eq_true_eq] at hrecursive
        have hmem := Calls.mem_keys_of_count_pos
          (Nat.lt_of_lt_of_le hrecursive h.consistent.selfCalls_le)
        rcases keys_of_helperNames_eq_nil h.consistent.nodup_keys hhelpers with hnone | hone
        · rw [hnone] at hmem
          exact absurd hmem List.not_mem_nil
        · exact hone

end Walked

end Record

/-- A series that succeeds succeeds at its first item and at the rest. -/
theorem mapM_cons_eq_ok {α β ε : Type} {make : α → Except ε β} {first : α} {rest : List α}
    {made : List β} (h : (first :: rest).mapM make = .ok made) :
    ∃ head tail, made = head :: tail ∧ make first = .ok head ∧ rest.mapM make = .ok tail := by
  rw [List.mapM_cons] at h
  rcases exists_of_bind_eq_ok h with ⟨head, hhead, h⟩
  rcases exists_of_bind_eq_ok h with ⟨tail, htail, h⟩
  exact ⟨head, tail, (Except.ok.inj h).symm, hhead, htail⟩

/-- What was made of a list by a function that can fail was made of its members. -/
theorem exists_of_mem_mapM {α β ε : Type} {make : α → Except ε β} {items : List α}
    {made : List β} (h : items.mapM make = .ok made) {result : β} (hresult : result ∈ made) :
    ∃ item ∈ items, make item = .ok result := by
  induction items generalizing made with
  | nil =>
      rw [← Except.ok.inj h] at hresult
      exact absurd hresult List.not_mem_nil
  | cons first rest ih =>
      rcases mapM_cons_eq_ok h with ⟨head, tail, rfl, hfirst, hrest⟩
      rcases List.mem_cons.mp hresult with rfl | hresult
      · exact ⟨first, List.mem_cons_self, hfirst⟩
      · rcases ih hrest hresult with ⟨item, hitem, hmake⟩
        exact ⟨item, List.mem_cons_of_mem _ hitem, hmake⟩

namespace Syntax.Program

variable {program : Program} {anonymous : String}

theorem exists_record_of_mem_verdicts {verdicts : List Verdict}
    (h : program.verdicts anonymous = .ok verdicts) {verdict : Verdict}
    (hverdict : verdict ∈ verdicts) :
    ∃ definition ∈ program.definitions anonymous,
      definition.record program.source = .ok verdict.record ∧
        verdict.name = definition.name ∧ verdict.growth = verdict.record.growth := by
  rcases exists_of_mem_mapM h hverdict with ⟨definition, hmem, hmake⟩
  refine ⟨definition, hmem, ?_⟩
  rcases exists_of_map_eq_ok hmake with ⟨record, hrecord, rfl⟩
  exact ⟨hrecord, rfl, rfl⟩

/-- What the verdict on a function says about its record, for every function of every
    program that is judged. No function is found to visit all orderings, and that
    rule decides for no record at all in which each name is counted once. -/
theorem growth_iff_of_mem_verdicts (program : Program) (anonymous : String)
    {verdicts : List Verdict} (h : program.verdicts anonymous = .ok verdicts) {verdict : Verdict}
    (hverdict : verdict ∈ verdicts) :
    verdict.growth ≠ .factorial ∧
    verdict.record.rule ≠ .permutationRecursion ∧
    (∀ record : Record, (Keyed.keys record.calls).Nodup →
      record.rule ≠ .permutationRecursion) ∧
    (verdict.growth = .cubic ↔
      verdict.record.recursive = false ∧ 3 ≤ verdict.record.nestingDepth) ∧
    (verdict.growth = .quadratic ↔
      verdict.record.recursive = false ∧ verdict.record.nestingDepth = 2) ∧
    (verdict.growth = .constant ↔
      verdict.record.recursive = false ∧ verdict.record.loopCount = 0 ∧
        verdict.record.linear = false ∧ verdict.record.divides = false ∧
          verdict.record.logarithmic = false) ∧
    (verdict.growth = .linear ↔
      verdict.record.recursive = false ∧ verdict.record.nestingDepth ≤ 1 ∧
        verdict.record.binarySearch = false ∧
          ((0 < verdict.record.loopCount ∧ verdict.record.divides = false) ∨
            (verdict.record.loopCount = 0 ∧ verdict.record.linear = true))) ∧
    (verdict.growth = .exponential →
      verdict.record.recursive = true ∧ verdict.record.loopCount = 0 ∧
        verdict.record.divides = false ∧ verdict.record.signals.transforms = false ∧
          Keyed.keys verdict.record.calls = [verdict.name]) := by
  rcases exists_record_of_mem_verdicts h hverdict with ⟨definition, _, hrecord, hname, hgrowth⟩
  rcases Definition.walked_of_record hrecord with ⟨hwalked, hfunction⟩
  rw [hgrowth, hname, ← hfunction]
  exact ⟨hwalked.growth_ne_factorial,
    Record.rule_ne_permutationRecursion hwalked.consistent.nodup_keys,
    fun _ => Record.rule_ne_permutationRecursion, hwalked.growth_eq_cubic_iff,
    hwalked.growth_eq_quadratic_iff, hwalked.growth_eq_constant_iff,
    hwalked.growth_eq_linear_iff, hwalked.of_growth_eq_exponential⟩

end Syntax.Program

/-! The function `f` of `function f() { for (;;) for (;;) {} }`, which has two loops in
    each other. -/

namespace NestedLoops

def body : Node :=
  { index := 3, kind := .other "statement_block", field := some .body, start := 13, stop := 37,
    children := [{ index := 4, kind := .forLoop, children := [{ index := 5, kind := .forLoop }] }] }

def name : Node :=
  { index := 2, kind := .identifier, field := some .name, start := 9, stop := 10 }

def program : Program :=
  ⟨.ofString "function f() \x7b for (;;) for (;;) \x7b\x7d \x7d",
    { kind := .other "program",
      children :=
        [{ index := 1, kind := .functionDeclaration, stop := 37, children := [name, body] }] }⟩

/-- What is found out about the function. -/
def verdict : Verdict where
  name := "f"
  span := ⟨1, 1⟩
  record :=
    { loopCount := 2, nestingDepth := 2, functionName := "f",
      bodyText := "\x7b for (;;) for (;;) \x7b\x7d \x7d" }
  growth := .quadratic

theorem quadratic_nested_loops :
    program.verdicts "anonymous" = .ok [verdict] ∧ verdict.growth = .quadratic ∧
      verdict.record.recursive = false ∧ verdict.record.nestingDepth = 2 := by
  have hverdicts : program.verdicts "anonymous" = .ok [verdict] := by decide +kernel
  rcases Program.growth_iff_of_mem_verdicts program "anonymous" hverdicts List.mem_cons_self with
    ⟨_, _, _, _, hquadratic, _⟩
  exact ⟨hverdicts, rfl, hquadratic.mp rfl⟩

end NestedLoops

end Costwise
