import Costwise.Features.Record
import Costwise.Growth

/-!
# Rules of Judgement

A function is judged by the first rule that applies to its record. Particular
idioms come before general ones: a recursive binary search would also pass for
a recursion of unknown cost. The last rule applies to everything, so there is
always a verdict.

## Main definitions

* `Rule`: The rules.
* `Rule.applies`: When a rule applies.
* `Rule.growth`: The verdict of a rule.
* `Rule.all`: The rules in order.
* `Record.rule`, `Record.growth`: The rule that decides, and its verdict.

## Theorems

* `rule_applies`: The rule that decides applies.
-/

namespace Costwise

/-- A rule by which functions are judged. -/
inductive Rule where
  /-- A recursive search that the walk confirmed. -/
  | recursiveBinarySearch
  /-- A recursion that halves and builds nothing up. -/
  | recursiveHalvingSearch
  /-- A recursion on a midpoint. -/
  | recursiveMidpointSearch
  /-- A recursion that splits its input. -/
  | recursiveDivideAndConquer
  /-- A recursion with several calls. -/
  | branchingRecursion
  /-- A recursion inside a loop with several callees. -/
  | permutationRecursion
  /-- Any other recursion. -/
  | recursion
  /-- Three loops in each other. -/
  | tripleNestedLoops
  /-- Two loops in each other. -/
  | doubleNestedLoops
  /-- A loop that halves a search range. -/
  | iterativeBinarySearch
  /-- A loop with a divide step. -/
  | loopedDivideAndConquer
  /-- One loop, or a method that walks an array. -/
  | linearPass
  /-- Halving without a loop. -/
  | halvingOperation
  /-- Nothing of the kind. -/
  | constant
  deriving DecidableEq, Repr, Inhabited

namespace Rule

/-- The rules in the order in which they are tried. -/
def all : List Rule :=
  [recursiveBinarySearch, recursiveHalvingSearch, recursiveMidpointSearch,
    recursiveDivideAndConquer, branchingRecursion, permutationRecursion, recursion,
    tripleNestedLoops, doubleNestedLoops, iterativeBinarySearch, loopedDivideAndConquer,
    linearPass, halvingOperation, constant]

/-- When a rule applies. -/
def applies (record : Record) : Rule → Bool
  | recursiveBinarySearch => record.recursiveSearch
  | recursiveHalvingSearch =>
    record.recursive && record.signals.halves && record.signals.compares &&
      record.signals.returns && !record.signals.accumulates
  | recursiveMidpointSearch =>
    record.recursive && record.signals.takesMidpoint && record.signals.returns &&
      record.signals.compares && decide (record.selfCalls ≤ 2)
  | recursiveDivideAndConquer =>
    record.recursive && (record.divides || record.signals.transforms ||
      decide (0 < record.loopCount) || !record.helperNames.isEmpty)
  | branchingRecursion =>
    record.recursive && decide (2 ≤ record.selfCalls) && !record.recursiveSearch
  | permutationRecursion =>
    record.recursive && decide (0 < record.nestingDepth) && decide (2 < record.calls.length)
  | recursion => record.recursive
  | tripleNestedLoops => decide (3 ≤ record.nestingDepth)
  | doubleNestedLoops => decide (record.nestingDepth = 2)
  | iterativeBinarySearch => record.binarySearch
  | loopedDivideAndConquer => record.divides && decide (0 < record.loopCount)
  | linearPass => decide (0 < record.loopCount) || record.linear
  | halvingOperation => record.divides || record.logarithmic
  | constant => true

/-- The verdict of a rule. -/
def growth : Rule → Growth
  | recursiveBinarySearch => .logarithmic
  | recursiveHalvingSearch => .logarithmic
  | recursiveMidpointSearch => .logarithmic
  | recursiveDivideAndConquer => .linearithmic
  | branchingRecursion => .exponential
  | permutationRecursion => .factorial
  | recursion => .exponential
  | tripleNestedLoops => .cubic
  | doubleNestedLoops => .quadratic
  | iterativeBinarySearch => .logarithmic
  | loopedDivideAndConquer => .linearithmic
  | linearPass => .linear
  | halvingOperation => .logarithmic
  | constant => .constant

/-- The name of a rule. -/
def name : Rule → String
  | recursiveBinarySearch => "recursive-binary-search"
  | recursiveHalvingSearch => "recursive-halving-search"
  | recursiveMidpointSearch => "recursive-midpoint-search"
  | recursiveDivideAndConquer => "recursive-divide-and-conquer"
  | branchingRecursion => "branching-recursion"
  | permutationRecursion => "permutation-recursion"
  | recursion => "recursion"
  | tripleNestedLoops => "triple-nested-loops"
  | doubleNestedLoops => "double-nested-loops"
  | iterativeBinarySearch => "iterative-binary-search"
  | loopedDivideAndConquer => "looped-divide-and-conquer"
  | linearPass => "linear-pass"
  | halvingOperation => "halving-operation"
  | constant => "constant"

/-- What a rule looks for. -/
def description : Rule → String
  | recursiveBinarySearch => "Recursive binary search detected"
  | recursiveHalvingSearch => "Recursion halves the range and returns without building output"
  | recursiveMidpointSearch => "Recursion on a rounded midpoint with at most two self-calls"
  | recursiveDivideAndConquer => "Recursion combined with partitioning, a loop or helper calls"
  | branchingRecursion => "Function calls itself two or more times"
  | permutationRecursion => "Recursion inside a loop with several distinct callees"
  | recursion => "Recursion without a recognised idiom"
  | tripleNestedLoops => "Loops nested three or more deep"
  | doubleNestedLoops => "Loops nested two deep"
  | iterativeBinarySearch => "Loop halving a search range"
  | loopedDivideAndConquer => "Loop combined with a divide step"
  | linearPass => "Single loop or per-element array transform"
  | halvingOperation => "Halving, rounding or shifting without a loop"
  | constant => "No loops, recursion or known linear operations"

end Rule

namespace Record

/-- The rules that apply to a record, in order. -/
def applicableRules (record : Record) : List Rule :=
  Rule.all.filter (·.applies record)

/-- The rule that decides: the first that applies. -/
def rule (record : Record) : Rule :=
  (Rule.all.find? (·.applies record)).getD .constant

/-- The verdict on a record. -/
def growth (record : Record) : Growth :=
  record.rule.growth

theorem rule_applies (record : Record) : record.rule.applies record = true := by
  unfold rule
  cases h : Rule.all.find? (·.applies record) with
  | none => rfl
  | some found => exact List.find?_some h

end Record

end Costwise
