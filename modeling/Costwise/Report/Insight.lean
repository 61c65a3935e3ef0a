import Costwise.Report.Basic

/-!
# Advice and Bottlenecks

What a report says beyond the verdicts: advice on what to change, and the
places that dominate the cost. Both are looked up from the verdicts, function
by function in order. The same advice is given once.

## Main definitions

* `Verdict.advice`: The advice on one function.
* `Verdict.bottlenecks`: The costly places of one function.
* `Report.suggestions`: The advice on a program, each piece once.
* `Report.bottlenecks`: The costly places of a program.
-/

namespace Costwise

namespace Verdict

/-- The advice on one function. -/
def advice (verdict : Verdict) : List String :=
  let about (condition : Bool) (text : String) : List String :=
    if condition then [verdict.name ++ ": " ++ text] else []
  let record := verdict.record
  let nested := verdict.growth == .quadratic || verdict.growth == .cubic
  let walks := (Keyed.keys record.calls).filter Signals.walkingMethods.contains
  about (verdict.growth == .exponential && record.recursive)
    ("memoize results or rewrite bottom-up with dynamic " ++
      "programming to avoid recomputing subproblems.") ++
  about (verdict.growth == .factorial)
    ("prune the search (backtracking with early exits) or " ++
      "avoid enumerating every permutation.") ++
  about nested
    ("replace inner loops with a hash map or set lookup " ++
      "where the loop only searches for a value.") ++
  about nested
    ("if the input can be sorted, consider two pointers or " ++
      "binary search instead of nested iteration.") ++
  about (verdict.growth == .linear && decide (1 < walks.length))
    ("chained array transforms each walk the array; " ++
      "combine them into a single pass.") ++
  about (record.recursive && record.signals.accumulates)
    ("slicing or spreading arrays in every recursive call " ++
      "copies data; pass index bounds instead.")

/-- The number of calls of one name from which on they are worth a note. -/
def frequentCalls : Nat := 3

/-- The costly places of one function. -/
def bottlenecks (verdict : Verdict) : List String :=
  let record := verdict.record
  let place := s!"{verdict.name} (lines {verdict.span.first}-{verdict.span.last})"
  let about (condition : Bool) (text : String) : List String :=
    if condition then [place ++ " " ++ text] else []
  about (decide (Growth.quadratic ≤ verdict.growth)) s!"is {verdict.growth.label}." ++
  about (decide (2 ≤ record.nestingDepth)) s!"nests loops {record.nestingDepth} deep." ++
  about (decide (2 ≤ record.selfCalls) && !record.recursiveSearch)
    s!"calls itself from {record.selfCalls} sites." ++
  record.calls.flatMap fun (callee, n) =>
    about (callee != verdict.name && decide (frequentCalls ≤ n)) s!"calls {callee}() {n} times."

end Verdict

namespace Report

/-- Adds a piece of advice, unless it was given before. -/
def addOnce (given : List String) (piece : String) : List String :=
  if piece ∈ given then given else given ++ [piece]

/-- The advice on a list of functions, each piece once, in the order in which it
    first comes up. -/
def adviceOn (verdicts : List Verdict) : List String :=
  (verdicts.flatMap Verdict.advice).foldl addOnce []

/-- The advice on a program. -/
def suggestions (report : Report) : List String :=
  adviceOn report.verdicts

/-- The costly places of a program. -/
def bottlenecks (report : Report) : List String :=
  report.verdicts.flatMap Verdict.bottlenecks

end Report

end Costwise
