import Costwise.Proofs.Concatenation
import Costwise.Report.Insight

/-!
# What the Advice Covers

A report may come with advice, and a user who asks for it expects a word on every
function that is costly. The advice is a list of texts without repetitions, made by
going through the functions and adding what is new. A text is about a function only
through the name at its beginning, and several functions can have one name: all
functions without a name have the placeholder. So a function may be covered by
advice that was given on another.

Giving a piece of advice changes the list in one of two ways, and `addOnce` keeps
three things on record: nothing that was given goes away or moves, nothing comes
twice, and the piece is there afterwards. Each holds of a whole series of pieces
because it holds of one.

That every costly function has advice is not a matter of the list. Advice on a
function of exponential cost is given only if the record says that the function
calls itself, and nothing in the advice makes sure of that. The rules of judgement
do: every rule with that verdict asks for a recursion first
(`recursive_of_exponential`). The others ask for nothing but the verdict.

## Theorems

* `prefix_addOnce`, `nodup_addOnce`, `mem_addOnce`: What giving a piece of advice does.
* `prefix_foldl_addOnce`, `nodup_foldl_addOnce`, `mem_foldl_addOnce`: What a series of
  pieces does.
* `adviceOn_append`: More functions only add to the advice.
* `recursive_of_exponential`: A verdict of exponential cost is one on a recursion.
* `exists_advice`: There is advice on every costly function.
* `line_mem_bottlenecks`: Every costly function is named among the costly places.
* `costly_functions_covered`: What the advice covers.
-/

namespace Costwise

open Syntax

namespace Report

section AddOnce

variable (given : List String) (piece : String)

theorem prefix_addOnce : given <+: addOnce given piece := by
  unfold addOnce
  split
  · exact List.prefix_rfl
  · exact List.prefix_append given [piece]

theorem nodup_addOnce {given : List String} (h : given.Nodup) : (addOnce given piece).Nodup := by
  unfold addOnce
  split
  · exact h
  · rename_i hnew
    rw [List.nodup_append]
    refine ⟨h, List.nodup_singleton piece, fun old hold new hmem => ?_⟩
    rw [List.mem_singleton.mp hmem]
    exact fun heq => hnew (heq ▸ hold)

theorem mem_addOnce {text : String} :
    text ∈ addOnce given piece ↔ text ∈ given ∨ text = piece := by
  unfold addOnce
  split
  · rename_i hold
    constructor
    · exact .inl
    · rintro (h | rfl)
      · exact h
      · exact hold
  · rw [List.mem_append, List.mem_singleton]

variable (pieces : List String)

theorem prefix_foldl_addOnce : given <+: pieces.foldl addOnce given := by
  induction pieces generalizing given with
  | nil => exact List.prefix_rfl
  | cons piece rest ih => exact (prefix_addOnce given piece).trans (ih (addOnce given piece))

theorem nodup_foldl_addOnce {given : List String} (h : given.Nodup) :
    (pieces.foldl addOnce given).Nodup := by
  induction pieces generalizing given with
  | nil => exact h
  | cons piece rest ih => exact ih (nodup_addOnce piece h)

theorem mem_foldl_addOnce {text : String} :
    text ∈ pieces.foldl addOnce given ↔ text ∈ given ∨ text ∈ pieces := by
  induction pieces generalizing given with
  | nil => simp only [List.foldl_nil, List.not_mem_nil, or_false]
  | cons piece rest ih => rw [List.foldl_cons, ih, mem_addOnce, List.mem_cons, or_assoc]

end AddOnce

theorem nodup_adviceOn (verdicts : List Verdict) : (adviceOn verdicts).Nodup :=
  nodup_foldl_addOnce _ List.nodup_nil

/-- The advice on more functions is given after that on the first ones. -/
theorem adviceOn_append (verdicts more : List Verdict) :
    adviceOn (verdicts ++ more)
      = (more.flatMap Verdict.advice).foldl addOnce (adviceOn verdicts) := by
  rw [adviceOn, List.flatMap_append, List.foldl_append, adviceOn]

theorem mem_adviceOn {verdicts : List Verdict} {text : String} :
    text ∈ adviceOn verdicts ↔ ∃ verdict ∈ verdicts, text ∈ verdict.advice := by
  rw [adviceOn, mem_foldl_addOnce, List.mem_flatMap]
  simp only [List.not_mem_nil, false_or]

end Report

/-- A verdict of exponential cost is one on a recursion: all rules with that verdict ask
    for it. -/
theorem Record.recursive_of_exponential {record : Record} (h : record.growth = .exponential) :
    record.recursive = true := by
  have happlies := record.rule_applies
  rw [growth] at h
  cases hrule : record.rule <;> rw [hrule] at h happlies
  case branchingRecursion =>
    simp only [Rule.applies, Bool.and_eq_true] at happlies
    exact happlies.1.1
  case recursion => exact happlies
  all_goals cases h

namespace Verdict

variable {verdict : Verdict}

/-- There is advice on every costly function, if its class is the one that its record
    asks for. -/
theorem exists_advice (hgrowth : verdict.growth = verdict.record.growth)
    (hcostly : Growth.quadratic ≤ verdict.growth) :
    ∃ text, verdict.name ++ ": " ++ text ∈ verdict.advice := by
  have hgiven : ∀ {condition : Bool} {text : String}, condition = true →
      text ∈ (if condition then [text] else []) := by
    intro condition text hcondition
    rw [if_pos hcondition]
    exact List.mem_singleton_self text
  unfold advice
  simp only [List.mem_append]
  cases hclass : verdict.growth with
  | constant | logarithmic | linear | linearithmic =>
      rw [hclass] at hcostly
      exact absurd hcostly (by decide)
  | quadratic => exact ⟨_, .inl (.inl (.inl (.inr (hgiven rfl))))⟩
  | cubic => exact ⟨_, .inl (.inl (.inl (.inr (hgiven rfl))))⟩
  | exponential =>
      -- The one piece of advice that asks for more than the class.
      have hrecursive := Record.recursive_of_exponential (hgrowth.symm.trans hclass)
      refine ⟨_, .inl (.inl (.inl (.inl (.inl (hgiven ?_)))))⟩
      rw [hrecursive]
      rfl
  | factorial => exact ⟨_, .inl (.inl (.inl (.inl (.inr (hgiven rfl)))))⟩

/-- Every costly function is named among the costly places, with its lines and its
    class. -/
theorem line_mem_bottlenecks (hcostly : Growth.quadratic ≤ verdict.growth) :
    verdict.name ++ " (lines " ++ toString verdict.span.first ++ "-"
        ++ toString verdict.span.last ++ ") is " ++ verdict.growth.label ++ "."
      ∈ verdict.bottlenecks := by
  have hjoin : ") is " = ")" ++ (" " ++ "is ") := by decide +kernel
  have hline : verdict.name ++ " (lines " ++ toString verdict.span.first ++ "-"
        ++ toString verdict.span.last ++ ") is " ++ verdict.growth.label ++ "."
      = s!"{verdict.name} (lines {verdict.span.first}-{verdict.span.last})" ++ " "
        ++ s!"is {verdict.growth.label}." := by
    rw [hjoin]
    simp only [String.append_assoc]
    rfl
  rw [hline]
  unfold bottlenecks
  simp only [List.mem_append]
  refine .inl (.inl (.inl ?_))
  rw [if_pos (decide_eq_true hcostly)]
  exact List.mem_singleton_self _

end Verdict

/-- What the advice covers.

    No advice comes twice in a report, and the advice on some functions is what the advice
    on them and others begins with. In a report on a program, every function whose class
    is quadratic or worse has advice that begins with its name, and a line among the
    costly places that gives its lines and its class. -/
theorem Report.costly_functions_covered :
    (∀ report : Report, report.suggestions.Nodup) ∧
    (∀ verdicts more : List Verdict,
      (judged verdicts).suggestions <+: (judged (verdicts ++ more)).suggestions) ∧
    ∀ (program : Program) (anonymous : String) (report : Report),
      program.report anonymous = .ok report → ∀ verdict ∈ report.verdicts,
        Growth.quadratic ≤ verdict.growth →
          (∃ suggestion ∈ report.suggestions, ∃ text,
            suggestion = verdict.name ++ ": " ++ text) ∧
          verdict.name ++ " (lines " ++ toString verdict.span.first ++ "-"
              ++ toString verdict.span.last ++ ") is " ++ verdict.growth.label ++ "."
            ∈ report.bottlenecks := by
  refine ⟨fun report => nodup_adviceOn report.verdicts, fun verdicts more => ?_, ?_⟩
  · show adviceOn verdicts <+: adviceOn (verdicts ++ more)
    rw [adviceOn_append]
    exact prefix_foldl_addOnce _ _
  · intro program anonymous report hreport verdict hverdict hcostly
    cases report with
    | failed message => exact absurd hverdict List.not_mem_nil
    | judged verdicts =>
        have hverdicts := (Program.judged_of_report hreport).2
        rcases Program.exists_record_of_mem_verdicts hverdicts hverdict with
          ⟨definition, _, _, _, hgrowth⟩
        rcases Verdict.exists_advice hgrowth hcostly with ⟨text, htext⟩
        exact ⟨⟨_, mem_adviceOn.mpr ⟨verdict, hverdict, htext⟩, text, rfl⟩,
          List.mem_flatMap.mpr ⟨verdict, hverdict, Verdict.line_mem_bottlenecks hcostly⟩⟩

/-! The program `()=>{for(;;)for(;;);};()=>{for(;;)for(;;);}`: two functions without a name,
    on two lines, both with two loops in each other. -/

namespace TwoNestedLoops

/-- An arrow with two nested loops, whose first byte is the given one. -/
def arrowAt (index start : Nat) : Node :=
  { index, kind := .arrow, start, stop := start + 21,
    children :=
      [{ index := index + 1, kind := .other "statement_block", field := some .body,
         start := start + 4, stop := start + 21,
         children :=
          [{ index := index + 2, kind := .forLoop, start := start + 5, stop := start + 20,
             children := [{ index := index + 3, kind := .forLoop, start := start + 12,
                            stop := start + 20 }] }] }] }

def program : Program :=
  ⟨.ofString "()=>\x7bfor(;;)for(;;);\x7d;\n()=>\x7bfor(;;)for(;;);\x7d",
    { kind := .other "program", stop := 44, children := [arrowAt 1 0, arrowAt 5 23] }⟩

/-- What is found out about the function on a line. -/
def verdictOn (line : Nat) : Verdict where
  name := "anonymous"
  span := ⟨line, line⟩
  record :=
    { loopCount := 2, nestingDepth := 2, functionName := "anonymous",
      bodyText := "\x7bfor(;;)for(;;);\x7d" }
  growth := .quadratic

theorem both_covered :
    program.report "anonymous" = .ok (.judged [verdictOn 1, verdictOn 2]) ∧
      (Report.judged [verdictOn 1, verdictOn 2]).suggestions.length = 2 ∧
      (∃ suggestion ∈ (Report.judged [verdictOn 1, verdictOn 2]).suggestions, ∃ text,
        suggestion = "anonymous" ++ ": " ++ text) ∧
      "anonymous" ++ " (lines " ++ toString (2 : Int) ++ "-" ++ toString (2 : Int) ++ ") is "
          ++ "O(n²)" ++ "."
        ∈ (Report.judged [verdictOn 1, verdictOn 2]).bottlenecks := by
  have hreport : program.report "anonymous" = .ok (.judged [verdictOn 1, verdictOn 2]) := by
    decide +kernel
  have hlength : (Report.judged [verdictOn 1, verdictOn 2]).suggestions.length = 2 := by
    decide +kernel
  have hsecond : verdictOn 2 ∈ [verdictOn 1, verdictOn 2] :=
    List.mem_cons_of_mem _ List.mem_cons_self
  have hcovered := Report.costly_functions_covered.2.2 program "anonymous" _ hreport (verdictOn 2)
    hsecond (by decide)
  exact ⟨hreport, hlength, hcovered⟩

end TwoNestedLoops

end Costwise
