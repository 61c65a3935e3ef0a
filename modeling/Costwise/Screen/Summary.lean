import Costwise.Report.Frequency
import Costwise.Report.Insight
import Costwise.Screen.Drawing

/-!
# Reports on the Screen

A report as panels and tables: the verdict on the whole program, a row for each
function, and what else the user wants to see.

## Main definitions

* `View`: What the user wants to see.
* `Report.draw`: A report.
* `Growth.drawAll`: The table of growth classes.
-/

namespace Costwise

open Screen

/-- What the user wants to see of a report. -/
structure View where
  /-- The name of the source. -/
  sourceName : String := "<input>"
  /-- What the class of the program means. -/
  explanation : Bool := true
  /-- Advice. -/
  suggestions : Bool := false
  /-- Costly places. -/
  bottlenecks : Bool := false
  /-- How often each name is called. -/
  callFrequency : Bool := true
  /-- What each verdict rests on. -/
  detailed : Bool := false
  deriving DecidableEq, Repr

namespace Screen

/-- A note that something was done. -/
def success (message : String) : Drawing :=
  text ("✓  " ++ message)

/-- A note without judgement. -/
def notice (message : String) : Drawing :=
  text ("ℹ  " ++ message)

/-- A list of items in a panel, or a remark that there are none. -/
def bullets (title remark : String) (items : List String) : Drawing :=
  let content := if items.isEmpty then remark
    else "\n".intercalate (items.map ("• " ++ ·))
  panel (some title) .narrow (text content)

end Screen

/-- The signals behind a verdict. -/
def Verdict.drawSignals (verdict : Verdict) : Drawing :=
  let record := verdict.record
  let signal (name : String) (flag : Bool) : Outline := ⟨name ++ ": " ++ flagText flag, []⟩
  let outline : Outline :=
    ⟨"Function: " ++ verdict.name,
      [⟨"Complexity: " ++ verdict.growth.label, []⟩,
        ⟨s!"Recursive calls: {record.selfCalls}", []⟩,
        ⟨"Signals",
          [signal "Divide and conquer" record.divides,
            signal "Logarithmic operations" record.logarithmic,
            signal "Linear operations" record.linear,
            signal "Binary search" record.binarySearch,
            signal "Recursive binary search" record.recursiveSearch]⟩]⟩
  panel none .narrow outline.draw

namespace Report

/-- The verdict on the whole program. -/
def drawOverall (report : Report) (sourceName : String) : Drawing :=
  let count := report.verdicts.length
  let summary := text s!"Overall: {report.overall.label}  ({count} function(s) in {sourceName})"
  let recursive := report.recursiveFunctions
  let note := if recursive.isEmpty then []
    else [text ("Recursion detected: " ++ ", ".intercalate recursive)]
  panel (some "COMPLEXITY ANALYSIS RESULTS") .wide (stack (summary :: note))

/-- A row for each function. -/
def functionTable (report : Report) : Table where
  title := "Functions"
  columns := [("Function", .left), ("Lines", .left), ("Complexity", .left), ("Loops", .right),
    ("Nesting", .right), ("Recursion", .middle)]
  rows := report.verdicts.map fun verdict =>
    [verdict.name, verdict.span.text, verdict.growth.label, toString verdict.record.loopCount,
      toString verdict.record.nestingDepth, flagText verdict.record.recursive]

/-- How often each name is called, in the whole program. -/
def callTable (report : Report) : Table where
  title := "Function Call Frequency"
  columns := [("Function", .left), ("Calls", .right)]
  rows := (Frequency.sorted (Frequency.ofCalls report.totalCalls)).map fun (name, n) =>
    [name, toString n]

/-- Why a program could not be read. -/
def drawFailure (sourceName message : String) : Drawing :=
  panel (some "Error") .wide (text ("Could not parse " ++ sourceName ++ "\n" ++ message))

/-- The parts of a report below the verdict on the whole program. -/
def drawParts (report : Report) (view : View) : Drawing :=
  let given (wanted : Bool) (drawing : Drawing) : List Drawing := if wanted then [drawing] else []
  stack ([report.functionTable.draw] ++
    given view.detailed (stack (report.verdicts.map Verdict.drawSignals)) ++
    given view.explanation
      (panel (some "Complexity Explanation") .narrow (text report.overall.explanation)) ++
    given view.suggestions
      (bullets "Optimization Suggestions" "No specific optimizations suggested"
        report.suggestions) ++
    given view.bottlenecks
      (bullets "Performance Bottlenecks" "No significant bottlenecks detected"
        report.bottlenecks) ++
    given (view.callFrequency && !report.totalCalls.isEmpty) report.callTable.draw ++
    [rule])

/-- A report on the screen. -/
def draw (report : Report) (view : View) : Drawing :=
  match report.error? with
  | some message => drawFailure view.sourceName message
  | none =>
    stack ([blank, report.drawOverall view.sourceName] ++
      if report.verdicts.isEmpty then [notice "No functions found."]
      else [report.drawParts view])

end Report

namespace Growth

/-- The growth classes, best to worst. -/
def drawAll : Drawing :=
  Table.draw
    { title := "Complexity Classes"
      columns := [("Rank", .right), ("Class", .left), ("Label", .left)]
      rows := all.map fun growth => [toString growth.rank, growth.name, growth.label] }

end Growth

end Costwise
