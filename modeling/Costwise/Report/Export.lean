import Costwise.Json.Value
import Costwise.Report.Basic

/-!
# Reports as JSON

The form in which a report is printed for other programs and saved to a file.

## Main definitions

* `Report.toJson`: A report as a JSON value.
-/

namespace Costwise

/-- Call counts as an object, first call first. -/
def Calls.toJson (calls : Calls) : Json :=
  .obj (calls.map fun (name, n) => (name, .int n))

/-- A record as a JSON value. -/
def Record.toJson (record : Record) : Json :=
  .obj [("loopCount", .int record.loopCount),
    ("nestedLoopDepth", .int record.nestingDepth),
    ("recursionDetected", .bool record.recursive),
    ("recursiveCallCount", .int record.selfCalls),
    ("functionCalls", Calls.toJson record.calls),
    ("divideAndConquer", .bool record.divides),
    ("logarithmicOperations", .bool record.logarithmic),
    ("linearOperations", .bool record.linear),
    ("binarySearchPattern", .bool record.binarySearch),
    ("recursiveBinarySearch", .bool record.recursiveSearch),
    ("bodyText", .str record.bodyText)]

/-- A verdict as a JSON value. -/
def Verdict.toJson (verdict : Verdict) : Json :=
  .obj [("name", .str verdict.name),
    ("startLine", .int verdict.span.first),
    ("endLine", .int verdict.span.last),
    ("complexity", .str verdict.growth.label),
    ("details", verdict.record.toJson)]

/-- A report as a JSON value. The reason of a failure comes last. -/
def Report.toJson (report : Report) : Json :=
  .obj ([("overallComplexity", .str report.overall.label),
    ("functions", .arr (report.verdicts.map Verdict.toJson))] ++
    report.error?.toList.map fun message => ("error", .str message))

end Costwise
