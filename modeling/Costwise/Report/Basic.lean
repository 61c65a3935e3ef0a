import Costwise.Features.Walk
import Costwise.Rule
import Costwise.Syntax.Fault

/-!
# Reports

The outcome of judging a program: a verdict on each of its functions, or the
reason why the program could not be read. The program as a whole is as bad as
its worst function, and as good as possible if it has none or could not be
read.

## Main definitions

* `LineSpan`: The lines of a function.
* `Verdict`: What is reported of one function.
* `Report`: What is reported of a program.
* `Program.verdicts`: Judges the functions of a program.
* `Program.report`: Judges a program.
-/

namespace Costwise

open Syntax

/-- The first and the last line of something, counted from one. -/
structure LineSpan where
  /-- The first line. -/
  first : Int
  /-- The last line. -/
  last : Int
  deriving DecidableEq, Repr

/-- What is reported of one function. -/
structure Verdict where
  /-- The name of the function. -/
  name : String
  /-- Its lines. -/
  span : LineSpan
  /-- What it was judged by. -/
  record : Record
  /-- Its growth class. -/
  growth : Growth
  deriving DecidableEq, Repr

/-- What is reported of a program. -/
inductive Report where
  /-- The program could not be read, for this reason. -/
  | failed (message : String)
  /-- The verdicts on its functions. -/
  | judged (verdicts : List Verdict)
  deriving DecidableEq, Repr

namespace Report

/-- The verdicts, none if the program could not be read. -/
def verdicts : Report → List Verdict
  | failed _ => []
  | judged verdicts => verdicts

/-- Why the program could not be read. -/
def error? : Report → Option String
  | failed message => some message
  | judged _ => none

/-- Whether the program could be read. -/
def isOk (report : Report) : Bool :=
  report.error?.isNone

/-- The class of the whole program. -/
def overall (report : Report) : Growth :=
  Growth.worst (report.verdicts.map (·.growth))

/-- The names of the functions that call themselves. -/
def recursiveFunctions (report : Report) : List String :=
  (report.verdicts.filter (·.record.recursive)).map (·.name)

/-- How often each name is called in the whole program. -/
def totalCalls (report : Report) : Calls :=
  report.verdicts.foldl (fun total verdict => Calls.merge total verdict.record.calls) []

end Report

/-- Judges one function. -/
def Definition.verdict (source : Source) (definition : Definition) :
    Except Literal.Overflow Verdict :=
  (definition.record source).map fun record =>
    { name := definition.name
      span := ⟨definition.startLine source, definition.endLine source⟩
      record
      growth := record.growth }

namespace Syntax.Program

/-- Judges the functions of a program one after the other. Functions without a
    name get the placeholder. -/
def verdicts (program : Program) (anonymous : String) :
    Except Literal.Overflow (List Verdict) :=
  (program.definitions anonymous).mapM (·.verdict program.source)

/-- Judges a program, if its tree has no fault. -/
def report (program : Program) (anonymous : String) : Except Literal.Overflow Report :=
  match program.fault? with
  | some fault => .ok (.failed fault.message)
  | none => (program.verdicts anonymous).map .judged

end Syntax.Program

end Costwise
