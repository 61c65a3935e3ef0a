import Costwise.Command.Arguments
import Costwise.Log.Message
import Costwise.Report.Export
import Costwise.Screen.Summary

/-!
# Running a Command

What the commands do, from the command line to the exit code. Zero means that
all went well, one that the source could not be analysed or that something
failed, and two that the command line has no meaning.

## Main definitions

* `Action.judge`: Judges a source, with notes to the log.
* `Action.analyze`: Reads, judges, shows and saves.
* `Job.run`: Does a job.
* `execute`: Runs a command line.
-/

namespace Costwise

open Files Screen Syntax

namespace Command

/-- The name of a source that was typed. -/
def typedSourceName : String := "<code>"

/-- The name of the source. -/
def Request.sourceName (request : Request) : Option String :=
  if request.code.isSome then some typedSourceName else request.path

/-- What the user wants to see. -/
def Options.view (options : Options) (sourceName : String) (detailed : Bool) : View where
  sourceName
  explanation := options.panels.explanation.isTrue
  suggestions := options.panels.suggestions.isTrue
  bottlenecks := options.panels.bottlenecks.isTrue
  callFrequency := options.panels.callFrequency.isTrue
  detailed

namespace Action

/-- Judges one function. -/
def judgeDefinition (sourceName : String) (source : Source) (definition : Definition) :
    Action Verdict := do
  let verdict ← ofExcept .overflow (definition.verdict source)
  noteAbout [("function", .str verdict.name), ("source", .str sourceName)] .debug
    (Log.Message.classification verdict.name verdict.growth.label verdict.record.rule.name)
  return verdict

/-- Judges a source. -/
def judge (sourceName anonymous code : String) : Action Report := do
  let program : Program := ⟨.ofString code, (← get).parse code⟩
  match program.fault? with
  | some fault =>
    noteAbout [("source", .str sourceName)] .warning s!"Parse failed: {fault.message}"
    return .failed fault.message
  | none =>
    let verdicts ← (program.definitions anonymous).mapM
      (judgeDefinition sourceName program.source)
    let report := Report.judged verdicts
    noteAbout [("source", .str sourceName)] .debug
      s!"Analyzed {verdicts.length} function(s); overall {report.overall.label}"
    return report

/-- The source that is asked for. Line ends of the standard input are made the same. -/
def readSource (path code : Option String) : Action String := do
  let env ← get
  let input := String.ofList (Text.unifyLineEnds env.input.toList)
  ofExcept .input (env.disk.chooseSource input path code)

/-- Shows a report in the format that is set. -/
def present (options : Options) (sourceName : String) (detailed : Bool) (report : Report) :
    Action Unit :=
  match options.settings.format with
  | .json => print report.toJson.pretty
  | .table => draw (report.draw (options.view sourceName detailed))

/-- Saves a report. -/
def save (options : Options) (path : String) (report : Report) : Action Unit := do
  let env ← get
  let disk ← ofExcept .save (env.disk.saveJson path report.toJson)
  set { env with disk }
  note .info s!"Wrote analysis to {path}"
  if options.settings.format != .json then
    draw (success s!"Analysis written to {path}")

/-- Reads, judges, shows and saves. Gives the exit code. -/
def analyze (options : Options) (request : Request) : Action Nat :=
  within [("source", request.sourceName.elim .null .str)] do
    let code ← readSource request.path request.code
    let sourceName := request.sourceName.getD ""
    let anonymous := options.settings.anonymousName.spelling
    let report ← judge sourceName anonymous code
    let elapsed := (← get).clock.elapsed
    note .info (Log.Message.performance "analysis" elapsed)
    present options sourceName request.detailed report
    if let some path := request.output.filter (· != "") then
      save options path report
    return if report.isOk then 0 else 1

end Action

/-- Does a job. Gives the exit code. -/
def Job.run : Job → Action Nat
  | .analyze request => do
    let options ← Action.resolve request.overrides
    Action.logged "analyze_command" (Action.analyze options request)
  | .classes => do
    Action.draw Growth.drawAll
    return 0

/-- What the user is told when a job failed. -/
def Failure.complaint (failure : Failure) (job : Job) : String :=
  if failure.isExpected then s!"Error: {failure.message}"
  else s!"Unexpected error in {job.name}: {failure.message}"

/-- The exit code of a command line that has no meaning. -/
def usageError : Nat := 2

/-- Runs a command line. Gives the exit code and the environment afterwards. -/
def execute (arguments : List String) (env : Environment) : Nat × Environment :=
  match Job.ofArguments? arguments with
  | none => (usageError, env)
  | some job =>
    match job.run.perform env with
    | (.ok code, env) => (code, env)
    | (.error failure, env) =>
      let lines := unwrapped (failure.complaint job).toList
      (1, { env with messages := env.messages ++ lines })

end Command

end Costwise
