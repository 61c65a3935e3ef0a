import Costwise.Log.Session
import Costwise.Screen.Drawing
import Costwise.Settings.Store
import Costwise.Syntax.Node

/-!
# What Commands Act On

Everything that a command can see and change is one value, its environment: the
disk, the settings in force, the log, the screen. An action is a function of
it. An action that fails still leaves an environment behind, since what it
wrote before stays written. Clock, parser and width of the screen belong to the
environment too, so it alone determines what a command does.

## Main definitions

* `Environment`: What a command can see and change.
* `Failure`: Why an action fails.
* `Action`: What a command does.
* `Action.draw`, `Action.note`: Writing to the screen and to the log.
* `Action.within`: Acting with more context for the log.
* `Action.noteAbout`: A message with a context of its own.
* `Action.logged`: Acting with notes about the start and the end.
-/

namespace Costwise

open Files Screen

namespace Command

/-- How times are written in the log. -/
structure Clock where
  /-- The time of a message. -/
  stamp : String
  /-- The seconds that something took. -/
  elapsed : String

/-- Everything that a command can see and change. -/
structure Environment where
  /-- The files. -/
  disk : Disk
  /-- The settings in force, if they have been loaded. -/
  settings : SettingsStore := none
  /-- The log. -/
  log : Log.Session := {}
  /-- What the standard input gives. -/
  input : String := ""
  /-- The lines of the output. -/
  output : List Line := []
  /-- The lines beside the output: messages and complaints. -/
  messages : List Line := []
  /-- How times are written. -/
  clock : Clock
  /-- The columns of the screen. -/
  columns : Nat := 100
  /-- The syntax tree of a source. -/
  parse : String → Syntax.Node

/-- Why an action fails. -/
inductive Failure where
  /-- There are no settings. -/
  | settings (error : Settings.LoadError)
  /-- There is no such output format. -/
  | format (name : String)
  /-- The display is set to something that has no such panel. -/
  | display (value : Json) (panel : String)
  /-- There is no source. -/
  | input (error : InputError)
  /-- The report could not be saved. -/
  | save (error : SaveError)
  /-- A number of the source is too large. -/
  | overflow (error : Literal.Overflow)
  /-- The log file cannot be written. -/
  | logFile (error : FileError)
  /-- The log was reset inside a block. -/
  | lostContext
  /-- A job that is not of this program failed. -/
  | job (message : String)

namespace Failure

/-- What is said about a failure. -/
def message : Failure → String
  | settings error => error.message
  | format name => Settings.unsupportedFormat name
  | display value panel => s!"'{value.kindName}' object has no attribute '{panel}'"
  | input error => error.message
  | save error => error.message
  | overflow error => error.message
  | logFile error => error.message
  | lostContext => "'NoneType' object has no attribute 'context'"
  | job message => message

/-- Whether the user is to blame, and not the program. -/
def isExpected : Failure → Bool
  | settings (.notText _) => false
  | settings (.longInteger _) => false
  | settings _ => true
  | format _ => true
  | input _ => true
  | save _ => true
  | _ => false

end Failure

/-- What a command does. -/
abbrev Action := ExceptT Failure (StateM Environment)

/-- The outcome of an action and the environment after it. -/
def Action.perform {α : Type} (action : Action α) (env : Environment) :
    Except Failure α × Environment :=
  (ExceptT.run action).run env

namespace Environment

/-- Adds a record to the log: to the console if it is important enough, and to the
    log file if there is one. -/
def write (env : Environment) (record : Log.Record) : Environment :=
  let lines := if env.log.showsOnConsole record then record.consoleLines else []
  let bytes := Text.Utf8.encode (record.fileLine env.clock.stamp ++ "\n")
  let disk := match env.log.current.file with
    | some path => (env.disk.append path bytes).toOption.getD env.disk
    | none => env.disk
  { env with messages := env.messages ++ lines, disk }

/-- Opens a log file: it exists from then on. -/
def openLogFile (env : Environment) (path : Path) : Except FileError Disk :=
  (env.disk.append path []).mapError fun reason =>
    ⟨reason, path.absoluteText env.disk.here⟩

/-- Sets up the log, unless it is set up already. If the log file cannot be opened
    there is no log. -/
def configureLog (env : Environment) (setup : Log.Setup) : Except FileError Unit × Environment :=
  match env.log.setup, setup.file.map env.openLogFile with
  | some _, _ => (.ok (), env)
  | none, some (.error error) => (.error error, { env with log := env.log.failedSetup })
  | none, some (.ok disk) => (.ok (), { env with disk, log := env.log.configure setup })
  | none, none => (.ok (), { env with log := env.log.configure setup })

end Environment

namespace Action

/-- Fails if there is no value. -/
def ofExcept {ε α : Type} (cause : ε → Failure) : Except ε α → Action α
  | .ok value => pure value
  | .error error => throw (cause error)

/-- Draws on the screen. -/
def draw (drawing : Drawing) : Action Unit :=
  modify fun env => { env with output := env.output ++ drawing env.columns }

/-- Prints a text as it is, whatever the width of the screen. -/
def print (content : String) : Action Unit :=
  modify fun env =>
    { env with output := env.output ++ Text.splitLines content.toList }

/-- Sets up the log. The path of a log file counts from where the program is now. -/
def configureLog (debug verbose : Bool) (file : Option String) : Action Unit := do
  let path := (file.filter (· != "")).map fun name => (Path.ofString name).flatten
  let env ← get
  let (outcome, env) := env.configureLog { debug, verbose, file := path }
  set env
  ofExcept .logFile outcome

/-- Forgets the log. -/
def resetLog : Action Unit :=
  modify fun env => { env with log := {} }

/-- Makes a message, with the context in force. -/
def note (level : Log.Level) (message : String) : Action Unit :=
  modify fun env =>
    let env := { env with log := env.log.ready }
    match env.log.record? level message with
    | some record => env.write record
    | none => env

/-- Enters a block with more context. -/
def enter (keys : Keyed Json) : Action Log.Block := do
  let env ← get
  let (log, block) := env.log.enter keys
  set { env with log }
  return block

/-- Leaves a block. -/
def leave (block : Log.Block) : Action Unit := do
  let env ← get
  match env.log.leave block with
  | some log => set { env with log }
  | none => throw .lostContext

/-- The outcome of an action as a value. -/
def outcome {α : Type} (action : Action α) : Action (Except Failure α) :=
  tryCatch (Except.ok <$> action) (pure ∘ Except.error)

/-- Acts inside a block, and leaves it however the action ends. -/
def within {α : Type} (keys : Keyed Json) (action : Action α) : Action α := do
  let block ← enter keys
  let result ← outcome action
  leave block
  ofExcept id result

/-- Makes a message, with more context for this message alone: it is made in a block of
    its own. -/
def noteAbout (keys : Keyed Json) (level : Log.Level) (message : String) : Action Unit :=
  within keys (note level message)

/-- Acts with notes about the start and the end. -/
def logged {α : Type} (name : String) (action : Action α) : Action α := do
  note .debug s!"Starting {name}"
  let elapsed := (← get).clock.elapsed
  try
    let value ← action
    note .debug s!"Completed {name} in {elapsed}s"
    return value
  catch failure =>
    note .error s!"Failed {name} after {elapsed}s: {failure.message}"
    throw failure

end Action

end Command

end Costwise
