import Costwise.Files.Path
import Costwise.Log.Context
import Costwise.Log.Level
import Costwise.Screen.Wrap

/-!
# Log Sessions

Where messages go. The log is set up once, by the first that needs it, and
stays as it is until it is reset. Messages of some importance go to the
console; if there is a log file, all of them go there, with the time and the
context.

Blocks add to the context. A block remembers the context that it found, and
leaving it puts that back. A block that adds nothing remembers nothing.

## Main definitions

* `Setup`: How a log is to be set up.
* `Session`: A log and its context.
* `Record`: A message with all that belongs to it.
* `Record.fileLine`, `Record.consoleLines`: A message as it is written.
* `Block`: What a block remembers.
* `Session.enter`, `Session.leave`: The context of a block.
* `Session.record?`: The record that is made of a message.
-/

namespace Costwise

namespace Log

/-- How a log is to be set up. -/
structure Setup where
  /-- Whether everything is to be seen. -/
  debug : Bool := false
  /-- Whether progress is to be seen. -/
  verbose : Bool := false
  /-- The log file, if there is to be one. -/
  file : Option Files.Path := none

namespace Setup

/-- The least level that is recorded at all. -/
def threshold (setup : Setup) : Level :=
  if setup.debug || setup.file.isSome then .debug else .info

/-- The least level that goes to the console. -/
def consoleThreshold (setup : Setup) : Level :=
  if setup.debug then .debug else if setup.verbose then .info else .warning

end Setup

/-- A log. It can have a context before it is set up: setting it up may have
    failed at the log file. -/
structure Session where
  /-- How the log is set up, if it is. -/
  setup : Option Setup := none
  /-- What messages are about. -/
  context : Option Context := none

/-- A message with all that belongs to it. -/
structure Record where
  /-- How important it is. -/
  level : Level
  /-- What it says. -/
  message : String
  /-- What it is about. -/
  context : Context

namespace Record

/-- A message as it stands after the context in a log file. -/
def body (stamp : String) (record : Record) : String :=
  s!"{stamp} - complexity_cli - {record.level.name} - {record.message}"

/-- A message as it stands in a log file. -/
def fileLine (stamp : String) (record : Record) : String :=
  record.context.label ++ record.body stamp

/-- A message without the time, as it would stand in a log file. -/
def plainLine (record : Record) : String :=
  record.context.label ++ record.level.name ++ " - " ++ record.message

/-- The columns that the level takes on the console. -/
def levelColumns : Nat := 8

/-- A message on the console: the level, then what it says. Further lines stand
    below the first. -/
def consoleLines (record : Record) : List Screen.Line :=
  let level := Screen.padRight levelColumns record.level.name.toList ++ [' ']
  match Screen.unwrapped record.message.toList with
  | [] => [level]
  | first :: rest =>
    (level ++ first) :: rest.map (List.replicate (levelColumns + 1) ' ' ++ ·)

end Record

/-- What a block remembers: the context that it found, if it added something. -/
abbrev Block := Option Context

namespace Session

/-- Sets the log up, unless it is set up already. -/
def configure (session : Session) (setup : Setup) : Session :=
  match session.setup with
  | some _ => session
  | none => { setup := some setup, context := some [] }

/-- A log whose setting up failed at the log file: there is a context but no log. -/
def failedSetup (session : Session) : Session :=
  match session.setup with
  | some _ => session
  | none => { setup := none, context := some [] }

/-- The log, set up in the usual way if need be. -/
def ready (session : Session) : Session :=
  session.configure {}

/-- The setup in force. -/
def current (session : Session) : Setup :=
  session.setup.getD {}

/-- Enters a block. -/
def enter (session : Session) (keys : Keyed Json) : Session × Block :=
  let session := session.ready
  let added := Context.given keys
  match session.context with
  | some context =>
    if added.isEmpty then (session, none)
    else ({ session with context := some (context.extend added) }, some context)
  | none => (session, none)

/-- Leaves a block: the context that it found is in force again. If the log was
    reset meanwhile, there is no context to put back. -/
def leave (session : Session) : Block → Option Session
  | none => some session
  | some found => session.context.map fun _ => { session with context := some found }

/-- A message with the context in force, if it is important enough to be recorded. -/
def record? (session : Session) (level : Level) (message : String) : Option Record :=
  if session.current.threshold ≤ level then
    some { level, message, context := session.context.getD [] }
  else none

/-- Whether a recorded message goes to the console. -/
def showsOnConsole (session : Session) (record : Record) : Bool :=
  decide (session.current.consoleThreshold ≤ record.level)

end Session

end Log

end Costwise
