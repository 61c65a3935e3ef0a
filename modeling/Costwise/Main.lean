import Costwise.Command.Run
import Costwise.Json.Reader
import Costwise.Syntax.Listing

/-!
# The Program

The outer layer. It fetches the files that a command line mentions into an
`Environment`, runs the command line there, and puts what was printed and
written where it belongs. Nothing is decided here.

The syntax tree comes from a parser that runs before. The variable
`COSTWISE_TREE` names the file with the tree, and `COSTWISE_TIME` gives the time
for the log.

## Main definitions

* `Job.paths`: The paths that a job mentions.
* `main`: The program.
-/

namespace Costwise

open Files

namespace Command

/-- The paths that a job mentions. -/
def Job.paths : Job → List Path
  | .analyze request =>
    let overrides := request.overrides
    ([request.path, request.output, overrides.config, overrides.logFile].filterMap id).map
      Path.ofString
  | .classes => []

/-- The places on the way along a path. -/
def placesAlong (path : Path) : List Place :=
  let root := if path.anchor = "" then Root.working else .top
  (List.range path.parts.length).map fun index => ⟨root, path.parts.take (index + 1)⟩

/-- The places that a command line may need. -/
def placesNeeded (arguments : List String) : List Place :=
  Settings.usualPlaces ++ match Job.ofArguments? arguments with
    | some job => job.paths.flatMap placesAlong
    | none => []

/-- Fetches what is at a place. -/
def fetch (disk : Disk) (place : Place) : IO Disk := do
  try
    let bytes ← IO.FS.readBinFile (disk.placeText place)
    return disk.install place (.file bytes.toList)
  catch
    | .inappropriateType .. => return disk.install place .folder
    | _ => return disk

/-- Puts an item where it belongs. -/
def deliver (disk : Disk) (place : Place) : Item → IO Unit
  | .folder => IO.FS.createDirAll (disk.placeText place)
  | .file bytes => IO.FS.writeBinFile (disk.placeText place) ⟨bytes.toArray⟩

/-- The syntax tree that was made before, that of an empty source if there is none. -/
def fetchTree : IO Syntax.Node := do
  match ← IO.getEnv "COSTWISE_TREE" with
  | none => return .emptyProgram
  | some name =>
    let listing ← IO.FS.readFile name
    match Json.read listing.toList with
    | .ok tree => return .ofJson tree
    | .error error => throw (IO.userError error.message)

/-- The standard input, if the command line asks for it. -/
def fetchInput (arguments : List String) : IO String := do
  if arguments.contains standardInput then
    (← IO.getStdin).readToEnd
  else return ""

/-- The environment that a command line runs in. -/
def fetchEnvironment (arguments : List String) : IO Environment := do
  let disk : Disk :=
    { here := toString (← IO.currentDir), home := (← IO.getEnv "HOME").getD "" }
  let tree ← fetchTree
  return {
    disk := ← (placesNeeded arguments).foldlM fetch disk
    input := ← fetchInput arguments
    clock := ⟨(← IO.getEnv "COSTWISE_TIME").getD "", "0.000"⟩
    columns := ((← IO.getEnv "COLUMNS").bind String.toNat?).getD 80
    parse := fun _ => tree }

/-- Prints lines. -/
def printLines (stream : IO.FS.Stream) (lines : List Screen.Line) : IO Unit :=
  lines.forM fun line => stream.putStrLn (String.ofList line)

end Command

end Costwise

open Costwise.Command in
/-- Runs a command line. -/
def main (arguments : List String) : IO UInt32 := do
  let before ← fetchEnvironment arguments
  let (code, env) := execute arguments before
  (env.disk.changes before.disk).forM fun (place, item) => deliver env.disk place item
  printLines (← IO.getStderr) env.messages
  printLines (← IO.getStdout) env.output
  return UInt32.ofNat code
