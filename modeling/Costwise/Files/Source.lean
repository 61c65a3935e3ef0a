import Costwise.Files.Disk
import Costwise.Json.Writer
import Costwise.Text.Lines
import Costwise.Text.Utf8

/-!
# Reading Sources and Saving Reports

A source comes from a file, from the standard input or from the command line,
and from exactly one of them. Files are read as UTF-8 with all line ends made
the same. A report is saved as indented JSON, and the folders that lead to the
file are made.

## Main definitions

* `InputError`: Why there is no source.
* `Disk.readSource`: Reads a source by its path.
* `Disk.chooseSource`: The source that was asked for.
* `Disk.saveJson`: Saves a JSON value.
-/

namespace Costwise

namespace Files

/-- Why there is no source. -/
inductive InputError where
  /-- A path and a text were both given. -/
  | bothGiven
  /-- Neither was given. -/
  | nothingGiven
  /-- There is no such file. -/
  | notFound (path : String)
  /-- The file holds no text. -/
  | notText (path : String) (fault : Text.Utf8.FaultAt)
  deriving DecidableEq, Repr

/-- What is said about it. -/
def InputError.message : InputError → String
  | bothGiven => "Pass either a file path or --code, not both."
  | nothingGiven => "Nothing to analyze: pass a file path, '-' or --code."
  | notFound path => s!"Source file not found: {path}"
  | notText path fault => s!"Could not read {path}: {fault.message}"

/-- A file could not be written. -/
structure SaveError where
  /-- The path as it was given. -/
  path : String
  /-- What went wrong. -/
  cause : FileError
  deriving DecidableEq, Repr

/-- What is said about it. -/
def SaveError.message (error : SaveError) : String :=
  s!"Could not write JSON to {error.path}: {error.cause.message}"

/-- The path that stands for the standard input. -/
def standardInput : String := "-"

/-- A text as it is read from a file. -/
def readText (bytes : List UInt8) : Except Text.Utf8.FaultAt (List Char) :=
  (Text.Utf8.decode bytes).map Text.unifyLineEnds

namespace Disk

/-- Reads a source by its path. `input` is what the standard input gives. -/
def readSource (disk : Disk) (input path : String) : Except InputError String :=
  if path = standardInput then .ok input
  else
    match disk.read? (.ofString path) with
    | none => .error (.notFound path)
    | some bytes =>
      match readText bytes with
      | .ok text => .ok (String.ofList text)
      | .error fault => .error (.notText path fault)

/-- The source that was asked for: by path, or as a text on the command line. -/
def chooseSource (disk : Disk) (input : String) : Option String → Option String →
    Except InputError String
  | some _, some _ => .error .bothGiven
  | none, some code => .ok code
  | none, none => .error .nothingGiven
  | some path, none => disk.readSource input path

/-- Saves a JSON value, with a line end after it. -/
def saveJson (disk : Disk) (path : String) (value : Json) : Except SaveError Disk :=
  let target := Path.ofString path
  let saved := do
    let disk ← disk.makeFolders target.parent
    disk.write target (Text.Utf8.encode (value.pretty ++ "\n"))
  saved.mapError (⟨path, ·⟩)

end Disk

end Files

end Costwise
