import Costwise.Files.Source
import Costwise.Json.Reader
import Costwise.Settings.Basic

/-!
# Settings Files

Where settings come from. A file that is named has to exist. If none is named,
the working folder is searched and then the home folder, and if there is none
at all the usual settings hold. Settings are loaded when they are first asked
for and kept until others are put in their place.

## Main definitions

* `Settings.LoadError`: Why a file gives no settings.
* `Disk.loadSettings`: The object in a settings file.
* `SettingsStore`: The settings in force, if they have been loaded.
* `SettingsStore.get`: The settings in force.
-/

namespace Costwise

open Files

namespace Settings

/-- Why a file gives no settings. -/
inductive LoadError where
  /-- There is no such file. -/
  | notFound (path : String)
  /-- The file is no JSON. -/
  | notJson (path : String) (error : Json.ReadError)
  /-- The file holds something else than an object. -/
  | notObject (path : String)
  /-- The file holds no text. -/
  | notText (fault : Text.Utf8.FaultAt)
  /-- The file holds an integer that is too long. -/
  | longInteger (error : Json.ReadError)
  /-- The object is refused. -/
  | refused (error : Settings.Error)

/-- What is said about it. -/
def LoadError.message : LoadError → String
  | notFound path => s!"Config file not found: {path}"
  | notJson path error => s!"Could not read config file {path}: {error.message}"
  | notObject path => s!"Config file {path} must contain a JSON object"
  | notText fault => fault.message
  | longInteger error => error.message
  | refused error => error.message

/-- The name of a settings file in the working folder. -/
def fileName : String := "complexity_cli_config.json"

/-- The places where settings are looked for. -/
def usualPlaces : List Place :=
  [⟨.working, [fileName]⟩, ⟨.home, ["." ++ fileName]⟩]

/-- The object in the bytes of a settings file. -/
def parse (path : String) (bytes : List UInt8) : Except LoadError (Keyed Json) :=
  match readText bytes with
  | .error fault => .error (.notText fault)
  | .ok text =>
    match Json.read text with
    | .ok (.obj members) => .ok members
    | .ok _ => .error (.notObject path)
    | .error error =>
      match error.complaint with
      | .longInteger _ => .error (.longInteger error)
      | _ => .error (.notJson path error)

end Settings

namespace Files.Disk

/-- The object in the settings file of a path. -/
def loadSettingsAt (disk : Disk) (path : Path) : Except Settings.LoadError (Keyed Json) :=
  match disk.read? path with
  | some bytes => Settings.parse path.text bytes
  | none => .error (.notFound path.text)

/-- The object in the first settings file of the usual places, empty if there is none. -/
def loadUsualSettings (disk : Disk) : Except Settings.LoadError (Keyed Json) :=
  let found := Settings.usualPlaces.findSome? fun place =>
    (disk.bytes? place).map fun bytes => (place, bytes)
  match found with
  | some (place, bytes) => Settings.parse (disk.placeText place) bytes
  | none => .ok []

/-- The object in a settings file: the one that is named, or the first of the usual
    places. An empty name is none. -/
def loadSettings (disk : Disk) (named : Option String) :
    Except Settings.LoadError (Keyed Json) :=
  match named.filter (· != "") with
  | some path => disk.loadSettingsAt (.ofString path)
  | none => disk.loadUsualSettings

end Files.Disk

/-- Settings from the object of a file. -/
def Settings.ofLoaded (data : Keyed Json) : Except Settings.LoadError Settings :=
  (Settings.ofObject? data).mapError .refused

/-- The settings in force, if they have been loaded. -/
abbrev SettingsStore := Option Settings

/-- The settings in force, loaded from the usual places if need be. If that fails,
    nothing is kept. -/
def SettingsStore.get (disk : Disk) (store : SettingsStore) :
    Except Settings.LoadError Settings × SettingsStore :=
  match store with
  | some settings => (.ok settings, store)
  | none =>
    match disk.loadUsualSettings.bind Settings.ofLoaded with
    | .ok settings => (.ok settings, some settings)
    | .error error => (.error error, none)

end Costwise
