import Costwise.Json.Spelling
import Costwise.Json.Value

/-!
# Settings

What a user can set: the output format, which panels are shown, the name of
functions without one, and whether to debug. Settings are read from a JSON
object. Only keys and the format are checked; a value of any other setting is
taken as it is and has to make sense where it is used. So a setting is a JSON
value, and `display` may be something that is no set of panels at all.

The panels can be set in an object under `display` or directly at the top. A
direct setting wins, and it is moved into the object under `display`; that
object belongs to the data that was given, so the move shows there. `ofObject`
therefore gives back the data as well.

## Main definitions

* `OutputFormat`: How a report is shown.
* `Panels`: Which parts of a report are shown.
* `Settings`: Everything that can be set.
* `Settings.ofObject`: Settings from a JSON object.
* `Settings.toObject`: Settings as a JSON object.
* `Settings.Error`: Why an object is refused.
-/

namespace Costwise

/-- How a report is shown. -/
inductive OutputFormat where
  /-- As panels and tables. -/
  | table
  /-- As JSON. -/
  | json
  deriving DecidableEq, Repr, Inhabited

namespace OutputFormat

/-- The name of a format. -/
def name : OutputFormat → String
  | table => "table"
  | json => "json"

/-- All formats. -/
def all : List OutputFormat := [table, json]

/-- The format of a name. -/
def ofName? (name : String) : Option OutputFormat :=
  all.find? (·.name == name)

/-- The format that a value names. -/
def ofJson? : Json → Option OutputFormat
  | .str name => ofName? name
  | _ => none

end OutputFormat

/-- Which parts of a report are shown. -/
structure Panels where
  /-- What the class of the program means. -/
  explanation : Json := .bool true
  /-- Advice. -/
  suggestions : Json := .bool false
  /-- Costly places. -/
  bottlenecks : Json := .bool false
  /-- How often each name is called. -/
  callFrequency : Json := .bool true

namespace Panels

/-- The keys of the panels, in the order in which direct settings are moved. -/
def keys : List String :=
  ["show_explanation", "show_suggestions", "show_bottlenecks", "show_call_frequency"]

/-- The panels of an object, the usual ones where it has no key. -/
def ofObject (members : Keyed Json) : Panels where
  explanation := (Keyed.get? members "show_explanation").getD (.bool true)
  suggestions := (Keyed.get? members "show_suggestions").getD (.bool false)
  bottlenecks := (Keyed.get? members "show_bottlenecks").getD (.bool false)
  callFrequency := (Keyed.get? members "show_call_frequency").getD (.bool true)

/-- The panels as an object. -/
def toObject (panels : Panels) : Keyed Json :=
  [("show_explanation", panels.explanation),
    ("show_suggestions", panels.suggestions),
    ("show_bottlenecks", panels.bottlenecks),
    ("show_call_frequency", panels.callFrequency)]

end Panels

/-- What is set for the display. -/
inductive Display where
  /-- A choice of panels. -/
  | chosen (panels : Panels)
  /-- Something else. -/
  | unusable (value : Json)

/-- The display as a JSON value. -/
def Display.toJson : Display → Json
  | chosen panels => .obj panels.toObject
  | unusable value => value

/-- Everything that can be set. -/
structure Settings where
  /-- Whether to debug. -/
  debug : Json := .bool false
  /-- How a report is shown. -/
  format : OutputFormat := .table
  /-- The name of functions without one. -/
  anonymousName : Json := .str "anonymous"
  /-- What is shown. -/
  display : Display := .chosen {}

namespace Settings

/-- What is wrong with a key. -/
inductive KeyError where
  /-- There is no such setting. -/
  | unknown (key : String)
  /-- The key is taken by the program itself. -/
  | reserved
  deriving DecidableEq, Repr

/-- Why an object is refused. -/
inductive Error where
  /-- A key under `display` is wrong. -/
  | displayKey (error : KeyError)
  /-- A key at the top is wrong. -/
  | topKey (error : KeyError)
  /-- There is no such output format. -/
  | format (value : Json)

/-- What is said about a key. -/
def KeyError.message : KeyError → String
  | unknown key => s!"got an unexpected keyword argument '{key}'"
  | reserved => "got multiple values for argument 'self'"

/-- What is said about an output format that does not exist. -/
def unsupportedFormat (shown : String) : String :=
  let names := ", ".intercalate (OutputFormat.all.map OutputFormat.name)
  s!"Unsupported output format: '{shown}'. Supported formats: {names}"

/-- What is said about an object that is refused. -/
def Error.message : Error → String
  | displayKey error => s!"Invalid display configuration: DisplayConfig.__init__() {error.message}"
  | topKey error => s!"Invalid configuration: AnalyzerConfig.__init__() {error.message}"
  | format value => unsupportedFormat value.spelling

/-- The keys at the top once direct settings have been moved. -/
def topKeys : List String := ["debug", "output_format", "anonymous_name", "display"]

/-- What is wrong with the first key that is not among the allowed ones. -/
def keyError? (allowed : List String) (members : Keyed Json) : Option KeyError :=
  ((Keyed.keys members).find? fun key => !allowed.contains key).map fun key =>
    if key = "self" then .reserved else .unknown key

/-- The panels that are set directly at the top. -/
def directPanels (data : Keyed Json) : Keyed Json :=
  Panels.keys.filterMap fun key => (Keyed.get? data key).map fun value => (key, value)

/-- Moves settings into an object: known keys keep their places. -/
def moveInto (moved members : Keyed Json) : Keyed Json :=
  moved.foldl (fun members (key, value) => Keyed.put key value members) members

/-- The object under `display`, empty if there is none. -/
def displayObject (data : Keyed Json) : Keyed Json :=
  match Keyed.get? data "display" with
  | some (.obj members) => members
  | _ => []

/-- The data with direct settings moved to where they belong. Keys that this adds
    come last. -/
def moveDirect (data : Keyed Json) : Keyed Json :=
  let direct := directPanels data
  let rest := data.filter fun (key, _) => !("format" :: Panels.keys).contains key
  let withPanels :=
    if direct.isEmpty then rest
    else Keyed.put "display" (.obj (moveInto direct (displayObject data))) rest
  match Keyed.get? data "format" with
  | some value => Keyed.put "output_format" value withPanels
  | none => withPanels

/-- What is set for the display, once direct settings have been moved. -/
def displayOf (data : Keyed Json) : Except Error Display :=
  match Keyed.get? data "display" with
  | some (.obj members) =>
    match keyError? Panels.keys members with
    | some error => .error (.displayKey error)
    | none => .ok (.chosen (.ofObject members))
  | some value => .ok (.unusable value)
  | none => .ok (.chosen {})

/-- Settings from data in which direct settings have been moved. Keys under
    `display` are checked first, then those at the top, then the format. -/
def ofMoved (data : Keyed Json) : Except Error Settings := do
  let display ← displayOf data
  match keyError? topKeys data with
  | some error => throw (.topKey error)
  | none =>
    let chosen := (Keyed.get? data "output_format").getD (.str OutputFormat.table.name)
    match OutputFormat.ofJson? chosen with
    | none => throw (.format chosen)
    | some format =>
      return { debug := (Keyed.get? data "debug").getD (.bool false)
               format
               anonymousName := (Keyed.get? data "anonymous_name").getD (.str "anonymous")
               display }

/-- The data after it was read: direct settings have been moved into an object
    under `display` if there is one. -/
def dataAfter (data : Keyed Json) : Keyed Json :=
  match Keyed.get? data "display" with
  | some (.obj members) =>
    Keyed.put "display" (.obj (moveInto (directPanels data) members)) data
  | _ => data

/-- Settings from a JSON object, and the object afterwards. -/
def ofObject (data : Keyed Json) : Except Error Settings × Keyed Json :=
  (ofMoved (moveDirect data), dataAfter data)

/-- Settings from a JSON object. -/
def ofObject? (data : Keyed Json) : Except Error Settings :=
  (ofObject data).1

/-- Settings as a JSON object. -/
def toObject (settings : Settings) : Keyed Json :=
  [("debug", settings.debug),
    ("output_format", .str settings.format.name),
    ("anonymous_name", settings.anonymousName),
    ("display", settings.display.toJson)]

end Settings

end Costwise
