import Costwise.Command.Environment

/-!
# Options in Force

What a command works with: the settings of the file, changed by what was typed
on the command line. Switches for panels only switch them on, except for the
explanation, which can be switched off too.

The settings come into force as soon as they are complete. What is read from
them afterwards can still fail, if the display is set to something without
panels.

## Main definitions

* `Overrides`: What was typed.
* `Options`: What a command works with.
* `Action.resolve`: From what was typed to what a command works with.
-/

namespace Costwise

namespace Command

/-- What was typed on the command line. -/
structure Overrides where
  /-- The settings file. -/
  config : Option String := none
  /-- The output format. -/
  format : Option String := none
  /-- Whether to show what the class of the program means. -/
  explain : Option Bool := none
  /-- Whether to show advice. -/
  suggest : Bool := false
  /-- Whether to show costly places. -/
  bottlenecks : Bool := false
  /-- Whether to debug. -/
  debug : Bool := false
  /-- Whether to show progress. -/
  verbose : Bool := false
  /-- The log file. -/
  logFile : Option String := none
  deriving DecidableEq, Repr

/-- What a command works with. -/
structure Options where
  /-- The settings in force. -/
  settings : Settings
  /-- The panels that they choose. -/
  panels : Panels

namespace Overrides

/-- The panels with what was typed. -/
def applyToPanels (overrides : Overrides) (panels : Panels) : Panels :=
  { panels with
    explanation := (overrides.explain.map Json.bool).getD panels.explanation
    suggestions := if overrides.suggest then .bool true else panels.suggestions
    bottlenecks := if overrides.bottlenecks then .bool true else panels.bottlenecks }

/-- The first panel that was typed. -/
def firstPanel? (overrides : Overrides) : Option String :=
  if overrides.explain.isSome then some "show_explanation"
  else if overrides.suggest then some "show_suggestions"
  else if overrides.bottlenecks then some "show_bottlenecks"
  else none

/-- The display with what was typed. Something without panels can only stay as it is. -/
def applyToDisplay (overrides : Overrides) : Display → Except Failure Display
  | .chosen panels => .ok (.chosen (overrides.applyToPanels panels))
  | .unusable value =>
    match overrides.firstPanel? with
    | some panel => .error (.display value panel)
    | none => .ok (.unusable value)

/-- The format that was typed, if one was. -/
def chosenFormat (overrides : Overrides) : Except Failure (Option OutputFormat) :=
  match overrides.format.filter (· != "") with
  | none => .ok none
  | some name =>
    match OutputFormat.ofName? name with
    | some format => .ok (some format)
    | none => .error (.format name)

end Overrides

/-- The panels that are chosen. -/
def panelsOf : Display → Except Failure Panels
  | .chosen panels => .ok panels
  | .unusable value => .error (.display value "show_explanation")

namespace Action

/-- Loads the settings of the file that was typed, or else of the usual places. -/
def loadSettings (config : Option String) : Action Settings := do
  let named := (config.filter (· != "")).getD "default locations"
  note .debug s!"Loading config file: {named}"
  let data ← ofExcept .settings ((← get).disk.loadSettings config)
  ofExcept .settings (Settings.ofLoaded data)

/-- Sets the format that was typed. -/
def overrideFormat (overrides : Overrides) (settings : Settings) : Action Settings := do
  match ← ofExcept id overrides.chosenFormat with
  | none => return settings
  | some format =>
    note .debug s!"Format override: {format.name}"
    return { settings with format }

/-- Brings settings into force. -/
def keepSettings (settings : Settings) : Action Unit :=
  modify fun env => { env with settings := some settings }

/-- From what was typed to what a command works with. -/
def resolve (overrides : Overrides) : Action Options := do
  configureLog overrides.debug overrides.verbose overrides.logFile
  let settings ← loadSettings overrides.config
  let settings := if overrides.debug then { settings with debug := .bool true } else settings
  let settings ← overrideFormat overrides settings
  let display ← ofExcept id (overrides.applyToDisplay settings.display)
  let settings := { settings with display }
  keepSettings settings
  let panels ← ofExcept id (panelsOf display)
  note .info s!"Options resolved (format={settings.format.name}, debug={settings.debug.spelling})"
  return { settings, panels }

/-- The settings in force. -/
def currentSettings : Action Settings := do
  let env ← get
  let (outcome, settings) := env.settings.get env.disk
  set { env with settings }
  ofExcept .settings outcome

end Action

end Command

end Costwise
