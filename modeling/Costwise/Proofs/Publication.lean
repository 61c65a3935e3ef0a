import Costwise.Command.Options

/-!
# Which Failures Change the Settings in Force

A command that fails should leave the settings in force as it found them. Much
can fail on the way to new settings: the log file cannot be opened, the settings
file is missing or malformed or has a key too many, a format is unknown, a panel
is switched on in a display that has none. All of that comes before the moment
at which the new settings come into force, so it does no harm.

One thing comes after that moment. The panels are read from the settings once
they are in force, and a display without panels fails there. If a panel was typed,
the same display has failed before, when the panel was switched on; if none was,
the settings that cannot be used have already replaced the others.

So resolving is cut in two. `prepare` is what happens before the settings come
into force, and it is `Harmless`: whatever becomes of it, it leaves them alone.
`publish` is the rest, and it fails for one reason only.

## Main definitions

* `Action.Harmless`: An action leaves the settings alone, and fails for certain
  reasons only.
* `Action.prepare`: The settings that are about to come into force.
* `Action.publish`: Brings them into force and reads the panels.

## Theorems

* `perform_bind_of_ok`, `perform_bind_of_error`: What becomes of two actions in a row.
* `Harmless.bind`: Harmless actions in a row are harmless.
* `resolve_eq_bind`: Resolving is preparing and publishing.
* `harmless_prepare`: Preparing is harmless, and fails over a display only if a panel
  was typed.
* `perform_publish_of_unusable`: Publishing a display without panels fails too late.
* `settings_after_failure`: Which failures leave the settings in force alone.
-/

namespace Costwise

namespace Command

namespace Action

variable {α β : Type}

/-- An action leaves the settings in force alone, however it ends, and the reasons for
    which it fails are among the given ones. -/
def Harmless (reasons : Failure → Prop) (action : Action α) : Prop :=
  ∀ env, (action.perform env).2.settings = env.settings ∧
    ∀ failure, (action.perform env).1 = .error failure → reasons failure

section InARow

variable {first : Action α} {rest : α → Action β} {env between : Environment}

/-- The second of two actions is performed if the first succeeds, in the environment
    that the first leaves behind. -/
theorem perform_bind_of_ok {value : α} (h : first.perform env = (.ok value, between)) :
    (first >>= rest).perform env = (rest value).perform between := by
  have hbind : (first >>= rest).perform env
      = (ExceptT.bindCont rest (first.perform env).1).run (first.perform env).2 := rfl
  rw [hbind, h]
  rfl

theorem perform_bind_of_error {failure : Failure}
    (h : first.perform env = (.error failure, between)) :
    (first >>= rest).perform env = (.error failure, between) := by
  have hbind : (first >>= rest).perform env
      = (ExceptT.bindCont rest (first.perform env).1).run (first.perform env).2 := rfl
  rw [hbind, h]
  rfl

theorem exists_of_perform_bind {value : β} {after : Environment}
    (h : (first >>= rest).perform env = (.ok value, after)) :
    ∃ found between, first.perform env = (.ok found, between) ∧
      (rest found).perform between = (.ok value, after) := by
  rcases hfirst : first.perform env with ⟨outcome, between⟩
  cases outcome with
  | error failure =>
      rw [perform_bind_of_error hfirst] at h
      exact nomatch h
  | ok found =>
      rw [perform_bind_of_ok hfirst] at h
      exact ⟨found, between, rfl, h⟩

theorem eq_ok_of_perform_ofExcept {ε : Type} {cause : ε → Failure} {result : Except ε α} {value : α}
    (h : (ofExcept cause result).perform env = (.ok value, between)) : result = .ok value := by
  cases result with
  | error error => exact nomatch h
  | ok found => rw [Except.ok.inj (congrArg Prod.fst h)]

end InARow

namespace Harmless

variable {reasons : Failure → Prop}

theorem pure (value : α) : Harmless reasons (Pure.pure value : Action α) :=
  fun _ => ⟨rfl, fun _ h => nomatch h⟩

theorem bind {first : Action α} {rest : α → Action β} (hfirst : Harmless reasons first)
    (hrest : ∀ value, Harmless reasons (rest value)) : Harmless reasons (first >>= rest) := by
  intro env
  rcases hperform : first.perform env with ⟨outcome, between⟩
  rcases hfirst env with ⟨hkept, hreasons⟩
  rw [hperform] at hkept hreasons
  cases outcome with
  | error failure =>
      rw [perform_bind_of_error hperform]
      refine ⟨hkept, fun reason hreason => hreasons reason ?_⟩
      rw [Except.error.inj hreason]
  | ok value =>
      -- The second action starts from settings that the first has left alone.
      rw [perform_bind_of_ok hperform]
      rcases hrest value between with ⟨hkeptAfter, hreasonsAfter⟩
      exact ⟨hkeptAfter.trans hkept, hreasonsAfter⟩

theorem ofExcept {ε : Type} {cause : ε → Failure} {result : Except ε α}
    (h : ∀ error, result = .error error → reasons (cause error)) :
    Harmless reasons (Action.ofExcept cause result) := by
  intro env
  cases result with
  | ok value => exact ⟨rfl, fun _ h => nomatch h⟩
  | error error =>
      refine ⟨rfl, fun failure hfailure => ?_⟩
      rw [← Except.error.inj hfailure]
      exact h error rfl

theorem get : Harmless reasons (MonadState.get : Action Environment) :=
  fun _ => ⟨rfl, fun _ h => nomatch h⟩

theorem ofModify {update : Environment → Environment}
    (h : ∀ env, (update env).settings = env.settings) :
    Harmless reasons (modify update : Action Unit) :=
  fun env => ⟨h env, fun _ h => nomatch h⟩

theorem note (level : Log.Level) (message : String) :
    Harmless reasons (Action.note level message) := by
  refine ofModify fun env => ?_
  -- The log is got ready, and a record is written if the level asks for one.
  dsimp only
  split
  · rfl
  · rfl

theorem configureLog (hlog : ∀ error, reasons (.logFile error)) (debug verbose : Bool)
    (file : Option String) : Harmless reasons (Action.configureLog debug verbose file) := by
  intro env
  -- The log is set up in the environment first, and only then the outcome is looked at.
  have hsetup : ∀ setup, (env.configureLog setup).2.settings = env.settings := by
    intro setup
    rw [Environment.configureLog]
    split <;> rfl
  have hopened (outcome : Except Files.FileError Unit) :
      Harmless reasons (Action.ofExcept .logFile outcome) :=
    ofExcept fun error _ => hlog error
  have hperform : ∃ setup, (Action.configureLog debug verbose file).perform env
      = (Action.ofExcept .logFile (env.configureLog setup).1).perform
          (env.configureLog setup).2 := ⟨_, rfl⟩
  rcases hperform with ⟨setup, hperform⟩
  rw [hperform]
  rcases hopened (env.configureLog setup).1 (env.configureLog setup).2 with ⟨hkept, hreasons⟩
  exact ⟨hkept.trans (hsetup setup), hreasons⟩

theorem loadSettings (hsettings : ∀ error, reasons (.settings error)) (config : Option String) :
    Harmless reasons (Action.loadSettings config) := by
  refine (note _ _).bind fun _ => get.bind fun env => ?_
  refine (ofExcept fun error _ => hsettings error).bind fun data => ?_
  exact ofExcept fun error _ => hsettings error

theorem overrideFormat (hformat : ∀ name, reasons (.format name)) (overrides : Overrides)
    (settings : Settings) : Harmless reasons (Action.overrideFormat overrides settings) := by
  refine (ofExcept fun failure hfailure => ?_).bind fun chosen => ?_
  · -- A format that was typed fails for one reason, and only if it does not exist.
    unfold Overrides.chosenFormat at hfailure
    split at hfailure
    · exact nomatch hfailure
    · split at hfailure
      · exact nomatch hfailure
      · rw [← Except.error.inj hfailure]
        exact hformat _
  · cases chosen with
    | none => exact pure settings
    | some format => exact (note _ _).bind fun _ => pure _

end Harmless

/-- The settings that are about to come into force: those of the file, with what was
    typed. -/
def prepare (overrides : Overrides) : Action Settings := do
  configureLog overrides.debug overrides.verbose overrides.logFile
  let settings ← loadSettings overrides.config
  let settings := if overrides.debug then { settings with debug := .bool true } else settings
  let settings ← overrideFormat overrides settings
  let display ← ofExcept id (overrides.applyToDisplay settings.display)
  return { settings with display }

/-- Brings settings into force, and reads the panels from them. -/
def publish (settings : Settings) : Action Options := do
  keepSettings settings
  let panels ← ofExcept id (panelsOf settings.display)
  note .info s!"Options resolved (format={settings.format.name}, debug={settings.debug.spelling})"
  return { settings, panels }

theorem resolve_eq_bind (overrides : Overrides) :
    resolve overrides = prepare overrides >>= publish := by
  simp only [resolve, prepare, publish, bind_assoc, pure_bind]

/-- A display fails to take what was typed over the first panel that was typed. -/
theorem firstPanel?_of_applyToDisplay {overrides : Overrides} {display : Display}
    {failure : Failure} (h : overrides.applyToDisplay display = .error failure) :
    ∃ value panel, failure = .display value panel ∧ overrides.firstPanel? = some panel := by
  cases display with
  | chosen panels => exact nomatch h
  | unusable value =>
      rw [Overrides.applyToDisplay] at h
      cases hpanel : overrides.firstPanel? with
      | none =>
          rw [hpanel] at h
          exact nomatch h
      | some panel =>
          rw [hpanel] at h
          exact ⟨value, panel, (Except.error.inj h).symm, rfl⟩

/-- A display without panels only takes what was typed if no panel was. -/
theorem firstPanel?_eq_none_of_applyToDisplay {overrides : Overrides} {display : Display}
    {value : Json} (h : overrides.applyToDisplay display = .ok (.unusable value)) :
    overrides.firstPanel? = none := by
  cases display with
  | chosen panels => exact nomatch h
  | unusable other =>
      rw [Overrides.applyToDisplay] at h
      cases hpanel : overrides.firstPanel? with
      | none => rfl
      | some panel =>
          rw [hpanel] at h
          exact nomatch h

/-- Preparing leaves the settings in force alone, and fails over a display only at a
    panel that was typed. -/
theorem harmless_prepare (overrides : Overrides) :
    Harmless (fun failure => ∀ value panel, failure = .display value panel →
      overrides.firstPanel? = some panel) (prepare overrides) := by
  refine (Harmless.configureLog (fun _ _ _ h => nomatch h) _ _ _).bind fun _ => ?_
  refine (Harmless.loadSettings (fun _ _ _ h => nomatch h) _).bind fun settings => ?_
  refine (Harmless.overrideFormat (fun _ _ _ h => nomatch h) _ _).bind fun settings => ?_
  refine (Harmless.ofExcept fun failure hfailure => ?_).bind fun display => Harmless.pure _
  intro value panel hdisplay
  rcases firstPanel?_of_applyToDisplay hfailure with ⟨_, typed, rfl, htyped⟩
  rw [htyped, (Failure.display.inj hdisplay).2]

/-- Where a panel was typed, settings without panels do not get as far as coming into
    force. -/
theorem firstPanel?_of_prepare {overrides : Overrides} {env before : Environment}
    {settings : Settings} {value : Json}
    (h : (prepare overrides).perform env = (.ok settings, before))
    (hdisplay : settings.display = .unusable value) : overrides.firstPanel? = none := by
  rcases exists_of_perform_bind h with ⟨_, _, _, h⟩
  rcases exists_of_perform_bind h with ⟨_, _, _, h⟩
  rcases exists_of_perform_bind h with ⟨formatted, _, _, h⟩
  rcases exists_of_perform_bind h with ⟨display, _, happly, h⟩
  -- What is left is that the display took what was typed, and became what it is.
  have hsettings : { formatted with display } = settings :=
    Except.ok.inj (congrArg Prod.fst h)
  rw [← hsettings] at hdisplay
  have happlied := eq_ok_of_perform_ofExcept happly
  exact firstPanel?_eq_none_of_applyToDisplay (happlied.trans (congrArg Except.ok hdisplay))

/-- A display without panels fails when the settings are already in force. -/
theorem perform_publish_of_unusable {settings : Settings} {value : Json}
    (h : settings.display = .unusable value) (env : Environment) :
    (publish settings).perform env
      = (.error (.display value "show_explanation"), { env with settings := some settings }) := by
  have hkeep : (keepSettings settings).perform env
      = (.ok (), { env with settings := some settings }) := rfl
  rw [publish, perform_bind_of_ok hkeep, h]
  rfl

theorem perform_publish_of_chosen {settings : Settings} {panels : Panels}
    (h : settings.display = .chosen panels) (env : Environment) :
    ((publish settings).perform env).1 = .ok { settings, panels } := by
  have hkeep : (keepSettings settings).perform env
      = (.ok (), { env with settings := some settings }) := rfl
  rw [publish, perform_bind_of_ok hkeep, h]
  rfl

/-- Asking for the settings keeps nothing if they cannot be loaded. -/
theorem settings_of_currentSettings_error {env after : Environment} {failure : Failure}
    (h : currentSettings.perform env = (.error failure, after)) :
    after.settings = env.settings := by
  have hperform : currentSettings.perform env
      = (ofExcept .settings (env.settings.get env.disk).1).perform
        { env with settings := (env.settings.get env.disk).2 } := rfl
  rw [hperform] at h
  cases hstore : env.settings with
  | some settings =>
      -- Settings that are in force are at hand, so nothing fails.
      rw [hstore] at h
      exact nomatch h
  | none =>
      rw [hstore, SettingsStore.get] at h
      cases hloaded : env.disk.loadUsualSettings.bind Settings.ofLoaded with
      | ok settings =>
          rw [hloaded] at h
          exact nomatch h
      | error error =>
          rw [hloaded] at h
          exact (congrArg (·.2.settings) h).symm

/-- Which failures leave the settings in force alone.

    Asking for the settings does, whenever it fails. Resolving does as well, unless it
    fails over the display although no panel was typed: then the settings that cannot
    be used are in force, and they are what was prepared. The last part says that this
    case does arise, whatever was in force before. -/
theorem settings_after_failure (overrides : Overrides) (env : Environment) :
    (∀ failure after, currentSettings.perform env = (.error failure, after) →
      after.settings = env.settings) ∧
    (∀ failure after, (resolve overrides).perform env = (.error failure, after) →
      ((overrides.firstPanel? = none ∧ ∃ settings before value,
          (prepare overrides).perform env = (.ok settings, before) ∧
          settings.display = .unusable value ∧
          failure = .display value "show_explanation" ∧
          after = { before with settings := some settings }) ∨
        ((overrides.firstPanel? = none → ∀ value panel, failure ≠ .display value panel) ∧
          after.settings = env.settings))) ∧
    (∀ settings before value, (prepare overrides).perform env = (.ok settings, before) →
      settings.display = .unusable value →
      (resolve overrides).perform env
        = (.error (.display value "show_explanation"),
            { before with settings := some settings })) := by
  refine ⟨fun _ _ => settings_of_currentSettings_error, fun failure after h => ?_,
    fun settings before value hprepare hdisplay => ?_⟩
  · rw [resolve_eq_bind] at h
    rcases hprepare : (prepare overrides).perform env with ⟨outcome, before⟩
    cases outcome with
    | error reason =>
        -- It failed before the settings came into force.
        rw [perform_bind_of_error hprepare] at h
        rcases Prod.mk.inj h with ⟨hfailure, rfl⟩
        rcases harmless_prepare overrides env with ⟨hkept, hreasons⟩
        rw [hprepare] at hkept hreasons
        refine .inr ⟨fun hnone value panel hdisplay => ?_, hkept⟩
        have htyped := hreasons reason rfl value panel ((Except.error.inj hfailure).trans hdisplay)
        rw [hnone] at htyped
        exact nomatch htyped
    | ok settings =>
        rw [perform_bind_of_ok hprepare] at h
        cases hdisplay : settings.display with
        | chosen panels =>
            have hpublish := perform_publish_of_chosen hdisplay before
            rw [h] at hpublish
            exact nomatch hpublish
        | unusable value =>
            rw [perform_publish_of_unusable hdisplay] at h
            rcases Prod.mk.inj h with ⟨hfailure, rfl⟩
            exact .inl ⟨firstPanel?_of_prepare hprepare hdisplay, settings, before, value, rfl,
              hdisplay, (Except.error.inj hfailure).symm, rfl⟩
  · rw [resolve_eq_bind, perform_bind_of_ok hprepare, perform_publish_of_unusable hdisplay]

end Action

/-! Settings files of the content `{"display":null}` and `[]`, with and without settings
    in force. -/

namespace BareDisplay

def inForce : Settings := { anonymousName := .str "fn" }

def bare : Settings := { display := .unusable .null }

/-- What a command finds: a settings file in the working folder, and what is in force. -/
def environment (content : String) (settings : SettingsStore) : Environment where
  disk :=
    { here := "/work"
      home := "/home"
      items := [(⟨.working, [Settings.fileName]⟩, .file (Text.Utf8.encode content))] }
  settings
  clock := ⟨"", ""⟩
  parse := fun _ => default

def env : Environment := environment "\x7b\"display\":null\x7d" (some inForce)

def unreadable : Environment := environment "[]" none

theorem exists_failure {α : Type} {action : Action α} {env : Environment}
    (h : (action.perform env).1.isOk = false) :
    ∃ failure, action.perform env = (.error failure, (action.perform env).2) := by
  rcases hperform : action.perform env with ⟨outcome, after⟩
  rw [hperform] at h
  cases outcome with
  | error failure => exact ⟨failure, rfl⟩
  | ok value => exact nomatch h

/-- The display without panels fails to resolve and is in force all the same. With a
    panel typed the same file fails in time, and a list in its place fails before
    anything is kept. -/
theorem settings_after_three_failures :
    (∃ failure after, (Action.resolve {}).perform env = (.error failure, after) ∧
      env.settings = some inForce ∧ after.settings = some bare) ∧
    (∃ failure after,
      (Action.resolve { explain := some true }).perform env = (.error failure, after) ∧
      after.settings = some inForce) ∧
    (∃ failure after, Action.currentSettings.perform unreadable = (.error failure, after) ∧
      after.settings = none) := by
  have hprepare : ((Action.prepare {}).perform env).1 = .ok bare := by with_unfolding_all rfl
  have hfailed := (Action.settings_after_failure {} env).2.2 bare _ _ (Prod.ext hprepare rfl) rfl
  have htyped : ((Action.resolve { explain := some true }).perform env).1.isOk = false := by
    decide +kernel
  have hlist : (Action.currentSettings.perform unreadable).1.isOk = false := by decide +kernel
  rcases exists_failure htyped with ⟨early, hearly⟩
  rcases exists_failure hlist with ⟨unread, hunread⟩
  refine ⟨⟨_, _, hfailed, rfl, rfl⟩, ⟨early, _, hearly, ?_⟩, ⟨unread, _, hunread, ?_⟩⟩
  · rcases (Action.settings_after_failure { explain := some true } env).2.1 _ _ hearly with
      ⟨hnone, _⟩ | ⟨_, hkept⟩
    · exact nomatch hnone
    · exact hkept
  · exact (Action.settings_after_failure {} unreadable).1 _ _ hunread

end BareDisplay

end Command

end Costwise
