/-!
# Log Levels

How important a message is. Levels are numbers, and five of them have names.

## Main definitions

* `Level`: A level.
* `Level.name`: How a level is shown.
-/

namespace Costwise

namespace Log

/-- How important a message is, the more the greater. -/
structure Level where
  /-- The number of the level. -/
  value : Int
  deriving DecidableEq, Repr

namespace Level

/-- Details for finding a fault. -/
def debug : Level := ⟨10⟩

/-- What is being done. -/
def info : Level := ⟨20⟩

/-- Something that the user may have to look at. -/
def warning : Level := ⟨30⟩

/-- A failure. -/
def error : Level := ⟨40⟩

instance : LE Level where
  le a b := a.value ≤ b.value

instance (a b : Level) : Decidable (a ≤ b) :=
  inferInstanceAs (Decidable (a.value ≤ b.value))

/-- How a level is shown. -/
def name (level : Level) : String :=
  match level.value with
  | 0 => "NOTSET"
  | 10 => "DEBUG"
  | 20 => "INFO"
  | 30 => "WARNING"
  | 40 => "ERROR"
  | 50 => "CRITICAL"
  | n => s!"Level {n}"

end Level

end Log

end Costwise
