import Costwise.Features.Calls
import Costwise.Signals

/-!
# Feature Records

What is known of a function when it is judged: counts and flags from its syntax
tree, the signals in its text, and its calls. `Progress` is the part that a
walk through the body fills in; a `Record` is the finished whole.

A record says on its own whether the function is recursive. For a record that
a walk produced this is the same as having counted a self-call.

## Main definitions

* `Progress`: What a walk has found so far.
* `Record`: What a function is judged by.
* `Progress.seal`: The record of a finished walk.
* `Record.helperNames`: The functions called besides the function itself.
-/

namespace Costwise

/-- What a walk through a body has found so far. -/
structure Progress where
  /-- The number of loops. -/
  loopCount : Nat := 0
  /-- The most loops around one place. -/
  nestingDepth : Nat := 0
  /-- The number of calls of the function itself. -/
  selfCalls : Nat := 0
  /-- How often each name is called. -/
  calls : Calls := []
  /-- A divide step was seen. -/
  divides : Bool := false
  /-- A sign of logarithmic work was seen. -/
  logarithmic : Bool := false
  /-- A method that walks an array was called. -/
  linear : Bool := false
  /-- A loop that halves a search range was seen. -/
  binarySearch : Bool := false
  /-- A recursion that halves a search range was seen. -/
  recursiveSearch : Bool := false
  deriving DecidableEq, Repr

namespace Progress

/-- Whether the function was seen calling itself. -/
def isRecursive (progress : Progress) : Bool :=
  decide (0 < progress.selfCalls)

end Progress

/-- What a function is judged by. -/
structure Record extends Progress where
  /-- The name of the function. -/
  functionName : String
  /-- The text of its body. -/
  bodyText : String := ""
  /-- What the text shows. -/
  signals : Signals := {}
  /-- Whether the function calls itself. -/
  recursive : Bool := false
  deriving DecidableEq, Repr

/-- The record of a finished walk. -/
def Progress.seal (progress : Progress) (functionName bodyText : String) (signals : Signals) :
    Record :=
  { toProgress := progress, functionName, bodyText, signals, recursive := progress.isRecursive }

namespace Record

/-- The functions called besides the function itself, first call first. -/
def helperNames (record : Record) : List String :=
  (Keyed.keys record.calls).filter (· != record.functionName)

end Record

end Costwise
