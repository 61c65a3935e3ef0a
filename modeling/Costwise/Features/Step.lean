import Costwise.Features.Record
import Costwise.Number.Binary64

/-!
# Findings and What They Change

A walk meets findings one by one, and each changes what is known. What a
finding means can depend on what was found before: halving in a function that
is known to call itself is a divide step or a recursive search, halving in a
loop of any other function is a search. So the order of findings matters, but
only through self-calls and confirmed searches.

Counts never fall and flags are never taken back, with one exception: once a
recursive search is confirmed, the halving that led there was no divide step.

## Main definitions

* `Step`: A finding.
* `Progress.step`: What a finding changes.
* `Progress.run`: What a series of findings changes.
-/

namespace Costwise

/-- A finding of a walk. -/
inductive Step where
  /-- A loop, with the number of loops around its body. -/
  | loop (depth : Int)
  /-- A call, under its name. -/
  | call (name : String)
  /-- A call of the function itself. -/
  | selfCall
  /-- A call of the function itself that narrows a search range. -/
  | confirmSearch
  /-- A call of a method. -/
  | method (name : String)
  /-- A call that rounds a number. -/
  | rounding
  /-- A division by a number. -/
  | division (divisor : Binary64) (inLoop : Bool)
  /-- A comparison. -/
  | comparison (inLoop : Bool)
  /-- An access to a property, or by a computed key. -/
  | access (computed : Bool) (property : Option String)
  /-- A shift. -/
  | shift (inLoop : Bool)
  deriving DecidableEq, Repr

namespace Progress

/-- A recursive search is confirmed: its halving was no divide step. -/
def confirmSearch (progress : Progress) : Progress :=
  { progress with recursiveSearch := true, logarithmic := true, divides := false }

/-- A divide step, if the condition holds. -/
def divideIf (condition : Bool) (progress : Progress) : Progress :=
  { progress with divides := progress.divides || condition }

/-- What a division by a number changes. A recursive function that halves towards
    a bound, compares and returns is a search, and any other division in it is a
    divide step. Without recursion, halving in a loop that compares and assigns is
    a search. -/
def divide (signals : Signals) (divisor : Binary64) (inLoop : Bool) (progress : Progress) :
    Progress :=
  if progress.isRecursive then
    if divisor.equals 2 && signals.relates && signals.returns && signals.namesBounds then
      progress.confirmSearch
    else { progress with divides := true }
  else if inLoop && divisor.equals 2 && signals.assigns && signals.relates then
    { progress with binarySearch := true, logarithmic := true }
  else { progress with divides := true }

/-- What a finding changes. -/
def step (signals : Signals) (progress : Progress) : Step → Progress
  | .loop depth =>
    { progress with
      loopCount := progress.loopCount + 1
      nestingDepth := max progress.nestingDepth depth.toNat }
  | .call name => { progress with calls := Calls.add name 1 progress.calls }
  | .selfCall => { progress with selfCalls := progress.selfCalls + 1 }
  | .confirmSearch => progress.confirmSearch
  | .method name =>
    divideIf (progress.isRecursive && Signals.arrayMethods.contains name)
      { progress with linear := progress.linear || Signals.walkingMethods.contains name }
  | .rounding => { progress with logarithmic := true }
  | .division divisor inLoop => progress.divide signals divisor inLoop
  | .comparison inLoop => divideIf (inLoop && progress.isRecursive) progress
  | .access computed property =>
    divideIf (progress.isRecursive && (computed || property.any Signals.arrayMethods.contains))
      progress
  | .shift inLoop => divideIf (inLoop || progress.isRecursive) progress

/-- What a series of findings changes. -/
def run (signals : Signals) (progress : Progress) (steps : List Step) : Progress :=
  steps.foldl (step signals) progress

theorem run_cons (signals : Signals) (progress : Progress) (first : Step) (steps : List Step) :
    run signals progress (first :: steps) = run signals (step signals progress first) steps :=
  rfl

theorem run_append (signals : Signals) (progress : Progress) (a b : List Step) :
    run signals progress (a ++ b) = run signals (run signals progress a) b :=
  List.foldl_append

end Progress

end Costwise
