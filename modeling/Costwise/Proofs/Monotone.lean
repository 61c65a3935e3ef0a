import Costwise.Proofs.Consistency

/-!
# Nothing Found Is Taken Back

What a walk has found so far is added to and not taken back: counts rise, and a
flag that is up stays up. There is one exception. Halving looks like a divide
step until a self-call or a bound shows that it was a search, and then the flag
for the divide step comes down. It may even go up again, when something else in
the same function divides.

The exception is harmless because of what takes the place of the flag. A
confirmed search is never taken back, and the rule that asks for it is tried
first, so from then on the verdict is settled. `Kept` says all of this of two
points of a run. Most of it is about each part alone. The part that is not is
`divides_or`, and it is stated so that it can be passed along: a divide step is
still there, or a confirmed search is.

None of this needs a walk. It holds of every series of steps, in any order and
from any start, also of series that no program gives rise to.

## Main definitions

* `Progress.Kept`: What was found at one point is still there at another.

## Theorems

* `kept_step`: A step takes nothing back.
* `kept_run`: Neither does a series of steps.
* `rule_seal_of_recursiveSearch`: A confirmed search decides the verdict.
* `kept_between`: Any two points of a run.
-/

namespace Costwise

namespace Progress

/-- What was found at an earlier point is still there at a later one. A divide step
    may be gone, but only for a confirmed search. -/
structure Kept (earlier later : Progress) : Prop where
  loopCount_le : earlier.loopCount ≤ later.loopCount
  nestingDepth_le : earlier.nestingDepth ≤ later.nestingDepth
  selfCalls_le : earlier.selfCalls ≤ later.selfCalls
  count_le : ∀ name, Calls.count earlier.calls name ≤ Calls.count later.calls name
  linear : earlier.linear = true → later.linear = true
  logarithmic : earlier.logarithmic = true → later.logarithmic = true
  binarySearch : earlier.binarySearch = true → later.binarySearch = true
  recursiveSearch : earlier.recursiveSearch = true → later.recursiveSearch = true
  divides_or : earlier.divides = true →
    later.divides = true ∨ (later.recursiveSearch = true ∧ later.logarithmic = true)

namespace Kept

variable {first second third : Progress}

theorem refl (progress : Progress) : progress.Kept progress where
  loopCount_le := Nat.le_refl _
  nestingDepth_le := Nat.le_refl _
  selfCalls_le := Nat.le_refl _
  count_le _ := Nat.le_refl _
  linear h := h
  logarithmic h := h
  binarySearch h := h
  recursiveSearch h := h
  divides_or h := .inl h

theorem trans (h : first.Kept second) (h' : second.Kept third) : first.Kept third where
  loopCount_le := Nat.le_trans h.loopCount_le h'.loopCount_le
  nestingDepth_le := Nat.le_trans h.nestingDepth_le h'.nestingDepth_le
  selfCalls_le := Nat.le_trans h.selfCalls_le h'.selfCalls_le
  count_le name := Nat.le_trans (h.count_le name) (h'.count_le name)
  linear hflag := h'.linear (h.linear hflag)
  logarithmic hflag := h'.logarithmic (h.logarithmic hflag)
  binarySearch hflag := h'.binarySearch (h.binarySearch hflag)
  recursiveSearch hflag := h'.recursiveSearch (h.recursiveSearch hflag)
  divides_or hflag := by
    rcases h.divides_or hflag with hdivides | ⟨hsearch, hlogarithmic⟩
    · exact h'.divides_or hdivides
    -- The search that took the place of the divide step is itself kept.
    · exact .inr ⟨h'.recursiveSearch hsearch, h'.logarithmic hlogarithmic⟩

end Kept

variable (signals : Signals) (progress : Progress)

theorem kept_confirmSearch : progress.Kept progress.confirmSearch :=
  { Kept.refl progress with
    logarithmic := fun _ => rfl
    recursiveSearch := fun _ => rfl
    divides_or := fun _ => .inr ⟨rfl, rfl⟩ }

theorem kept_divideIf (condition : Bool) : progress.Kept (progress.divideIf condition) :=
  { Kept.refl progress with
    divides_or := fun h => .inl (by rw [divideIf, h, Bool.true_or]) }

theorem kept_divide (divisor : Binary64) (inLoop : Bool) :
    progress.Kept (progress.divide signals divisor inLoop) := by
  rw [divide]
  split
  · split
    · exact progress.kept_confirmSearch
    · exact { Kept.refl progress with divides_or := fun _ => .inl rfl }
  · split
    · exact { Kept.refl progress with
        logarithmic := fun _ => rfl
        binarySearch := fun _ => rfl
        divides_or := .inl }
    · exact { Kept.refl progress with divides_or := fun _ => .inl rfl }

theorem kept_step (step : Step) : progress.Kept (progress.step signals step) := by
  cases step with
  | loop depth =>
      exact { Kept.refl progress with
        loopCount_le := Nat.le_succ _
        nestingDepth_le := Nat.le_max_left _ _ }
  | call name =>
      exact { Kept.refl progress with
        count_le := fun other => Calls.count_le_count_add progress.calls name other 1 }
  | selfCall => exact { Kept.refl progress with selfCalls_le := Nat.le_succ _ }
  | confirmSearch => exact progress.kept_confirmSearch
  | method name =>
      -- The flag for a walking method goes up first, the one for a divide step after it.
      have hlinear : progress.Kept
          { progress with linear := progress.linear || Signals.walkingMethods.contains name } :=
        { Kept.refl progress with linear := fun h => by rw [h, Bool.true_or] }
      exact hlinear.trans (kept_divideIf _ _)
  | rounding =>
      exact { Kept.refl progress with logarithmic := fun _ => rfl, divides_or := .inl }
  | division divisor inLoop => exact progress.kept_divide signals divisor inLoop
  | comparison inLoop => exact progress.kept_divideIf _
  | access computed property => exact progress.kept_divideIf _
  | shift inLoop => exact progress.kept_divideIf _

theorem kept_run (steps : List Step) : progress.Kept (progress.run signals steps) := by
  induction steps generalizing progress with
  | nil => exact Kept.refl progress
  | cons step rest ih =>
      rw [run_cons]
      exact (progress.kept_step signals step).trans (ih _)

/-- A confirmed search decides the verdict, whatever else was found: its rule is the
    first. -/
theorem rule_seal_of_recursiveSearch {progress : Progress} (h : progress.recursiveSearch = true)
    (name text : String) :
    (progress.seal name text signals).rule = .recursiveBinarySearch := by
  have happlies : Rule.recursiveBinarySearch.applies (progress.seal name text signals) = true := h
  rw [Record.rule, Rule.all, List.find?_cons_of_pos happlies, Option.getD_some]

/-- At any two points of a run, what was found at the earlier one is still there at the
    later one. A divide step is gone only where a search is confirmed, which for two
    points next to each other says what the step between them leaves. And from a
    confirmed search on, the verdict is logarithmic, by the rule for it. -/
theorem kept_between (steps : List Step) {i j : Nat} (hij : i ≤ j) :
    (progress.run signals (steps.take i)).Kept (progress.run signals (steps.take j)) ∧
    ((progress.run signals (steps.take i)).divides = true →
      (progress.run signals (steps.take j)).divides = false →
      (progress.run signals (steps.take j)).recursiveSearch = true ∧
        (progress.run signals (steps.take j)).logarithmic = true) ∧
    ((progress.run signals (steps.take i)).recursiveSearch = true → ∀ name text : String,
      ((progress.run signals (steps.take j)).seal name text signals).rule
          = .recursiveBinarySearch ∧
        ((progress.run signals (steps.take j)).seal name text signals).growth
          = .logarithmic) := by
  -- The steps up to the later point are those up to the earlier one, and some more.
  have hsplit : steps.take j = steps.take i ++ (steps.take j).drop i := by
    have htake := List.take_append_drop i (steps.take j)
    rw [List.take_take, Nat.min_eq_left hij] at htake
    exact htake.symm
  have hkept : (progress.run signals (steps.take i)).Kept
      (progress.run signals (steps.take j)) := by
    rw [hsplit, run_append]
    exact kept_run signals _ _
  refine ⟨hkept, fun hdivides hnot => ?_, fun hsearch name text => ?_⟩
  · rcases hkept.divides_or hdivides with hstill | hinstead
    · exact absurd (hnot.symm.trans hstill) Bool.false_ne_true
    · exact hinstead
  · have hrule := rule_seal_of_recursiveSearch signals (hkept.recursiveSearch hsearch) name text
    exact ⟨hrule, by rw [Record.growth, hrule, Rule.growth]⟩

end Progress

/-! A function that calls itself and shifts, narrows a search range, and shifts again in a
    loop. -/

namespace LateSearch

def steps : List Step :=
  [.call "f", .selfCall, .shift false, .confirmSearch, .loop 1, .shift true]

/-- The divide step is there after three steps, gone after four and there again after
    six. The verdict is settled from the fourth step on. -/
theorem search_settles_verdict :
    (Progress.run {} {} (steps.take 3)).divides = true ∧
    (Progress.run {} {} (steps.take 4)).divides = false ∧
    (Progress.run {} {} (steps.take 4)).logarithmic = true ∧
    (Progress.run {} {} (steps.take 6)).divides = true ∧
    (Progress.run {} {} (steps.take 4)).Kept (Progress.run {} {} (steps.take 6)) ∧
    ((Progress.run {} {} (steps.take 6)).seal "f" "" {}).growth = .logarithmic := by
  rcases Progress.kept_between {} {} steps (show 3 ≤ 4 by decide) with ⟨_, hgone, _⟩
  rcases Progress.kept_between {} {} steps (show 4 ≤ 6 by decide) with ⟨hkept, _, hsettled⟩
  have hbefore : (Progress.run {} {} (steps.take 3)).divides = true := by decide
  have hafter : (Progress.run {} {} (steps.take 4)).divides = false := by decide
  rcases hgone hbefore hafter with ⟨hsearch, hlogarithmic⟩
  exact ⟨hbefore, hafter, hlogarithmic, by decide, hkept, (hsettled hsearch "f" "").2⟩

end LateSearch

end Costwise
