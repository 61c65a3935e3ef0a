import Costwise.Proofs.Overflow
import Costwise.Proofs.Tally

/-!
# Findings in Any Order

A finding is read in the light of what was found before it, so the order of findings
matters. It matters through self-calls and confirmed searches, and this file says that
it matters through nothing else. A block of findings without either can be rearranged
at will, from any start.

The argument does not compare findings two by two. What a finding does depends on the
start only through whether the function is known to call itself, and no finding of
such a block changes that. With this fixed, each finding adds something to each part
of what is known, and adds the same wherever it stands: one to a count, a depth to a
maximum, a condition to a flag (`gain`, `step_eq_gain`). Sums, maxima and disjunctions
do not mind the order.

The calls are the one part that does. Names stand in the order of their first call, so
two arrangements have the same counts and may list them differently (`Calls.Same`).
The rules ask how many names there are and whether one of them is a helper, and both
have the same answer for any list of the same names.

For a function that does not call itself the block is the whole walk. Its nodes may be
taken up in any order, and whether one of them holds a number that is too large does
not depend on the order either.

## Main definitions

* `Calls.Same`: The same counts, in whatever order the names stand.
* `Step.isFree`: A finding that is no self-call and confirms no search.
* `Progress.gain`: What a finding adds.
* `Progress.Same`: The same in everything but the order of names.
* `Definition.recordBy`: The record of a function with its nodes taken up in some order.

## Theorems

* `step_eq_gain`: A free finding only adds.
* `same_gain_swap`: Two findings may change places.
* `same_run_of_perm`: So may the findings of a block.
* `rule_eq_of_same`: The order of names decides nothing.
* `free_steps_rearranged`: A block of findings, and a function without self-calls.
-/

namespace Costwise

open Syntax

namespace Calls

/-- The same counts under the same names, in whatever order the names stand. -/
structure Same (calls others : Calls) : Prop where
  get?_eq : ∀ name, Keyed.get? calls name = Keyed.get? others name
  keys_perm : (Keyed.keys calls).Perm (Keyed.keys others)

theorem get?_add (calls : Calls) (name other : String) (more : Nat) :
    Keyed.get? (add name more calls) other
      = if other = name then some (count calls name + more) else Keyed.get? calls other := by
  by_cases h : other = name
  · rw [if_pos h, h, add, Keyed.get?_put_self]
  · rw [if_neg h, add, Keyed.get?_put_of_ne _ _ h]

namespace Same

variable {calls others third : Calls}

theorem refl (calls : Calls) : Same calls calls :=
  ⟨fun _ => rfl, List.Perm.refl _⟩

theorem trans (h : Same calls others) (h' : Same others third) : Same calls third :=
  ⟨fun name => (h.get?_eq name).trans (h'.get?_eq name), h.keys_perm.trans h'.keys_perm⟩

theorem add (h : Same calls others) (name : String) (more : Nat) :
    Same (Calls.add name more calls) (Calls.add name more others) where
  get?_eq other := by
    simp only [get?_add, count, h.get?_eq]
  keys_perm := by
    simp only [keys_add, h.keys_perm.mem_iff]
    split
    · exact h.keys_perm
    · exact h.keys_perm.append_right [name]

end Same

/-- Two names may be counted in either order. -/
theorem same_add_swap (calls : Calls) (first second : String) (m n : Nat) :
    Same (add second n (add first m calls)) (add first m (add second n calls)) := by
  by_cases hnames : first = second
  · -- The same name twice gains the sum, and stands where it stood.
    subst hnames
    constructor
    · intro other
      simp only [get?_add, count_add_self, Nat.add_right_comm]
      split <;> rfl
    · simp only [keys_add]
      exact List.Perm.of_eq rfl
  · constructor
    · intro other
      simp only [get?_add, count_add_of_ne _ _ hnames, count_add_of_ne _ _ (Ne.symm hnames)]
      by_cases hother : other = second
      · have hne : other ≠ first := fun hfirst => hnames (hfirst.symm.trans hother)
        rw [if_pos hother, if_neg hne, if_pos hother]
      · rw [if_neg hother, if_neg hother]
    · simp only [keys_add]
      by_cases hfirst : first ∈ Keyed.keys calls <;> by_cases hsecond : second ∈ Keyed.keys calls
      · simp [hfirst, hsecond]
      · simp [hfirst, hsecond]
      · simp [hfirst, hsecond]
      · -- Both are new, and come last in the order in which they are counted.
        have hlast : [first, second].Perm [second, first] := List.Perm.swap _ _ _
        simpa [hfirst, hsecond, hnames, Ne.symm hnames] using hlast.append_left (Keyed.keys calls)

end Calls

namespace Step

/-- Whether a finding is no self-call and confirms no search, in a function that is known
    to call itself or not. -/
def isFree (signals : Signals) (recursive : Bool) : Step → Bool
  | selfCall | confirmSearch => false
  | division divisor _ =>
    !(recursive && divisor.equals 2 && signals.relates && signals.returns && signals.namesBounds)
  | _ => true

/-- What a finding makes of the calls counted before. -/
def tally (calls : Calls) : Step → Calls
  | call name => Calls.add name 1 calls
  | _ => calls

theorem same_tally (step : Step) {calls others : Calls} (h : Calls.Same calls others) :
    Calls.Same (step.tally calls) (step.tally others) := by
  cases step with
  | call name => exact h.add name 1
  | _ => exact h

theorem same_tally_swap (calls : Calls) (first second : Step) :
    Calls.Same (second.tally (first.tally calls)) (first.tally (second.tally calls)) := by
  cases first with
  | call name =>
      cases second with
      | call other => exact Calls.same_add_swap calls name other 1 1
      | _ => exact Calls.Same.refl _
  | _ => exact Calls.Same.refl _

/-- Whether a finding is a halving search in a loop. -/
def addsSearch (signals : Signals) (recursive : Bool) : Step → Bool
  | division divisor inLoop =>
    !recursive && (inLoop && divisor.equals 2 && signals.assigns && signals.relates)
  | _ => false

/-- Whether a finding is a sign of logarithmic work. -/
def addsLogarithm (signals : Signals) (recursive : Bool) : Step → Bool
  | rounding => true
  | step => step.addsSearch signals recursive

/-- Whether a finding is a walk through an array. -/
def addsWalk : Step → Bool
  | method name => Signals.walkingMethods.contains name
  | _ => false

/-- Whether a finding is a divide step. -/
def addsDivide (signals : Signals) (recursive : Bool) : Step → Bool
  | method name => recursive && Signals.arrayMethods.contains name
  | division divisor inLoop => !(division divisor inLoop).addsSearch signals recursive
  | comparison inLoop => inLoop && recursive
  | access computed property =>
    recursive && (computed || property.any Signals.arrayMethods.contains)
  | shift inLoop => inLoop || recursive
  | _ => false

end Step

namespace Progress

/-- What a finding adds to each part of what is known. -/
def gain (signals : Signals) (recursive : Bool) (progress : Progress) (step : Step) : Progress where
  loopCount := progress.loopCount + step.loopDepth?.toList.length
  nestingDepth := max progress.nestingDepth (step.loopDepth?.getD 0)
  selfCalls := progress.selfCalls
  calls := step.tally progress.calls
  divides := progress.divides || step.addsDivide signals recursive
  logarithmic := progress.logarithmic || step.addsLogarithm signals recursive
  linear := progress.linear || step.addsWalk
  binarySearch := progress.binarySearch || step.addsSearch signals recursive
  recursiveSearch := progress.recursiveSearch

/-- The same in everything but the order in which names were first called. -/
structure Same (progress other : Progress) : Prop where
  loopCount_eq : progress.loopCount = other.loopCount
  nestingDepth_eq : progress.nestingDepth = other.nestingDepth
  selfCalls_eq : progress.selfCalls = other.selfCalls
  calls : Calls.Same progress.calls other.calls
  divides_eq : progress.divides = other.divides
  logarithmic_eq : progress.logarithmic = other.logarithmic
  linear_eq : progress.linear = other.linear
  binarySearch_eq : progress.binarySearch = other.binarySearch
  recursiveSearch_eq : progress.recursiveSearch = other.recursiveSearch

section Gain

variable {signals : Signals} {recursive : Bool} {progress other third : Progress}

/-- A free finding does nothing but add. -/
theorem step_eq_gain {step : Step} (h : step.isFree signals progress.isRecursive = true) :
    progress.step signals step = progress.gain signals progress.isRecursive step := by
  cases step with
  | selfCall => exact absurd h Bool.false_ne_true
  | confirmSearch => exact absurd h Bool.false_ne_true
  | division divisor inLoop =>
      -- With self-calls a division confirms a search or divides, and it is not the former.
      rw [Step.isFree, Bool.not_eq_true'] at h
      simp only [Progress.step, divide, gain, Step.addsDivide, Step.addsLogarithm, Step.addsSearch]
      cases hrecursive : progress.isRecursive with
      | true =>
          rw [hrecursive, Bool.true_and] at h
          simp [h, Step.loopDepth?, Step.tally, Step.addsWalk]
      | false =>
          cases inLoop && divisor.equals 2 && signals.assigns && signals.relates with
          | true => simp [Step.loopDepth?, Step.tally, Step.addsWalk]
          | false => simp [Step.loopDepth?, Step.tally, Step.addsWalk]
  | _ =>
      simp [Progress.step, gain, divideIf, Step.loopDepth?, Step.tally, Step.addsDivide,
        Step.addsLogarithm, Step.addsSearch, Step.addsWalk]

theorem Same.refl (progress : Progress) : progress.Same progress :=
  ⟨rfl, rfl, rfl, Calls.Same.refl _, rfl, rfl, rfl, rfl, rfl⟩

theorem Same.trans (h : progress.Same other) (h' : other.Same third) : progress.Same third where
  loopCount_eq := h.loopCount_eq.trans h'.loopCount_eq
  nestingDepth_eq := h.nestingDepth_eq.trans h'.nestingDepth_eq
  selfCalls_eq := h.selfCalls_eq.trans h'.selfCalls_eq
  calls := h.calls.trans h'.calls
  divides_eq := h.divides_eq.trans h'.divides_eq
  logarithmic_eq := h.logarithmic_eq.trans h'.logarithmic_eq
  linear_eq := h.linear_eq.trans h'.linear_eq
  binarySearch_eq := h.binarySearch_eq.trans h'.binarySearch_eq
  recursiveSearch_eq := h.recursiveSearch_eq.trans h'.recursiveSearch_eq

theorem Same.gain (h : progress.Same other) (step : Step) :
    (progress.gain signals recursive step).Same (other.gain signals recursive step) where
  loopCount_eq := congrArg (· + _) h.loopCount_eq
  nestingDepth_eq := congrArg (max · _) h.nestingDepth_eq
  selfCalls_eq := h.selfCalls_eq
  calls := step.same_tally h.calls
  divides_eq := congrArg (· || _) h.divides_eq
  logarithmic_eq := congrArg (· || _) h.logarithmic_eq
  linear_eq := congrArg (· || _) h.linear_eq
  binarySearch_eq := congrArg (· || _) h.binarySearch_eq
  recursiveSearch_eq := h.recursiveSearch_eq

/-- Two findings may change places. -/
theorem same_gain_swap (first second : Step) :
    ((progress.gain signals recursive first).gain signals recursive second).Same
      ((progress.gain signals recursive second).gain signals recursive first) where
  loopCount_eq := Nat.add_right_comm _ _ _
  nestingDepth_eq := by
    simp only [gain]
    omega
  selfCalls_eq := rfl
  calls := Step.same_tally_swap progress.calls first second
  divides_eq := Bool.or_right_comm _ _ _
  logarithmic_eq := Bool.or_right_comm _ _ _
  linear_eq := Bool.or_right_comm _ _ _
  binarySearch_eq := Bool.or_right_comm _ _ _
  recursiveSearch_eq := rfl

/-- A block of free findings does nothing but add: none of them changes whether the
    function is known to call itself. -/
theorem run_eq_foldl_gain {steps : List Step}
    (h : ∀ step ∈ steps, step.isFree signals progress.isRecursive = true) :
    progress.run signals steps = steps.foldl (gain signals progress.isRecursive) progress := by
  induction steps generalizing progress with
  | nil => rfl
  | cons first rest ih =>
      rcases List.forall_mem_cons.mp h with ⟨hfirst, hrest⟩
      have hsame : (progress.gain signals progress.isRecursive first).isRecursive
          = progress.isRecursive := rfl
      rw [run_cons, step_eq_gain hfirst, List.foldl_cons, ← hsame]
      exact ih hrest

theorem Same.foldl_gain (h : progress.Same other) (steps : List Step) :
    (steps.foldl (Progress.gain signals recursive) progress).Same
      (steps.foldl (Progress.gain signals recursive) other) := by
  induction steps generalizing progress other with
  | nil => exact h
  | cons first rest ih => exact ih (h.gain first)

theorem same_foldl_gain_of_perm {steps others : List Step} (h : steps.Perm others) :
    (steps.foldl (gain signals recursive) progress).Same
      (others.foldl (gain signals recursive) progress) := by
  induction h generalizing progress with
  | nil => exact Same.refl _
  | cons first _ ih => exact ih
  | swap first second rest => exact Same.foldl_gain (same_gain_swap second first) rest
  | trans _ _ ih ih' => exact ih.trans ih'

/-- A block of free findings may be rearranged. -/
theorem same_run_of_perm {steps others : List Step} (h : steps.Perm others)
    (hfree : ∀ step ∈ steps, step.isFree signals progress.isRecursive = true) :
    (progress.run signals steps).Same (progress.run signals others) := by
  have hothers : ∀ step ∈ others, step.isFree signals progress.isRecursive = true :=
    fun step hstep => hfree step (h.mem_iff.mpr hstep)
  rw [run_eq_foldl_gain hfree, run_eq_foldl_gain hothers]
  exact same_foldl_gain_of_perm h

/-- What is the same has only the calls to differ in. -/
theorem Same.exists_eq (h : progress.Same other) :
    ∃ calls, Calls.Same progress.calls calls ∧ other = { progress with calls } := by
  refine ⟨other.calls, h.calls, ?_⟩
  simp only [h.loopCount_eq, h.nestingDepth_eq, h.selfCalls_eq, h.divides_eq, h.logarithmic_eq,
    h.linear_eq, h.binarySearch_eq, h.recursiveSearch_eq]

/-- The order of the names decides nothing. -/
theorem rule_eq_of_same (h : progress.Same other) (name text : String) (signals : Signals) :
    (progress.seal name text signals).rule = (other.seal name text signals).rule := by
  rcases h.exists_eq with ⟨calls, hcalls, rfl⟩
  have hhelpers : (progress.seal name text signals).helperNames.isEmpty
      = (Progress.seal { progress with calls } name text signals).helperNames.isEmpty :=
    (hcalls.keys_perm.filter _).isEmpty_eq
  have hlength : progress.calls.length = calls.length := by
    have hkeys := hcalls.keys_perm.length_eq
    rwa [Keyed.keys, Keyed.keys, List.length_map, List.length_map] at hkeys
  have happlies : ∀ rule : Rule, rule.applies (progress.seal name text signals)
      = rule.applies (Progress.seal { progress with calls } name text signals) := by
    intro rule
    cases rule with
    | recursiveDivideAndConquer =>
        simp only [Rule.applies, hhelpers]
        rfl
    | permutationRecursion =>
        simp only [Rule.applies, Progress.seal, hlength]
        rfl
    | _ => rfl
  simp only [Record.rule, happlies]

end Gain

end Progress

namespace Body

variable {body : Body}

/-- The findings at a node that a walk takes up. A loop is one as well. -/
def stepsAt (body : Body) (stop : Node × Nat) : Except Literal.Overflow (List Step) :=
  if stop.1.kind.isLoop then .ok [.loop (stop.2 + 1 : Nat)]
  else body.findings stop.1 (decide (0 < stop.2))

theorem note_eq_map_run (progress : Progress) (stop : Node × Nat) :
    body.note progress stop = (body.stepsAt stop).map (progress.run body.signals) := by
  rw [note, stepsAt]
  split <;> rfl

/-- The findings at a node, none if the node holds a number that is too large. -/
def foundAt (body : Body) (stop : Node × Nat) : List Step :=
  (body.stepsAt stop).toOption.getD []

theorem stepsAt_eq_ok {stop : Node × Nat}
    (h : ¬(body.source.DividesByTooLarge stop.1 ∨ body.NarrowsByTooLarge stop.1)) :
    body.stepsAt stop = .ok (body.foundAt stop) := by
  have hnote := (body.note_eq_error_iff {} stop).not.mpr h
  rw [note_eq_map_run, map_eq_error_iff] at hnote
  rw [foundAt]
  cases hsteps : body.stepsAt stop with
  | ok steps => rfl
  | error overflow => exact absurd hsteps hnote

/-- Noting nodes is a run through what is found at them. -/
theorem foldlM_note_eq_run {stops : List (Node × Nat)}
    (h : ∀ stop ∈ stops, body.stepsAt stop = .ok (body.foundAt stop)) (progress : Progress) :
    stops.foldlM body.note progress
      = .ok (progress.run body.signals (stops.flatMap body.foundAt)) := by
  induction stops generalizing progress with
  | nil => rfl
  | cons stop rest ih =>
      rcases List.forall_mem_cons.mp h with ⟨hstop, hrest⟩
      rw [List.foldlM_cons, note_eq_map_run, hstop, List.flatMap_cons, Progress.run_append]
      exact ih hrest _

/-- At a node that is no self-call every finding is free, as long as no self-call was
    found. -/
theorem isFree_of_stepsAt {stop : Node × Nat} {steps : List Step}
    (hself : body.callsItself stop.1 = false) (h : body.stepsAt stop = .ok steps) :
    ∀ step ∈ steps, step.isFree body.signals false = true := by
  intro step hstep
  rw [stepsAt] at h
  split at h
  · rw [← Except.ok.inj h, List.mem_singleton] at hstep
    rw [hstep]
    rfl
  · have hplain := isPlain_findings hself h step hstep
    cases step with
    | loop depth => exact absurd hplain Bool.false_ne_true
    | selfCall => exact absurd hplain Bool.false_ne_true
    | confirmSearch => exact absurd hplain Bool.false_ne_true
    | _ => rfl

end Body

namespace Definition

/-- The record of a function with some nodes taken up in some order, each with the loops
    around it. -/
def recordBy (source : Source) (definition : Definition) (stops : List (Node × Nat)) :
    Except Literal.Overflow Record :=
  (stops.foldlM (definition.inside source).note {}).map fun progress =>
    progress.seal definition.name (source.text definition.body) (definition.inside source).signals

/-- The nodes of a function that does not call itself may be taken up in any order. -/
theorem map_rule_recordBy_of_perm {source : Source} {definition : Definition}
    {stops order : List (Node × Nat)} (h : stops.Perm order)
    (hself : ∀ stop ∈ stops, (definition.inside source).callsItself stop.1 = false) :
    (definition.recordBy source order).map Record.rule
      = (definition.recordBy source stops).map Record.rule := by
  generalize hbody : definition.inside source = body at hself
  by_cases hfails : ∃ stop ∈ stops,
      body.source.DividesByTooLarge stop.1 ∨ body.NarrowsByTooLarge stop.1
  · -- A number that is too large is met sooner or later.
    have hmoved : ∃ stop ∈ order,
        body.source.DividesByTooLarge stop.1 ∨ body.NarrowsByTooLarge stop.1 := by
      rcases hfails with ⟨stop, hstop, hfail⟩
      exact ⟨stop, h.mem_iff.mp hstop, hfail⟩
    rw [recordBy, recordBy, hbody, (foldlM_eq_error_iff Body.note_eq_error_iff order {}).mpr hmoved,
      (foldlM_eq_error_iff Body.note_eq_error_iff stops {}).mpr hfails]
  · have hsteps : ∀ stop ∈ stops, body.stepsAt stop = .ok (body.foundAt stop) :=
      fun stop hstop => Body.stepsAt_eq_ok fun hfail => hfails ⟨stop, hstop, hfail⟩
    have hmoved : ∀ stop ∈ order, body.stepsAt stop = .ok (body.foundAt stop) :=
      fun stop hstop => hsteps stop (h.mem_iff.mpr hstop)
    have hfree : ∀ step ∈ stops.flatMap body.foundAt, step.isFree body.signals false = true := by
      intro step hstep
      rcases List.mem_flatMap.mp hstep with ⟨stop, hstop, hstep⟩
      exact Body.isFree_of_stepsAt (hself stop hstop) (hsteps stop hstop) step hstep
    have hsame : (Progress.run body.signals {} (stops.flatMap body.foundAt)).Same
        (Progress.run body.signals {} (order.flatMap body.foundAt)) :=
      Progress.same_run_of_perm (h.flatMap_right _) hfree
    rw [recordBy, recordBy, hbody, Body.foldlM_note_eq_run hmoved, Body.foldlM_note_eq_run hsteps]
    exact congrArg Except.ok (Progress.rule_eq_of_same hsame _ _ _).symm

end Definition

/-- A block of findings without a self-call or a confirmed search may be rearranged, from
    any start: what is known afterwards differs in the order of names at most, and the
    same rule decides. So a function that does not call itself gets the same class in
    whatever order its nodes are taken up. -/
theorem free_steps_rearranged :
    (∀ (signals : Signals) (progress : Progress) (steps others : List Step),
      steps.Perm others → (∀ step ∈ steps, step.isFree signals progress.isRecursive = true) →
        (progress.run signals steps).Same (progress.run signals others) ∧
        ∀ name text : String, ((progress.run signals steps).seal name text signals).rule
          = ((progress.run signals others).seal name text signals).rule) ∧
    ∀ (source : Source) (definition : Definition) (order : List (Node × Nat)),
      (definition.body.reached 0).Perm order →
      (∀ node ∈ definition.visited, (definition.inside source).callsItself node = false) →
        (definition.recordBy source order).map Record.growth
          = (definition.record source).map Record.growth := by
  constructor
  · intro signals progress steps others hperm hfree
    have hsame := Progress.same_run_of_perm hperm hfree
    exact ⟨hsame, fun name text => Progress.rule_eq_of_same hsame name text signals⟩
  · intro source definition order hperm hself
    have hstops : ∀ stop ∈ definition.body.reached 0,
        (definition.inside source).callsItself stop.1 = false :=
      fun stop hstop => hself stop.1 (List.mem_map_of_mem hstop)
    have hrule := Definition.map_rule_recordBy_of_perm hperm hstops
    have hgrowth : ∀ result : Except Literal.Overflow Record,
        result.map Record.growth = (result.map Record.rule).map Rule.growth := by
      intro result
      cases result <;> rfl
    rw [Definition.record_eq_foldlM, ← Definition.recordBy, hgrowth, hrule, ← hgrowth]

/-! The function `f` with the body `{g();for(;;)h()}`, and some findings in a function that is
    known to call itself. -/

namespace HelperInLoop

def source : Source := .ofString "\x7bg();for(;;)h()\x7d"

def body : Node :=
  ⟨{ kind := .other "statement_block", start := 0, stop := 16, field := some .body },
    [LoopsAndCalls.callAt 1,
      ⟨{ kind := .forLoop, start := 5, stop := 15 }, [LoopsAndCalls.callAt 12]⟩]⟩

def definition : Definition := ⟨"f", ⟨{ kind := .functionDeclaration }, [body]⟩, body⟩

def known : Progress where
  selfCalls := 1
  calls := [("f", 1)]

def steps : List Step :=
  [.call "g", .loop 1, .division (.ofRatio false 2 1) true, .call "h", .shift false]

/-- From the end to the start the names come in another order, and the rule and the class
    are the same. -/
theorem rearranged_backwards :
    Keyed.keys (known.run {} steps).calls = ["f", "g", "h"] ∧
    Keyed.keys (known.run {} steps.reverse).calls = ["f", "h", "g"] ∧
    (known.run {} steps).Same (known.run {} steps.reverse) ∧
    ((known.run {} steps.reverse).seal "f" "" {}).rule = .recursiveDivideAndConquer ∧
    (definition.recordBy source (body.reached 0).reverse).map Record.growth = .ok .linear := by
  rcases free_steps_rearranged with ⟨hblock, hfunction⟩
  have hfree : ∀ step ∈ steps, step.isFree {} known.isRecursive = true := by decide +kernel
  rcases hblock {} known steps steps.reverse (List.reverse_perm steps).symm hfree with
    ⟨hsame, hrule⟩
  have hself : ∀ node ∈ definition.visited,
      (definition.inside source).callsItself node = false := by
    decide +kernel
  have hgrowth := hfunction source definition (body.reached 0).reverse
    (List.reverse_perm _).symm hself
  refine ⟨by decide +kernel, by decide +kernel, hsame, ?_, hgrowth.trans ?_⟩
  · rw [← hrule]
    decide +kernel
  · decide +kernel

end HelperInLoop

end Costwise
