import Costwise.Proofs.Findings
import Costwise.Report.Basic

/-!
# What Every Record Satisfies

The parts of a record are filled in by different steps, and nothing in the type
of a record ties them to each other. A record made by hand may confirm a
recursive search without a self-call, or have nested loops without any loop.
The rules of judgement take no notice of that: they ask for one part where they
mean two. What they conclude is right because a walk never produces such a
record.

`Consistent` names the ties between the parts. It holds at the start of a walk
and every note keeps it, so it holds of the record at the end. The one step
that could break it, confirming a search, comes right after a self-call, and
`note_cases` has that on record.

## Main definitions

* `Progress.Consistent`: The parts of what was found agree with each other.
* `Record.Walked`: A record such as walks produce.

## Theorems

* `consistent_step`: A plain step keeps the parts in agreement.
* `consistent_note`: So does noting a node.
* `walked_of_record`: Every record is one such as walks produce.
-/

namespace Costwise

open Syntax

namespace Calls

theorem nodup_keys_add {calls : Calls} (h : (Keyed.keys calls).Nodup) (name : String)
    (more : Nat) : (Keyed.keys (add name more calls)).Nodup := by
  rw [keys_add]
  by_cases hmem : name ∈ Keyed.keys calls
  · rw [if_pos hmem]
    exact h
  · rw [if_neg hmem, List.nodup_append]
    refine ⟨h, List.nodup_singleton _, fun known hknown new hnew => ?_⟩
    rw [List.mem_singleton.mp hnew]
    exact fun heq => hmem (heq ▸ hknown)

theorem count_le_count_add (calls : Calls) (name other : String) (more : Nat) :
    count calls other ≤ count (add name more calls) other := by
  by_cases h : other = name
  · rw [h, count_add_self]
    omega
  · exact Nat.le_of_eq (count_add_of_ne calls more h).symm

end Calls

namespace Progress

/-- The parts of what a walk has found agree with each other: a recursive search has
    a self-call, a search in a loop is a sign of logarithmic work, there is nesting
    if there are loops, every self-call is a call under the name of the function,
    and no name is counted twice. -/
structure Consistent (name : String) (progress : Progress) : Prop where
  recursive_of_search : progress.recursiveSearch = true → 0 < progress.selfCalls
  logarithmic_of_search : progress.binarySearch = true → progress.logarithmic = true
  nested_iff : 0 < progress.nestingDepth ↔ 0 < progress.loopCount
  selfCalls_le : progress.selfCalls ≤ Calls.count progress.calls name
  nodup_keys : (Keyed.keys progress.calls).Nodup

variable {name : String} {signals : Signals} {progress : Progress}

theorem consistent_start (name : String) : Consistent name {} where
  recursive_of_search h := absurd h Bool.false_ne_true
  logarithmic_of_search h := absurd h Bool.false_ne_true
  nested_iff := Iff.rfl
  selfCalls_le := Nat.zero_le _
  nodup_keys := List.nodup_nil

/-- A confirmed search leaves the parts in agreement, if the function was seen
    calling itself. -/
theorem Consistent.confirmSearch (h : progress.Consistent name) (hself : 0 < progress.selfCalls) :
    progress.confirmSearch.Consistent name where
  recursive_of_search _ := hself
  logarithmic_of_search _ := rfl
  nested_iff := h.nested_iff
  selfCalls_le := h.selfCalls_le
  nodup_keys := h.nodup_keys

/-- So does a division: it confirms a search only in a function that was seen calling
    itself, and finds one in a loop together with the sign that goes with it. -/
theorem Consistent.divide (h : progress.Consistent name) (divisor : Binary64) (inLoop : Bool) :
    (progress.divide signals divisor inLoop).Consistent name := by
  rw [Progress.divide]
  split
  · rename_i hrecursive
    split
    -- The test that the function calls itself is what the invariant asks for.
    · exact h.confirmSearch (of_decide_eq_true hrecursive)
    · exact ⟨h.recursive_of_search, h.logarithmic_of_search, h.nested_iff, h.selfCalls_le,
        h.nodup_keys⟩
  · split
    · exact ⟨h.recursive_of_search, fun _ => rfl, h.nested_iff, h.selfCalls_le, h.nodup_keys⟩
    · exact ⟨h.recursive_of_search, h.logarithmic_of_search, h.nested_iff, h.selfCalls_le,
        h.nodup_keys⟩

theorem consistent_step {step : Step} (hstep : step.isPlain = true)
    (h : progress.Consistent name) : (progress.step signals step).Consistent name := by
  rcases h with ⟨hsearch, hlog, hnested, hself, hkeys⟩
  cases step with
  | loop depth => exact absurd hstep Bool.false_ne_true
  | selfCall => exact absurd hstep Bool.false_ne_true
  | confirmSearch => exact absurd hstep Bool.false_ne_true
  | call callee =>
      exact ⟨hsearch, hlog, hnested, Nat.le_trans hself (Calls.count_le_count_add _ _ _ _),
        Calls.nodup_keys_add hkeys _ _⟩
  | rounding => exact ⟨hsearch, fun _ => rfl, hnested, hself, hkeys⟩
  | division divisor inLoop =>
      exact Consistent.divide ⟨hsearch, hlog, hnested, hself, hkeys⟩ divisor inLoop
  -- The others set flags that nothing here is tied to.
  | method _ => exact ⟨hsearch, hlog, hnested, hself, hkeys⟩
  | comparison _ => exact ⟨hsearch, hlog, hnested, hself, hkeys⟩
  | access _ _ => exact ⟨hsearch, hlog, hnested, hself, hkeys⟩
  | shift _ => exact ⟨hsearch, hlog, hnested, hself, hkeys⟩

theorem consistent_run {steps : List Step} (hsteps : ∀ step ∈ steps, step.isPlain = true)
    (h : progress.Consistent name) : (progress.run signals steps).Consistent name := by
  induction steps generalizing progress with
  | nil => exact h
  | cons first rest ih =>
      rw [run_cons]
      exact ih (fun step hstep => hsteps step (List.mem_cons_of_mem _ hstep))
        (consistent_step (hsteps first List.mem_cons_self) h)

/-- A loop makes the nesting and the number of loops positive together. -/
theorem consistent_loop (depth : Nat) (h : progress.Consistent name) :
    (progress.step signals (.loop (depth + 1 : Nat))).Consistent name where
  recursive_of_search := h.recursive_of_search
  logarithmic_of_search := h.logarithmic_of_search
  -- The depth noted for a loop counts the loop itself, so it is not zero.
  nested_iff := by
    simp only [step, Int.toNat_natCast]
    omega
  selfCalls_le := h.selfCalls_le
  nodup_keys := h.nodup_keys

/-- A self-call is counted as a call under the name of the function first, and what
    it confirms comes after it. -/
theorem consistent_selfCall (narrows : Bool) (h : progress.Consistent name) :
    (progress.run signals (.call name :: .selfCall ::
      if narrows then [.confirmSearch] else [])).Consistent name := by
  have hself : (progress.run signals [.call name, .selfCall]).Consistent name := by
    refine ⟨fun _ => Nat.succ_pos _, h.logarithmic_of_search, h.nested_iff, ?_,
      Calls.nodup_keys_add h.nodup_keys _ _⟩
    show progress.selfCalls + 1 ≤ Calls.count (Calls.add name 1 progress.calls) name
    rw [Calls.count_add_self]
    exact Nat.succ_le_succ h.selfCalls_le
  cases narrows with
  | false => exact hself
  | true => exact hself.confirmSearch (Nat.succ_pos _)

end Progress

theorem Body.consistent_note {body : Body} {progress next : Progress} {stop : Node × Nat}
    (h : progress.Consistent body.functionName) (hnext : body.note progress stop = .ok next) :
    next.Consistent body.functionName := by
  rcases note_cases hnext with ⟨_, _, rfl⟩ | ⟨_, steps, hplain, rfl⟩ |
    ⟨_, narrows, plain, hplain, rfl⟩
  · exact Progress.consistent_loop stop.2 h
  · exact Progress.consistent_run hplain h
  · rw [← List.cons_append, ← List.cons_append, Progress.run_append]
    exact Progress.consistent_run hplain (Progress.consistent_selfCall narrows h)

/-- A record such as walks produce: its parts agree, and it calls the function
    recursive if a self-call was counted. -/
structure Record.Walked (record : Record) : Prop where
  consistent : record.toProgress.Consistent record.functionName
  recursive_eq : record.recursive = record.toProgress.isRecursive

namespace Definition

variable {source : Source} {definition : Definition}

/-- The record of a function is that of a finished walk. -/
theorem exists_progress_of_record {record : Record} (h : definition.record source = .ok record) :
    ∃ progress, (definition.body.reached 0).foldlM (definition.inside source).note {}
        = .ok progress ∧
      record = progress.seal definition.name (source.text definition.body)
        (definition.inside source).signals := by
  rw [record_eq_foldlM] at h
  rcases exists_of_map_eq_ok h with ⟨progress, hfold, hseal⟩
  exact ⟨progress, hfold, hseal.symm⟩

/-- Every record is one such as walks produce, and has the name of its function. -/
theorem walked_of_record {record : Record} (h : definition.record source = .ok record) :
    record.Walked ∧ record.functionName = definition.name := by
  rcases exists_progress_of_record h with ⟨progress, hfold, rfl⟩
  have hnote : ∀ progress next, ∀ stop ∈ definition.body.reached 0,
      progress.Consistent definition.name →
      (definition.inside source).note progress stop = .ok next →
      next.Consistent definition.name :=
    fun _ _ _ _ hprogress hnext => Body.consistent_note hprogress hnext
  exact ⟨⟨Body.note_invariant hnote (Progress.consistent_start definition.name) hfold, rfl⟩, rfl⟩

end Definition

end Costwise
