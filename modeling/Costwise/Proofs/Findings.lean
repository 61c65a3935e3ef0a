import Costwise.Proofs.Traversal

/-!
# What a Node Can Mean

The findings of a node are a short list of steps, and most steps can stand in
it on their own. Two cannot. A self-call is only found together with the call
that it is, and a search is only confirmed at a self-call. Several facts about
records hold for this reason alone: a series of steps in an arbitrary order,
with a search confirmed out of nowhere, does not have them.

`findings_cases` says once what the findings of a node can be. Everything that
a walk keeps up is then a matter of plain steps, and of the one block that a
self-call makes.

Every step of a walk can fail, so what is known of a result has to be taken
back through the steps that led to it. `exists_of_map_eq_ok` and
`exists_of_bind_eq_ok` do that here and in the files that build on this one.

## Main definitions

* `Step.isPlain`: A step that needs no other.
* `Body.callsItself`: Whether a node is a call of the function around it.

## Theorems

* `calleeName?_of_isSelfCall`: A self-call is counted under the name of the
  function.
* `findings_cases`: The findings of a node.
* `note_invariant`: What every note keeps, a walk keeps.
* `selfCalls_foldlM`: A walk counts the self-calls that it takes up.
-/

namespace Costwise

open Syntax

theorem exists_of_map_eq_ok {α β ε : Type} {result : Except ε α} {f : α → β} {value : β}
    (h : result.map f = .ok value) : ∃ source, result = .ok source ∧ f source = value := by
  cases result with
  | error failure => exact absurd h (by simp only [Except.map, reduceCtorEq, not_false_eq_true])
  | ok source => exact ⟨source, rfl, Except.ok.inj h⟩

theorem exists_of_bind_eq_ok {α β ε : Type} {result : Except ε α} {f : α → Except ε β} {value : β}
    (h : result >>= f = .ok value) : ∃ source, result = .ok source ∧ f source = .ok value := by
  cases result with
  | error failure =>
      exact absurd h (by simp only [bind, Except.bind, reduceCtorEq, not_false_eq_true])
  | ok source => exact ⟨source, rfl, h⟩

/-- Whether a step needs no other step before it, and is no loop. -/
def Step.isPlain : Step → Bool
  | loop _ | selfCall | confirmSearch => false
  | _ => true

namespace Progress

variable {signals : Signals} {progress : Progress}

theorem selfCalls_step_of_isPlain {step : Step} (h : step.isPlain = true) :
    (progress.step signals step).selfCalls = progress.selfCalls := by
  cases step with
  | loop depth => exact absurd h Bool.false_ne_true
  | selfCall => exact absurd h Bool.false_ne_true
  | confirmSearch => exact absurd h Bool.false_ne_true
  | division divisor inLoop =>
      -- A division looks at the self-calls counted so far and leaves them alone.
      simp only [Progress.step, divide]
      split
      · split <;> rfl
      · split <;> rfl
  | call _ => rfl
  | method _ => rfl
  | rounding => rfl
  | comparison _ => rfl
  | access _ _ => rfl
  | shift _ => rfl

theorem selfCalls_run_of_isPlain {steps : List Step} (h : ∀ step ∈ steps, step.isPlain = true) :
    (progress.run signals steps).selfCalls = progress.selfCalls := by
  induction steps generalizing progress with
  | nil => rfl
  | cons first rest ih =>
      rw [run_cons, ih fun step hstep => h step (List.mem_cons_of_mem _ hstep),
        selfCalls_step_of_isPlain (h first List.mem_cons_self)]

end Progress

/-- A self-call is counted under the name of the function. -/
theorem Syntax.Source.calleeName?_of_isSelfCall {source : Source} {name : String} {call : Node}
    (h : source.isSelfCall name call = true) : source.calleeName? call = some name := by
  unfold isSelfCall at h
  unfold calleeName?
  cases hcallee : call.callee? with
  | none =>
      rw [hcallee] at h
      exact absurd h Bool.false_ne_true
  | some callee =>
      simp only [hcallee] at h ⊢
      -- The name is that of an identifier, or of a property of the receiver.
      by_cases hidentifier : callee.kind = .identifier
      · rw [if_pos hidentifier] at h ⊢
        rw [eq_of_beq h]
      · rw [if_neg hidentifier, Bool.and_eq_true, Bool.and_eq_true, beq_iff_eq, beq_iff_eq] at h
        rw [if_neg hidentifier, if_pos h.1.1, h.2]

namespace Body

variable {body : Body}

/-- Whether a node is a call of the function that the walk is in. -/
def callsItself (body : Body) (node : Node) : Bool :=
  node.kind == .call && body.source.isSelfCall body.functionName node

/-- What a call means besides that it was made. -/
def callExtras (body : Body) (call : Node) (name : String) : List Step :=
  (if Source.isMethodCall call then [.method name] else []) ++
    if body.source.isRoundingCall call then [.rounding] else []

theorem isPlain_callExtras {call : Node} {name : String} :
    ∀ step ∈ body.callExtras call name, step.isPlain = true := by
  intro step hstep
  rw [callExtras] at hstep
  rcases List.mem_append.mp hstep with hstep | hstep
  · split at hstep
    · rw [List.mem_singleton.mp hstep]
      rfl
    · exact absurd hstep List.not_mem_nil
  · split at hstep
    · rw [List.mem_singleton.mp hstep]
      rfl
    · exact absurd hstep List.not_mem_nil

theorem callFindings_of_calleeName? {call : Node} {name : String}
    (h : body.source.calleeName? call = some name) :
    body.callFindings call = (body.selfCallFindings call).map fun selfCall =>
      .call name :: (selfCall ++ body.callExtras call name) := by
  unfold callFindings callExtras
  simp only [h, List.cons_append, List.append_assoc]

theorem callFindings_of_not_isSelfCall {call : Node}
    (hself : body.source.isSelfCall body.functionName call = false) :
    ∃ steps, body.callFindings call = .ok steps ∧ ∀ step ∈ steps, step.isPlain = true := by
  cases hname : body.source.calleeName? call with
  | none =>
      refine ⟨[], ?_, fun step hstep => absurd hstep List.not_mem_nil⟩
      simp only [callFindings, hname]
  | some name =>
      refine ⟨.call name :: body.callExtras call name, ?_, fun step hstep => ?_⟩
      · rw [callFindings_of_calleeName? hname, selfCallFindings, hself,
          if_neg Bool.false_ne_true]
        rfl
      · rcases List.mem_cons.mp hstep with rfl | hstep
        · rfl
        · exact isPlain_callExtras step hstep

/-- What a self-call means: the call, the self-call, the search that it may confirm,
    and plain steps. -/
theorem callFindings_of_isSelfCall {call : Node}
    (hself : body.source.isSelfCall body.functionName call = true) :
    body.callFindings call = (body.narrowsRange call).map fun narrows =>
      .call body.functionName :: .selfCall ::
        ((if narrows then [.confirmSearch] else []) ++
          body.callExtras call body.functionName) := by
  rw [callFindings_of_calleeName? (Source.calleeName?_of_isSelfCall hself), selfCallFindings,
    hself, if_pos rfl]
  cases body.narrowsRange call <;> rfl

theorem isPlain_operatorFindings {node : Node} {inLoop : Bool} {steps : List Step}
    (h : body.operatorFindings node inLoop = .ok steps) :
    ∀ step ∈ steps, step.isPlain = true := by
  unfold operatorFindings at h
  intro step hstep
  split at h
  · rcases exists_of_map_eq_ok h with ⟨divisor, _, rfl⟩
    rcases List.mem_map.mp hstep with ⟨_, _, rfl⟩
    rfl
  · split at h
    · rw [← Except.ok.inj h] at hstep
      rw [List.mem_singleton.mp hstep]
      rfl
    · split at h
      · rw [← Except.ok.inj h] at hstep
        rw [List.mem_singleton.mp hstep]
        rfl
      · rw [← Except.ok.inj h] at hstep
        exact absurd hstep List.not_mem_nil

/-- The findings of a node that is no self-call are plain. -/
theorem isPlain_findings {node : Node} {inLoop : Bool} {steps : List Step}
    (hself : body.callsItself node = false) (h : body.findings node inLoop = .ok steps) :
    ∀ step ∈ steps, step.isPlain = true := by
  unfold findings at h
  unfold callsItself at hself
  cases hkind : node.kind <;> simp only [hkind] at h
  case call =>
    rw [hkind, beq_self_eq_true, Bool.true_and] at hself
    rcases callFindings_of_not_isSelfCall hself with ⟨found, hfound, hplain⟩
    rw [hfound] at h
    rw [← Except.ok.inj h]
    exact hplain
  case binary => exact isPlain_operatorFindings h
  case compoundAssignment => exact isPlain_operatorFindings h
  -- Every other kind means an access or nothing.
  all_goals
    intro step hstep
    rw [← Except.ok.inj h] at hstep
    first
      | exact absurd hstep List.not_mem_nil
      | (rw [List.mem_singleton.mp hstep]; rfl)

theorem findings_of_callsItself {node : Node} (inLoop : Bool)
    (hself : body.callsItself node = true) :
    body.findings node inLoop = (body.narrowsRange node).map fun narrows =>
      .call body.functionName :: .selfCall ::
        ((if narrows then [.confirmSearch] else []) ++
          body.callExtras node body.functionName) := by
  unfold callsItself at hself
  rw [Bool.and_eq_true, beq_iff_eq] at hself
  unfold findings
  rw [hself.1]
  exact callFindings_of_isSelfCall hself.2

/-- What the findings of a node can be: plain steps, or what a self-call means. -/
theorem findings_cases {node : Node} {inLoop : Bool} {steps : List Step}
    (h : body.findings node inLoop = .ok steps) :
    (body.callsItself node = false ∧ ∀ step ∈ steps, step.isPlain = true) ∨
    (body.callsItself node = true ∧ ∃ (narrows : Bool) (plain : List Step),
      steps = .call body.functionName :: .selfCall ::
        ((if narrows then [.confirmSearch] else []) ++ plain) ∧
      ∀ step ∈ plain, step.isPlain = true) := by
  cases hself : body.callsItself node with
  | false => exact .inl ⟨rfl, isPlain_findings hself h⟩
  | true =>
      refine .inr ⟨rfl, ?_⟩
      rw [findings_of_callsItself inLoop hself] at h
      rcases exists_of_map_eq_ok h with ⟨narrows, _, hsteps⟩
      exact ⟨narrows, _, hsteps.symm, isPlain_callExtras⟩

/-- What noting a node can do: count a loop, make plain steps, or make the steps of a
    self-call. -/
theorem note_cases {progress next : Progress} {stop : Node × Nat}
    (h : body.note progress stop = .ok next) :
    (stop.1.kind.isLoop = true ∧ body.callsItself stop.1 = false ∧
      next = progress.step body.signals (.loop (stop.2 + 1 : Nat))) ∨
    (body.callsItself stop.1 = false ∧ ∃ steps, (∀ step ∈ steps, step.isPlain = true) ∧
      next = progress.run body.signals steps) ∨
    (body.callsItself stop.1 = true ∧ ∃ (narrows : Bool) (plain : List Step),
      (∀ step ∈ plain, step.isPlain = true) ∧
      next = progress.run body.signals (.call body.functionName :: .selfCall ::
        ((if narrows then [.confirmSearch] else []) ++ plain))) := by
  unfold note at h
  split at h
  · -- A loop is no call, so it is no self-call.
    rename_i hloop
    refine .inl ⟨hloop, ?_, (Except.ok.inj h).symm⟩
    unfold callsItself
    cases hkind : stop.1.kind <;> rw [hkind] at hloop <;>
      first | rfl | exact absurd hloop Bool.false_ne_true
  · rcases exists_of_map_eq_ok h with ⟨steps, hfindings, hnext⟩
    rcases findings_cases hfindings with ⟨hself, hplain⟩ | ⟨hself, narrows, plain, rfl, hplain⟩
    · exact .inr (.inl ⟨hself, steps, hplain, hnext.symm⟩)
    · exact .inr (.inr ⟨hself, narrows, plain, hplain, hnext.symm⟩)

/-- What every note keeps, a walk keeps. -/
theorem note_invariant {motive : Progress → Prop} {stops : List (Node × Nat)}
    {start last : Progress}
    (hnote : ∀ progress next, ∀ stop ∈ stops, motive progress →
      body.note progress stop = .ok next → motive next)
    (hstart : motive start) (hlast : stops.foldlM body.note start = .ok last) : motive last := by
  induction stops generalizing start with
  | nil =>
      rw [← Except.ok.inj hlast]
      exact hstart
  | cons stop rest ih =>
      rw [List.foldlM_cons] at hlast
      rcases exists_of_bind_eq_ok hlast with ⟨next, hnext, hrest⟩
      have hkept := hnote start next stop List.mem_cons_self hstart hnext
      exact ih (fun progress after later hlater =>
        hnote progress after later (List.mem_cons_of_mem _ hlater)) hkept hrest

theorem selfCalls_note {progress next : Progress} {stop : Node × Nat}
    (h : body.note progress stop = .ok next) :
    next.selfCalls = progress.selfCalls + if body.callsItself stop.1 then 1 else 0 := by
  rcases note_cases h with ⟨_, hself, rfl⟩ | ⟨hself, steps, hplain, rfl⟩ |
    ⟨hself, narrows, plain, hplain, rfl⟩
  · rw [hself]
    rfl
  · rw [hself, Progress.selfCalls_run_of_isPlain hplain]
    rfl
  · rw [hself, Progress.run_cons, Progress.run_cons, Progress.run_append,
      Progress.selfCalls_run_of_isPlain hplain]
    cases narrows <;> rfl

/-- A walk counts the self-calls among the nodes that it takes up. -/
theorem selfCalls_foldlM {stops : List (Node × Nat)} {start last : Progress}
    (h : stops.foldlM body.note start = .ok last) :
    last.selfCalls = start.selfCalls + stops.countP fun stop => body.callsItself stop.1 := by
  induction stops generalizing start with
  | nil =>
      rw [← Except.ok.inj h]
      rfl
  | cons stop rest ih =>
      rw [List.foldlM_cons] at h
      rcases exists_of_bind_eq_ok h with ⟨next, hnext, hrest⟩
      have hcount := ih hrest
      have hfirst := selfCalls_note hnext
      rw [List.countP_cons]
      omega

end Body

end Costwise
