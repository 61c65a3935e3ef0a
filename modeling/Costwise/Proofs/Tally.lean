import Costwise.Proofs.Consistency
import Costwise.Proofs.Course
import Costwise.Proofs.Judgement

/-!
# What a Record Counts

Four parts of a record are numbers: how many loops there are, how deep they nest,
how often each name is called, and how often the function calls itself. A walk
arrives at them by adding one here and taking a maximum there. This file says
what they are, in terms of the tree alone.

The nodes that count are those that a walk takes up, `own`: every place in the
body such that neither it nor anything above it is separate. The nesting of a
loop is the number of loops on the way down to it, itself included, so it is not
the number of loops before it, and a loop in the header of another nests as one
in its body does.

The counts are carried along with what has been counted so far (`Tallied`): the
depths of the loops and the names of the calls, in order. Each step adds to both
in the same way. The flags of a record do not enter, and neither do the signals.

## Main definitions

* `Node.own`: The places of a body that count for its function.
* `Source.calledName?`: The name under which a node is counted as a call.
* `Progress.Tallied`: The counts are those of some loops and some names.

## Theorems

* `reached_eq_own`: What a walk takes up, place by place.
* `tallied_step`, `tallied_run`: Steps add what they count.
* `tallied_note`, `tallied_foldlM`: So do nodes, and so does a walk.
* `counts_of_record`: The numbers of a record.
-/

namespace Costwise

open Syntax

/-- Whether neither a site nor a node above it is separate. -/
def Site.isOwn (site : Site) : Bool :=
  (site.node :: site.above).all (!·.isSeparate)

namespace Syntax.Node

/-- The places of a body that count for its function, in preorder: those that can be
    come to without passing through a separate node or ending at one. -/
def own (body : Node) : List Site :=
  (body.sites [] false).filter Site.isOwn

/-- A walk takes up what it comes to and does not pass over. -/
theorem reached_eq_filter_entered (node : Node) (depth : Nat) :
    node.reached depth
      = ((node.entered depth).filter (!·.node.isSeparate)).map
          fun pop => (pop.node, pop.depth) := by
  induction node using Node.induction generalizing depth with
  | step node ih =>
      rw [entered_eq]
      cases hsep : node.isSeparate with
      | true =>
          rw [reached_of_isSeparate hsep, if_pos rfl, List.filter_cons_of_neg (by simp [hsep])]
          rfl
      | false =>
          rw [reached_of_not_isSeparate hsep, if_neg Bool.false_ne_true,
            List.filter_cons_of_pos (by simp [hsep]), List.map_cons, List.filter_flatMap,
            List.map_flatMap]
          congr 1
          exact List.flatMap_congr fun child hchild => ih child hchild _

theorem reached_eq_own (body : Node) :
    body.reached 0 = body.own.map fun site => (site.node, loopsIn site.above) := by
  have hown : body.own = body.met.filter (!·.node.isSeparate) := by
    rw [own, met, List.filter_filter]
    rfl
  rw [reached_eq_filter_entered, entered_eq_met, List.filter_map, List.map_map, hown]
  rfl

end Syntax.Node

/-- The name under which a node is counted as a call. -/
def Syntax.Source.calledName? (source : Source) (node : Node) : Option String :=
  if node.kind = .call then source.calleeName? node else none

namespace Step

/-- The depth that a step counts a loop at. -/
def loopDepth? : Step → Option Nat
  | loop depth => some depth.toNat
  | _ => none

/-- The name that a step counts a call of. -/
def calledName? : Step → Option String
  | call name => some name
  | _ => none

end Step

/-- What one item adds to a list, and then what the others add. -/
theorem append_filterMap_cons {α β : Type} (kept : List β) (pick : α → Option β) (first : α)
    (rest : List α) :
    kept ++ (pick first).toList ++ rest.filterMap pick
      = kept ++ (first :: rest).filterMap pick := by
  rw [List.append_assoc, List.filterMap_eq_flatMap_toList, List.filterMap_eq_flatMap_toList,
    List.flatMap_cons]

namespace Progress

/-- The counts are those of loops at some depths and of calls of some names, in the order
    in which they were counted. -/
structure Tallied (loops : List Nat) (names : List String) (progress : Progress) : Prop where
  loopCount_eq : progress.loopCount = loops.length
  nestingDepth_eq : progress.nestingDepth = loops.foldl max 0
  count_eq : ∀ name, Calls.count progress.calls name = names.count name
  keys_eq : Keyed.keys progress.calls = names.eraseDups

variable {loops : List Nat} {names : List String} {progress : Progress}

theorem tallied_start : Tallied [] [] {} where
  loopCount_eq := rfl
  nestingDepth_eq := rfl
  count_eq _ := rfl
  keys_eq := rfl

variable (signals : Signals)

theorem Tallied.loop (h : progress.Tallied loops names) (depth : Int) :
    (progress.step signals (.loop depth)).Tallied (loops ++ [depth.toNat]) names where
  loopCount_eq := by
    rw [List.length_append, ← h.loopCount_eq]
    rfl
  nestingDepth_eq := by
    rw [List.foldl_append, ← h.nestingDepth_eq]
    rfl
  count_eq := h.count_eq
  keys_eq := h.keys_eq

theorem Tallied.call (h : progress.Tallied loops names) (name : String) :
    (progress.step signals (.call name)).Tallied loops (names ++ [name]) where
  loopCount_eq := h.loopCount_eq
  nestingDepth_eq := h.nestingDepth_eq
  count_eq other := by
    rw [List.count_append, ← h.count_eq]
    by_cases hname : other = name
    · rw [hname, List.count_singleton_self]
      exact Calls.count_add_self _ _ _
    · rw [List.count_singleton, beq_eq_false_iff_ne.mpr (Ne.symm hname)]
      exact Calls.count_add_of_ne _ _ hname
  keys_eq := by
    -- A name that was counted before keeps its place, and a new one comes last.
    have hkeys : Keyed.keys (progress.step signals (.call name)).calls
        = if name ∈ Keyed.keys progress.calls then Keyed.keys progress.calls
          else Keyed.keys progress.calls ++ [name] := Calls.keys_add _ _ _
    rw [hkeys, List.eraseDups_append, h.keys_eq, List.removeAll]
    by_cases hmem : name ∈ names
    · rw [if_pos (List.mem_eraseDups.mpr hmem), List.filter_cons_of_neg (by simp [hmem])]
      exact (List.append_nil _).symm
    · rw [if_neg (mt List.mem_eraseDups.mp hmem), List.filter_cons_of_pos (by simp [hmem])]
      rfl

theorem tallied_step (h : progress.Tallied loops names) (step : Step) :
    (progress.step signals step).Tallied (loops ++ step.loopDepth?.toList)
      (names ++ step.calledName?.toList) := by
  have hsame : ∀ next : Progress, next.loopCount = progress.loopCount →
      next.nestingDepth = progress.nestingDepth → next.calls = progress.calls →
      next.Tallied (loops ++ []) (names ++ []) := by
    intro next hcount hnesting hcalls
    rw [List.append_nil, List.append_nil]
    exact ⟨hcount.trans h.loopCount_eq, hnesting.trans h.nestingDepth_eq,
      fun name => by rw [hcalls, h.count_eq], by rw [hcalls, h.keys_eq]⟩
  cases step with
  | loop depth =>
      have hloop := h.loop signals depth
      rwa [← List.append_nil names] at hloop
  | call name =>
      have hcall := h.call signals name
      rwa [← List.append_nil loops] at hcall
  | division divisor inLoop =>
      -- What a division means depends on much, but it counts nothing.
      refine hsame _ ?_ ?_ ?_ <;>
      · simp only [step, divide, confirmSearch]
        split
        · split <;> rfl
        · split <;> rfl
  | selfCall => exact hsame _ rfl rfl rfl
  | confirmSearch => exact hsame _ rfl rfl rfl
  | method _ => exact hsame _ rfl rfl rfl
  | rounding => exact hsame _ rfl rfl rfl
  | comparison _ => exact hsame _ rfl rfl rfl
  | access _ _ => exact hsame _ rfl rfl rfl
  | shift _ => exact hsame _ rfl rfl rfl

theorem tallied_run (h : progress.Tallied loops names) (steps : List Step) :
    (progress.run signals steps).Tallied (loops ++ steps.filterMap Step.loopDepth?)
      (names ++ steps.filterMap Step.calledName?) := by
  induction steps generalizing progress loops names with
  | nil =>
      rw [List.filterMap_nil, List.filterMap_nil, List.append_nil, List.append_nil]
      exact h
  | cons first rest ih =>
      have hrest := ih (tallied_step signals h first)
      rwa [append_filterMap_cons, append_filterMap_cons] at hrest

end Progress

namespace Body

variable {body : Body}

/-- Besides the call itself, nothing that a call means is counted. -/
theorem counted_callFindings {call : Node} {steps : List Step}
    (h : body.callFindings call = .ok steps) :
    steps.filterMap Step.loopDepth? = [] ∧
      steps.filterMap Step.calledName? = (body.source.calleeName? call).toList := by
  cases hname : body.source.calleeName? call with
  | none =>
      simp only [callFindings, hname] at h
      rw [← Except.ok.inj h]
      exact ⟨rfl, rfl⟩
  | some name =>
      rw [callFindings_of_calleeName? hname] at h
      rcases exists_of_map_eq_ok h with ⟨selfCall, hselfCall, rfl⟩
      -- What comes with a self-call is a self-call and at most a confirmed search.
      have hself : selfCall = [] ∨ selfCall = [.selfCall] ∨
          selfCall = [.selfCall, .confirmSearch] := by
        unfold selfCallFindings at hselfCall
        split at hselfCall
        · rcases exists_of_map_eq_ok hselfCall with ⟨narrows, _, rfl⟩
          cases narrows with
          | false => exact .inr (.inl rfl)
          | true => exact .inr (.inr rfl)
        · exact .inl (Except.ok.inj hselfCall).symm
      have hextras : (body.callExtras call name).filterMap Step.loopDepth? = [] ∧
          (body.callExtras call name).filterMap Step.calledName? = [] := by
        rw [callExtras]
        split <;> split <;> exact ⟨rfl, rfl⟩
      simp only [List.filterMap_cons, List.filterMap_append, hextras.1, hextras.2]
      rcases hself with rfl | rfl | rfl <;> exact ⟨rfl, rfl⟩

theorem counted_operatorFindings {node : Node} {inLoop : Bool} {steps : List Step}
    (h : body.operatorFindings node inLoop = .ok steps) :
    steps.filterMap Step.loopDepth? = [] ∧ steps.filterMap Step.calledName? = [] := by
  unfold operatorFindings at h
  split at h
  · rcases exists_of_map_eq_ok h with ⟨divisor, _, rfl⟩
    cases divisor <;> exact ⟨rfl, rfl⟩
  · split at h
    · rw [← Except.ok.inj h]
      exact ⟨rfl, rfl⟩
    · split at h <;> rw [← Except.ok.inj h] <;> exact ⟨rfl, rfl⟩

/-- What is counted at a node that is no loop: a call, if it is one with a name. -/
theorem counted_findings {node : Node} {inLoop : Bool} {steps : List Step}
    (h : body.findings node inLoop = .ok steps) :
    steps.filterMap Step.loopDepth? = [] ∧
      steps.filterMap Step.calledName? = (body.source.calledName? node).toList := by
  unfold findings at h
  unfold Source.calledName?
  cases hkind : node.kind <;> simp only [hkind] at h
  case call =>
    rw [if_pos rfl]
    exact counted_callFindings h
  case binary => exact counted_operatorFindings h
  case compoundAssignment => exact counted_operatorFindings h
  -- Every other kind means an access or nothing.
  all_goals
    rw [← Except.ok.inj h]
    exact ⟨rfl, rfl⟩

/-- The depth that a node is counted at, if it is a loop. -/
def loopDepth? (stop : Node × Nat) : Option Nat :=
  if stop.1.kind.isLoop then some (stop.2 + 1) else none

theorem tallied_note {loops : List Nat} {names : List String} {progress next : Progress}
    {stop : Node × Nat} (h : progress.Tallied loops names)
    (hnote : body.note progress stop = .ok next) :
    next.Tallied (loops ++ (loopDepth? stop).toList)
      (names ++ (body.source.calledName? stop.1).toList) := by
  unfold note at hnote
  split at hnote
  · -- A loop is counted, and it is no call.
    rename_i hloop
    have hcall : body.source.calledName? stop.1 = none := by
      refine if_neg fun hkind => ?_
      rw [hkind] at hloop
      exact nomatch hloop
    rw [← Except.ok.inj hnote, hcall, loopDepth?, if_pos hloop]
    exact Progress.tallied_step body.signals h (.loop (stop.2 + 1 : Nat))
  · rename_i hloop
    rcases exists_of_map_eq_ok hnote with ⟨steps, hfindings, rfl⟩
    rcases counted_findings hfindings with ⟨hloops, hnames⟩
    have hrun := Progress.tallied_run body.signals h steps
    rw [hloops, hnames] at hrun
    rw [loopDepth?, if_neg hloop]
    exact hrun

theorem tallied_foldlM {stops : List (Node × Nat)} {loops : List Nat} {names : List String}
    {start last : Progress} (h : start.Tallied loops names)
    (hlast : stops.foldlM body.note start = .ok last) :
    last.Tallied (loops ++ stops.filterMap loopDepth?)
      (names ++ stops.filterMap fun stop => body.source.calledName? stop.1) := by
  induction stops generalizing start loops names with
  | nil =>
      rw [← Except.ok.inj hlast, List.filterMap_nil, List.filterMap_nil, List.append_nil,
        List.append_nil]
      exact h
  | cons stop rest ih =>
      rw [List.foldlM_cons] at hlast
      rcases exists_of_bind_eq_ok hlast with ⟨next, hnext, hrest⟩
      have hlater := ih (tallied_note h hnext) hrest
      have hnames := append_filterMap_cons names (fun stop => body.source.calledName? stop.1) stop
        rest
      rwa [append_filterMap_cons, hnames] at hlater

end Body

/-- A self-call is a call with a name. -/
theorem Body.callsItself_eq (body : Body) (node : Node) :
    body.callsItself node = ((body.source.calledName? node).isSome &&
      body.source.isSelfCall body.functionName node) := by
  unfold callsItself Source.calledName?
  by_cases hkind : node.kind = .call
  · rw [if_pos hkind, hkind, beq_self_eq_true, Bool.true_and]
    cases hself : body.source.isSelfCall body.functionName node with
    | false => rw [Bool.and_false]
    | true => rw [Source.calleeName?_of_isSelfCall hself, Option.isSome_some, Bool.true_and]
  · rw [if_neg hkind, beq_eq_false_iff_ne.mpr hkind]
    rfl

/-- The entry of a name is its count, if names with an entry have been counted. -/
theorem Calls.get?_eq_count {calls : Calls} {name : String}
    (h : name ∈ Keyed.keys calls → count calls name ≠ 0) :
    Keyed.get? calls name = if count calls name = 0 then none else some (count calls name) := by
  cases hget : Keyed.get? calls name with
  | none =>
      have hcount : count calls name = 0 := by rw [count, hget, Option.getD_none]
      rw [if_pos hcount]
  | some n =>
      have hcount : count calls name = n := by rw [count, hget, Option.getD_some]
      have hmem : name ∈ Keyed.keys calls :=
        Keyed.mem_keys_of_get? (by rw [hget, Option.isSome_some])
      rw [if_neg (h hmem), hcount]

namespace Definition

variable {source : Source} {definition : Definition}

/-- The counts of a record are those of the loops and the calls of its own places. -/
theorem tallied_of_record {record : Record} (h : definition.record source = .ok record) :
    record.toProgress.Tallied
      ((definition.body.own.filter (·.node.kind.isLoop)).map fun site =>
        Node.loopsIn (site.node :: site.above))
      (definition.body.own.filterMap fun site => source.calledName? site.node) := by
  rcases exists_progress_of_record h with ⟨progress, hfold, rfl⟩
  have htallied := Body.tallied_foldlM Progress.tallied_start hfold
  rw [List.nil_append, List.nil_append, Node.reached_eq_own, List.filterMap_map,
    List.filterMap_map] at htallied
  -- A walk counts a loop one deeper than the loops above it: it is on its own way down.
  have hloops : (definition.body.own.filter (·.node.kind.isLoop)).map (fun site =>
      Node.loopsIn (site.node :: site.above))
      = definition.body.own.filterMap
        (Body.loopDepth? ∘ fun site => (site.node, Node.loopsIn site.above)) := by
    rw [← List.filterMap_eq_map, List.filterMap_filter]
    refine List.filterMap_congr fun site _ => ?_
    simp only [Function.comp_apply, Body.loopDepth?, Node.loopsIn_cons, Node.innerDepth]
    split <;> rfl
  rw [hloops]
  exact htallied

/-- The numbers of a record. Loops are counted once each, and nest as deep as there are
    loops on the way down to the deepest, itself included. A name has as many calls as
    there are calls of it, no entry if there are none, and its place is that of its first
    call. Self-calls are the calls with a name that call the function. -/
theorem counts_of_record {record : Record} (h : definition.record source = .ok record) :
    record.loopCount = definition.body.own.countP (·.node.kind.isLoop) ∧
    record.nestingDepth = ((definition.body.own.filter (·.node.kind.isLoop)).map fun site =>
      Node.loopsIn (site.node :: site.above)).max?.getD 0 ∧
    (∀ name, Keyed.get? record.calls name
      = let calls := definition.body.own.countP fun site =>
          source.calledName? site.node == some name
        if calls = 0 then none else some calls) ∧
    Keyed.keys record.calls
      = (definition.body.own.filterMap fun site => source.calledName? site.node).eraseDups ∧
    record.selfCalls = definition.body.own.countP fun site =>
      (source.calledName? site.node).isSome && source.isSelfCall definition.name site.node := by
  have htallied := tallied_of_record h
  refine ⟨?_, ?_, fun name => ?_, htallied.keys_eq, ?_⟩
  · rw [htallied.loopCount_eq, List.length_map, List.countP_eq_length_filter]
  · rw [htallied.nestingDepth_eq, List.foldl_max, Nat.zero_max]
  · have hcount := htallied.count_eq name
    rw [List.count_filterMap] at hcount
    rw [← hcount]
    refine Calls.get?_eq_count fun hmem => ?_
    rw [htallied.keys_eq, List.mem_eraseDups, ← List.count_pos_iff, ← htallied.count_eq] at hmem
    exact Nat.ne_of_gt hmem
  · rcases exists_progress_of_record h with ⟨progress, hfold, rfl⟩
    have hself := Body.selfCalls_foldlM hfold
    rw [Node.reached_eq_own, List.countP_map] at hself
    refine (hself.trans (Nat.zero_add _)).trans (List.countP_congr fun site _ => ?_)
    rw [Function.comp_apply, Body.callsItself_eq]
    exact Iff.rfl

end Definition

/-! The function `f` with the body `{for(;;){g();for(;;);}f();g()}`, which calls itself
    after two loops, one in the other. -/

namespace LoopsAndCalls

def source : Source := .ofString "\x7bfor(;;)\x7bg();for(;;);\x7df();g()\x7d"

/-- A call without arguments of a name of one letter. -/
def callAt (start : Nat) : Node :=
  ⟨{ kind := .call, start, stop := start + 3 },
    [⟨{ kind := .identifier, start, stop := start + 1, field := some .callee }, []⟩]⟩

def body : Node :=
  ⟨{ kind := .other "statement_block", start := 0, stop := 30, field := some .body },
    [⟨{ kind := .forLoop, start := 1, stop := 22 },
      [callAt 9, ⟨{ kind := .forLoop, start := 13, stop := 21 }, []⟩]⟩,
    callAt 22, callAt 26]⟩

def definition : Definition := ⟨"f", ⟨{ kind := .functionDeclaration }, [body]⟩, body⟩

def record : Record where
  loopCount := 2
  nestingDepth := 2
  selfCalls := 1
  calls := [("g", 2), ("f", 1)]
  functionName := "f"
  bodyText := "\x7bfor(;;)\x7bg();for(;;);\x7df();g()\x7d"
  recursive := true

theorem counts_of_loops_and_calls :
    definition.record source = .ok record ∧
      definition.body.own.countP (·.node.kind.isLoop) = 2 ∧
      (definition.body.own.countP fun site => source.calledName? site.node == some "g") = 2 ∧
      (definition.body.own.filterMap fun site => source.calledName? site.node).eraseDups
        = ["g", "f"] := by
  have hrecord : definition.record source = .ok record := by decide +kernel
  rcases Definition.counts_of_record hrecord with ⟨hloops, _, hcalls, hkeys, _⟩
  refine ⟨hrecord, hloops.symm, ?_, hkeys.symm⟩
  have hg := hcalls "g"
  dsimp only at hg
  split at hg
  · exact nomatch hg
  · exact (Option.some.inj hg).symm

end LoopsAndCalls

end Costwise
