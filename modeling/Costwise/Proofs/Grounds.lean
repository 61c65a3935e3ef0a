import Costwise.Proofs.Judgement
import Costwise.Proofs.Monotone

/-!
# What the Parts of a Record Rest On

A flag of a record is put up by one of several steps, and by the time the record
is read it is no longer visible which one it was. This file recovers what can be
said all the same. If a search in a loop was found, then there was a loop; if
there is a sign of logarithmic work, then a search was found or a rounding
function called; and so on for every flag except the one for a divide step.

That is false of an arbitrary series of steps. A step can name a method that was
never called, or put a division into a loop that was never entered. A walk makes
no such step, and `Step.Warranted` says what that means for each kind of step,
in terms of what was found before it. So there are two halves. A warranted step
leaves every flag with its grounds (`grounded_step`), and the steps of a walk are
warranted (`note_eq_run`).

The second half needs to know that the walk has counted the loops that it is in.
At a node with some loops around it, at least as many have been counted. This is
not kept by each note alone, because notes do not say when a loop is left.
`reached_invariant` is the induction for such a case: what is kept on the way
into a node and on the way out of it again is kept by the walk.

## Main definitions

* `Step.Warranted`: A step has its reason in what was found before it.
* `Progress.WarrantedRun`: So has each step of a series.
* `Progress.Grounded`: What is found rests on something.

## Theorems

* `grounded_step`, `grounded_run`: Warranted steps leave grounds for what is found.
* `note_eq_run`: What is noted at a node is a series of warranted steps.
* `reached_invariant`: What is kept into and out of a node, a walk keeps.
* `grounds_of_record`: What the parts of a record say about each other.
-/

namespace Costwise

open Syntax

theorem Keyed.mem_put {α : Type} {entries : Keyed α} {key : String} {value : α}
    {entry : String × α} (h : entry ∈ put key value entries) :
    entry = (key, value) ∨ entry ∈ entries := by
  induction entries with
  | nil => exact .inl (List.mem_singleton.mp h)
  | cons first rest ih =>
      rcases first with ⟨known, old⟩
      rw [put] at h
      by_cases hknown : known = key
      · rw [if_pos hknown] at h
        rcases List.mem_cons.mp h with rfl | h
        · exact .inl (by rw [hknown])
        · exact .inr (List.mem_cons_of_mem _ h)
      · rw [if_neg hknown] at h
        rcases List.mem_cons.mp h with rfl | h
        · exact .inr List.mem_cons_self
        · exact (ih h).imp_right (List.mem_cons_of_mem _)

/-- Whether a step has its reason in what was found before it: a loop is no deeper
    than the loops that were counted, a method or a rounding function was called, a
    division in a loop comes after a loop, and a self-call confirms a search only if
    the text looks like one. -/
def Step.Warranted (signals : Signals) (progress : Progress) : Step → Prop
  | loop depth => depth ≤ progress.loopCount + 1
  | confirmSearch =>
    signals.halvesRounded = true ∧ signals.returns = true ∧ signals.accumulates = false
  | method name => 0 < Calls.count progress.calls name
  | rounding => ∃ name ∈ Source.roundingFunctions, 0 < Calls.count progress.calls name
  | division _ inLoop => inLoop = true → 0 < progress.loopCount
  | _ => True

namespace Progress

/-- Each step of a series has its reason in what was found before it. -/
def WarrantedRun (signals : Signals) (progress : Progress) : List Step → Prop
  | [] => True
  | first :: rest =>
    first.Warranted signals progress ∧ WarrantedRun signals (progress.step signals first) rest

/-- What was found rests on something. Calls are counted from one, loops nest at most
    as deep as there are loops, and each flag has one of its reasons beside it. -/
structure Grounded (signals : Signals) (progress : Progress) : Prop where
  count_pos : ∀ entry ∈ progress.calls, 0 < entry.2
  nested_le : progress.nestingDepth ≤ progress.loopCount
  of_recursiveSearch : progress.recursiveSearch = true →
    progress.logarithmic = true ∧ signals.returns = true ∧
      ((signals.relates = true ∧ signals.namesBounds = true) ∨
        (signals.halvesRounded = true ∧ signals.accumulates = false))
  of_binarySearch : progress.binarySearch = true →
    0 < progress.loopCount ∧ signals.assigns = true ∧ signals.relates = true
  of_linear : progress.linear = true →
    ∃ name ∈ Signals.walkingMethods, 0 < Calls.count progress.calls name
  of_logarithmic : progress.logarithmic = true →
    progress.recursiveSearch = true ∨ progress.binarySearch = true ∨
      ∃ name ∈ Source.roundingFunctions, 0 < Calls.count progress.calls name

variable {signals : Signals} {progress : Progress}

theorem grounded_start (signals : Signals) : Grounded signals {} where
  count_pos _ h := absurd h List.not_mem_nil
  nested_le := Nat.le_refl 0
  of_recursiveSearch h := absurd h Bool.false_ne_true
  of_binarySearch h := absurd h Bool.false_ne_true
  of_linear h := absurd h Bool.false_ne_true
  of_logarithmic h := absurd h Bool.false_ne_true

theorem Grounded.confirmSearch (h : progress.Grounded signals) (hreturns : signals.returns = true)
    (hreason : (signals.relates = true ∧ signals.namesBounds = true) ∨
      (signals.halvesRounded = true ∧ signals.accumulates = false)) :
    progress.confirmSearch.Grounded signals :=
  { h with
    of_recursiveSearch := fun _ => ⟨rfl, hreturns, hreason⟩
    of_logarithmic := fun _ => .inl rfl }

theorem Grounded.divide (h : progress.Grounded signals) (divisor : Binary64) {inLoop : Bool}
    (hloop : inLoop = true → 0 < progress.loopCount) :
    (progress.divide signals divisor inLoop).Grounded signals := by
  rw [Progress.divide]
  split
  · split
    · rename_i hsearch
      simp only [Bool.and_eq_true] at hsearch
      rcases hsearch with ⟨⟨⟨_, hrelates⟩, hreturns⟩, hbounds⟩
      exact h.confirmSearch hreturns (.inl ⟨hrelates, hbounds⟩)
    · exact { h with }
  · split
    · rename_i hsearch
      simp only [Bool.and_eq_true] at hsearch
      rcases hsearch with ⟨⟨⟨hinside, _⟩, hassigns⟩, hrelates⟩
      exact { h with
        of_recursiveSearch := fun hflag => ⟨rfl, (h.of_recursiveSearch hflag).2⟩
        of_binarySearch := fun _ => ⟨hloop hinside, hassigns, hrelates⟩
        of_logarithmic := fun _ => .inr (.inl rfl) }
    · exact { h with }

/-- A call is counted, and what rests on calls rests on them still. -/
theorem Grounded.call (h : progress.Grounded signals) (name : String) :
    (progress.step signals (.call name)).Grounded signals := by
  have hcount : ∀ other, Calls.count progress.calls other
      ≤ Calls.count (Calls.add name 1 progress.calls) other :=
    fun other => Calls.count_le_count_add progress.calls name other 1
  refine { h with count_pos := ?_, of_linear := ?_, of_logarithmic := ?_ }
  · intro entry hentry
    rcases Keyed.mem_put hentry with rfl | hold
    · exact Nat.succ_pos _
    · exact h.count_pos entry hold
  · intro hflag
    rcases h.of_linear hflag with ⟨method, hmethod, hpos⟩
    exact ⟨method, hmethod, Nat.lt_of_lt_of_le hpos (hcount method)⟩
  · intro hflag
    rcases h.of_logarithmic hflag with hsearch | hsearch | ⟨function, hfunction, hpos⟩
    · exact .inl hsearch
    · exact .inr (.inl hsearch)
    · exact .inr (.inr ⟨function, hfunction, Nat.lt_of_lt_of_le hpos (hcount function)⟩)

theorem grounded_step {step : Step} (hstep : step.Warranted signals progress)
    (h : progress.Grounded signals) : (progress.step signals step).Grounded signals := by
  cases step with
  | loop depth =>
      have hdepth : depth ≤ progress.loopCount + 1 := hstep
      have hnested := h.nested_le
      exact { h with
        nested_le := by
          simp only [Progress.step]
          omega
        of_binarySearch := fun hflag => ⟨Nat.succ_pos _, (h.of_binarySearch hflag).2⟩ }
  | call name => exact h.call name
  | selfCall => exact { h with }
  | confirmSearch =>
      rcases hstep with ⟨hhalves, hreturns, hnot⟩
      exact h.confirmSearch hreturns (.inr ⟨hhalves, hnot⟩)
  | method name =>
      refine { h with of_linear := fun hflag => ?_ }
      -- The flag was up before, or the method is one that walks.
      have hor : progress.linear = true ∨ Signals.walkingMethods.contains name = true := by
        simpa only [Progress.step, divideIf, Bool.or_eq_true] using hflag
      rcases hor with hbefore | hwalks
      · exact h.of_linear hbefore
      · exact ⟨name, List.contains_iff_mem.mp hwalks, hstep⟩
  | rounding =>
      exact { h with
        of_recursiveSearch := fun hflag => ⟨rfl, (h.of_recursiveSearch hflag).2⟩
        of_logarithmic := fun _ => .inr (.inr hstep) }
  | division divisor inLoop => exact h.divide divisor hstep
  | comparison inLoop => exact { h with }
  | access computed property => exact { h with }
  | shift inLoop => exact { h with }

theorem grounded_run {steps : List Step} (hsteps : progress.WarrantedRun signals steps)
    (h : progress.Grounded signals) : (progress.run signals steps).Grounded signals := by
  induction steps generalizing progress with
  | nil => exact h
  | cons first rest ih =>
      rw [run_cons]
      exact ih hsteps.2 (grounded_step hsteps.1 h)

theorem warrantedRun_append {first second : List Step}
    (hfirst : progress.WarrantedRun signals first)
    (hsecond : (progress.run signals first).WarrantedRun signals second) :
    progress.WarrantedRun signals (first ++ second) := by
  induction first generalizing progress with
  | nil => exact hsecond
  | cons step rest ih => exact ⟨hfirst.1, ih hfirst.2 hsecond⟩

end Progress

/-- A rounding call is counted under the name of the rounding function. -/
theorem Syntax.Source.calleeName?_of_isRoundingCall {source : Source} {call : Node}
    (h : source.isRoundingCall call = true) :
    ∃ name ∈ roundingFunctions, source.calleeName? call = some name := by
  unfold isRoundingCall at h
  unfold calleeName?
  cases hcallee : call.callee? with
  | none =>
      rw [hcallee] at h
      exact absurd h Bool.false_ne_true
  | some callee =>
      simp only [hcallee, Bool.and_eq_true, beq_iff_eq, Option.any_eq_true] at h
      rcases h with ⟨⟨hmember, _⟩, name, hname, hrounding⟩
      have hidentifier : callee.kind ≠ .identifier := by
        rw [hmember]
        decide
      refine ⟨name, List.contains_iff_mem.mp hrounding, ?_⟩
      simp only [if_neg hidentifier, if_pos hmember, hname]

namespace Body

variable {body : Body} {progress : Progress}

theorem looksLikeSearch_of_narrowsRange {call : Node} (h : body.narrowsRange call = .ok true) :
    body.looksLikeSearch = true := by
  unfold narrowsRange at h
  split at h
  · rename_i hlooks
    exact hlooks.2
  · exact absurd (Except.ok.inj h) Bool.false_ne_true

theorem warrantedRun_selfCallFindings {call : Node} {steps : List Step}
    (h : body.selfCallFindings call = .ok steps) :
    progress.WarrantedRun body.signals steps := by
  unfold selfCallFindings at h
  split at h
  · rcases exists_of_map_eq_ok h with ⟨narrows, hnarrows, rfl⟩
    cases narrows with
    | false => exact ⟨trivial, trivial⟩
    | true =>
        have hlooks := looksLikeSearch_of_narrowsRange hnarrows
        simp only [looksLikeSearch, Bool.and_eq_true, Bool.not_eq_true'] at hlooks
        exact ⟨trivial, ⟨hlooks.1.1, hlooks.1.2, hlooks.2⟩, trivial⟩
  · rw [← Except.ok.inj h]
    exact trivial

/-- What a call means besides that it was made is warranted once it is counted. -/
theorem warrantedRun_callExtras {call : Node} {name : String}
    (hname : body.source.calleeName? call = some name)
    (hcount : 0 < Calls.count progress.calls name) :
    progress.WarrantedRun body.signals (body.callExtras call name) := by
  have hrounding : ∀ later : Progress, progress.Kept later →
      later.WarrantedRun body.signals
        (if body.source.isRoundingCall call then [.rounding] else []) := by
    intro later hkept
    split
    · rename_i hrounds
      rcases Source.calleeName?_of_isRoundingCall hrounds with ⟨function, hfunction, hcalled⟩
      have hsame : function = name := Option.some.inj (hcalled.symm.trans hname)
      refine ⟨⟨function, hfunction, ?_⟩, trivial⟩
      rw [hsame]
      exact Nat.lt_of_lt_of_le hcount (hkept.count_le name)
    · exact trivial
  rw [callExtras]
  refine Progress.warrantedRun_append ?_ (hrounding _ (progress.kept_run body.signals _))
  split
  · exact ⟨hcount, trivial⟩
  · exact trivial

theorem warrantedRun_callFindings {call : Node} {steps : List Step}
    (h : body.callFindings call = .ok steps) : progress.WarrantedRun body.signals steps := by
  cases hname : body.source.calleeName? call with
  | none =>
      simp only [callFindings, hname] at h
      rw [← Except.ok.inj h]
      exact trivial
  | some name =>
      rw [callFindings_of_calleeName? hname] at h
      rcases exists_of_map_eq_ok h with ⟨selfCall, hselfCall, rfl⟩
      -- The call is counted first, and everything after it can rely on that.
      have hcounted : 0 < Calls.count (progress.step body.signals (.call name)).calls name := by
        simp only [Progress.step, Calls.count_add_self]
        omega
      refine ⟨trivial, Progress.warrantedRun_append (warrantedRun_selfCallFindings hselfCall) ?_⟩
      have hkept :=
        Progress.kept_run body.signals (progress.step body.signals (.call name)) selfCall
      exact warrantedRun_callExtras hname (Nat.lt_of_lt_of_le hcounted (hkept.count_le name))

theorem warrantedRun_operatorFindings {node : Node} {inLoop : Bool} {steps : List Step}
    (hloop : inLoop = true → 0 < progress.loopCount)
    (h : body.operatorFindings node inLoop = .ok steps) :
    progress.WarrantedRun body.signals steps := by
  unfold operatorFindings at h
  split at h
  · rcases exists_of_map_eq_ok h with ⟨divisor, _, rfl⟩
    cases divisor with
    | none => exact trivial
    | some value => exact ⟨hloop, trivial⟩
  · split at h
    · rw [← Except.ok.inj h]
      exact ⟨trivial, trivial⟩
    · split at h
      · rw [← Except.ok.inj h]
        exact ⟨trivial, trivial⟩
      · rw [← Except.ok.inj h]
        exact trivial

theorem warrantedRun_findings {node : Node} {inLoop : Bool} {steps : List Step}
    (hloop : inLoop = true → 0 < progress.loopCount)
    (h : body.findings node inLoop = .ok steps) : progress.WarrantedRun body.signals steps := by
  unfold findings at h
  cases hkind : node.kind <;> simp only [hkind] at h
  case call => exact warrantedRun_callFindings h
  case binary => exact warrantedRun_operatorFindings hloop h
  case compoundAssignment => exact warrantedRun_operatorFindings hloop h
  -- Every other kind means an access or nothing, and neither needs a reason.
  all_goals
    rw [← Except.ok.inj h]
    first | exact trivial | exact ⟨trivial, trivial⟩

/-- What is noted at a node is a series of warranted steps, if the loops around the node
    have been counted. -/
theorem note_eq_run {next : Progress} {stop : Node × Nat}
    (hdepth : stop.2 ≤ progress.loopCount) (h : body.note progress stop = .ok next) :
    ∃ steps, progress.WarrantedRun body.signals steps ∧
      next = progress.run body.signals steps := by
  unfold note at h
  split at h
  · refine ⟨[.loop (stop.2 + 1 : Nat)], ⟨?_, trivial⟩, (Except.ok.inj h).symm⟩
    simp only [Step.Warranted]
    omega
  · rcases exists_of_map_eq_ok h with ⟨steps, hfindings, hnext⟩
    refine ⟨steps, warrantedRun_findings (fun hinside => ?_) hfindings, hnext.symm⟩
    exact Nat.lt_of_lt_of_le (of_decide_eq_true hinside) hdepth

/-- A loop is counted when the walk enters it, so the children of a node have as many
    loops counted as stand around them. -/
theorem innerDepth_le_loopCount {next : Progress} {node : Node} {depth : Nat}
    (hdepth : depth ≤ progress.loopCount) (h : body.note progress (node, depth) = .ok next) :
    node.innerDepth depth ≤ next.loopCount := by
  rw [Node.innerDepth]
  split
  · rename_i hloop
    rw [note, if_pos hloop] at h
    rw [← Except.ok.inj h]
    exact Nat.succ_le_succ hdepth
  · rcases note_eq_run hdepth h with ⟨steps, _, rfl⟩
    exact Nat.le_trans hdepth (progress.kept_run body.signals steps).loopCount_le

/-- What is kept in each tree of a row is kept in the row. The loops around the trees
    are the same for all of them. -/
theorem row_invariant {motive : Progress → Prop} {nodes : List Node} {depth : Nat}
    (hnodes : ∀ node ∈ nodes, ∀ start last, motive start →
      (node.reached depth).foldlM body.note start = .ok last → motive last)
    {start last : Progress} (hstart : motive start)
    (hlast : (nodes.flatMap (Node.reached depth)).foldlM body.note start = .ok last) :
    motive last := by
  induction nodes generalizing start with
  | nil =>
      rw [← Except.ok.inj hlast]
      exact hstart
  | cons node rest ih =>
      rw [List.flatMap_cons, List.foldlM_append] at hlast
      rcases exists_of_bind_eq_ok hlast with ⟨next, hnext, hrest⟩
      have hkept := hnodes node List.mem_cons_self start next hstart hnext
      exact ih (fun later hlater => hnodes later (List.mem_cons_of_mem _ hlater)) hkept hrest

/-- What is kept when a node is noted, on the way in, and when it is left again, a walk
    keeps from its first node to its last. The number of loops around a place is part
    of what is kept. -/
theorem reached_invariant (body : Body) {motive : Nat → Progress → Prop}
    (hnote : ∀ node depth progress next, motive depth progress →
      body.note progress (node, depth) = .ok next → motive (node.innerDepth depth) next)
    (hleave : ∀ (node : Node) depth progress, motive (node.innerDepth depth) progress →
      motive depth progress)
    {node : Node} {depth : Nat} {start last : Progress} (hstart : motive depth start)
    (hlast : (node.reached depth).foldlM body.note start = .ok last) : motive depth last := by
  induction node using Node.induction generalizing depth start last with
  | step node ih =>
      cases hsep : node.isSeparate with
      | true =>
          rw [Node.reached_of_isSeparate hsep] at hlast
          rw [← Except.ok.inj hlast]
          exact hstart
      | false =>
          rw [Node.reached_of_not_isSeparate hsep, List.foldlM_cons] at hlast
          rcases exists_of_bind_eq_ok hlast with ⟨next, hnext, hrest⟩
          have hinner := hnote node depth start next hstart hnext
          refine hleave node depth last ?_
          exact row_invariant (fun child hchild _ _ => ih child hchild) hinner hrest

end Body

namespace Definition

variable {source : Source} {definition : Definition}

theorem grounded_of_record {record : Record} (h : definition.record source = .ok record) :
    record.toProgress.Grounded record.signals := by
  rcases exists_progress_of_record h with ⟨progress, hfold, rfl⟩
  have hkept : progress.Grounded (definition.inside source).signals ∧ 0 ≤ progress.loopCount := by
    refine (definition.inside source).reached_invariant
      (motive := fun depth progress =>
        progress.Grounded (definition.inside source).signals ∧ depth ≤ progress.loopCount)
      ?_ ?_ ⟨Progress.grounded_start _, Nat.le_refl 0⟩ hfold
    · rintro node depth before next ⟨hgrounded, hdepth⟩ hnext
      rcases Body.note_eq_run hdepth hnext with ⟨steps, hwarranted, hrun⟩
      refine ⟨?_, Body.innerDepth_le_loopCount hdepth hnext⟩
      rw [hrun]
      exact Progress.grounded_run hwarranted hgrounded
    · rintro node depth after ⟨hgrounded, hdepth⟩
      refine ⟨hgrounded, Nat.le_trans ?_ hdepth⟩
      rw [Node.innerDepth]
      split <;> omega
  exact hkept.1

/-- What the parts of every record say about each other. A function counts as recursive
    if a self-call was counted, and each self-call is a call under its name. Calls are
    counted from one, and loops nest if and only if there are some, at most as deep as
    there are loops. A confirmed search, a search in a loop, a walk through an array
    and a sign of logarithmic work each come with what they were found by. -/
theorem grounds_of_record {record : Record} (h : definition.record source = .ok record) :
    (record.recursive = true ↔ 1 ≤ record.selfCalls) ∧
    record.selfCalls ≤ Calls.count record.calls definition.name ∧
    (∀ entry ∈ record.calls, 1 ≤ entry.2) ∧
    record.nestingDepth ≤ record.loopCount ∧
    (record.nestingDepth = 0 ↔ record.loopCount = 0) ∧
    (record.recursiveSearch = true →
      record.recursive = true ∧ record.logarithmic = true ∧ record.signals.returns = true ∧
        ((record.signals.relates = true ∧ record.signals.namesBounds = true) ∨
          (record.signals.halvesRounded = true ∧ record.signals.accumulates = false))) ∧
    (record.binarySearch = true →
      record.logarithmic = true ∧ 0 < record.loopCount ∧
        record.signals.assigns = true ∧ record.signals.relates = true) ∧
    (record.linear = true →
      ∃ name ∈ Keyed.keys record.calls, name ∈ Signals.walkingMethods) ∧
    (record.logarithmic = true →
      record.recursiveSearch = true ∨ record.binarySearch = true ∨
        ∃ name ∈ Keyed.keys record.calls, name ∈ Source.roundingFunctions) := by
  rcases walked_of_record h with ⟨⟨hconsistent, hrecursive⟩, hname⟩
  have hgrounded := grounded_of_record h
  rw [hname] at hconsistent
  -- A name that is counted is one of the keys.
  have hkeys : ∀ names : List String, (∃ name ∈ names, 0 < Calls.count record.calls name) →
      ∃ name ∈ Keyed.keys record.calls, name ∈ names := by
    rintro names ⟨name, hmem, hpos⟩
    exact ⟨name, Calls.mem_keys_of_count_pos hpos, hmem⟩
  have hrecursive : record.recursive = true ↔ 1 ≤ record.selfCalls := by
    rw [hrecursive, Progress.isRecursive, decide_eq_true_eq]
    exact Iff.rfl
  have hnested : record.nestingDepth = 0 ↔ record.loopCount = 0 := by
    have hpos := hconsistent.nested_iff
    omega
  refine ⟨hrecursive, hconsistent.selfCalls_le, hgrounded.count_pos, hgrounded.nested_le,
    hnested, ?_, ?_, ?_, ?_⟩
  · intro hsearch
    exact ⟨hrecursive.mpr (hconsistent.recursive_of_search hsearch),
      hgrounded.of_recursiveSearch hsearch⟩
  · intro hsearch
    exact ⟨hconsistent.logarithmic_of_search hsearch, hgrounded.of_binarySearch hsearch⟩
  · intro hlinear
    exact hkeys _ (hgrounded.of_linear hlinear)
  · intro hlogarithmic
    rcases hgrounded.of_logarithmic hlogarithmic with hsearch | hsearch | hrounding
    · exact .inl hsearch
    · exact .inr (.inl hsearch)
    · exact .inr (.inr (hkeys _ hrounding))

end Definition

/-! The function `f` of `function f() { while (a < b) a = Math.floor(a / 2); }`, which
    halves in a loop. -/

namespace HalvingLoop

def source : Source :=
  .ofString "function f() \x7b while (a < b) a = Math.floor(a / 2); \x7d"

def callee : Node :=
  ⟨{ index := 4, kind := .member, start := 33, stop := 43, field := some .callee },
    [⟨{ index := 5, kind := .identifier, start := 33, stop := 37, field := some .object }, []⟩,
      ⟨{ index := 6, kind := .other "property_identifier", start := 38, stop := 43,
         field := some .property }, []⟩]⟩

def division : Node :=
  ⟨{ index := 8, kind := .binary, start := 44, stop := 49 },
    [⟨{ index := 9, kind := .other "/", named := false, start := 46, stop := 47,
        field := some .operator }, []⟩,
      ⟨{ index := 10, kind := .number, start := 48, stop := 49, field := some .right }, []⟩]⟩

def body : Node :=
  ⟨{ index := 1, kind := .other "statement_block", start := 13, stop := 53, field := some .body },
    [⟨{ index := 2, kind := .whileLoop, start := 15, stop := 51 },
      [⟨{ index := 3, kind := .call, start := 33, stop := 50 },
        [callee,
          ⟨{ index := 7, kind := .other "arguments", start := 43, stop := 50,
             field := some .arguments }, [division]⟩]⟩]⟩]⟩

def definition : Definition :=
  ⟨"f", ⟨{ kind := .functionDeclaration, stop := 53 }, [body]⟩, body⟩

def record : Record where
  loopCount := 1
  nestingDepth := 1
  calls := [("floor", 1)]
  logarithmic := true
  binarySearch := true
  functionName := "f"
  bodyText := "\x7b while (a < b) a = Math.floor(a / 2); \x7d"
  signals :=
    { compares := true, relates := true, assigns := true, halves := true, halvesRounded := true }

/-- The search in the loop was found by a loop, an assignment and a comparison. -/
theorem grounds_of_halving_loop :
    definition.record source = .ok record ∧ record.binarySearch = true ∧
      record.logarithmic = true ∧ 0 < record.loopCount ∧ record.signals.assigns = true ∧
      record.signals.relates = true := by
  have hrecord : definition.record source = .ok record := by decide +kernel
  rcases Definition.grounds_of_record hrecord with ⟨_, _, _, _, _, _, hsearch, _⟩
  exact ⟨hrecord, rfl, hsearch rfl⟩

end HalvingLoop

end Costwise
