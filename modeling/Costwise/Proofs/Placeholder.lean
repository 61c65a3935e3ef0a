import Costwise.Proofs.Judgement
import Costwise.Proofs.Site
import Mathlib.Data.Fintype.EquivFin

/-!
# The Placeholder for Functions Without a Name

An arrow function that is bound to nothing is judged under a placeholder. The
placeholder is there to be displayed, so which one is used should not matter.
But the walk of a function takes the name of the function to tell self-calls
from other calls, and it takes the placeholder for a name. A function that
nobody can call, because it has no name, counts as recursive if it calls a
function that happens to be called like the placeholder.

`Uncalled` says that this does not happen. Between placeholders that are not
called, nothing changes but the names that are displayed. And the condition is
exact: measured against a placeholder that is not called, one that is called
changes the count of self-calls of some function.

What a program defines does not depend on the placeholder, so the definitions
are listed here once, as drafts in which the name may still be open.

## Main definitions

* `Draft`: A function to be judged, whose name may still be open.
* `Program.drafts`: The functions of a program before the placeholder is set.
* `Program.Uncalled`: No function without a name calls a given name.
* `Verdict.nameless`: A verdict without the name of the function.

## Theorems

* `definitions_eq_map_fill`: The definitions are the drafts, filled in.
* `Draft.judged_eq_of_not_calls`: A name that is not called is not looked at.
* `Draft.not_calls_of_judged_eq`: A name that is called shows in the verdict.
* `exists_uncalled`: There is always a placeholder that is not called.
* `verdicts_eq_iff_uncalled`: Which placeholders are for display only.
-/

namespace Costwise

open Syntax

/-- A function to be judged, before it gets a placeholder if it has no name. -/
structure Draft where
  /-- The name, if it has one. -/
  name? : Option String
  /-- The function. -/
  function : Node
  /-- Its body. -/
  body : Node

/-- The definition that a draft becomes under a placeholder. -/
def Draft.fill (placeholder : String) (draft : Draft) : Definition :=
  ⟨draft.name?.getD placeholder, draft.function, draft.body⟩

/-- The draft at a node. An arrow function that is claimed as such has no name. -/
def Syntax.Node.draft? (source : Source) (node : Node) : Option Draft :=
  if node.kind = .arrow then (node.child? .body).map fun body => ⟨none, node, body⟩
  else
    (Definition.ofNode? source "" node).map fun definition =>
      ⟨some definition.name, definition.function, definition.body⟩

/-- The functions of a program before the placeholder is set, in preorder. -/
def Syntax.Program.drafts (program : Program) : List Draft :=
  (program.root.sites [] false).filterMap fun site =>
    if site.bound then none else site.node.draft? program.source

theorem Definition.claim?_of_arrow {source : Source} {anonymous : String} {node : Node}
    (h : node.kind = .arrow) : claim? source anonymous node = some (anonymous, node) := by
  simp only [claim?, h, Kind.isDeclaration, Node.bindingName?]
  rfl

theorem Definition.claim?_of_not_arrow {source : Source} {node : Node} (h : node.kind ≠ .arrow)
    (p q : String) : claim? source p node = claim? source q node := by
  simp only [claim?, if_neg h]

theorem Syntax.Node.ofNode?_eq_map_fill (source : Source) (placeholder : String) (node : Node) :
    Definition.ofNode? source placeholder node
      = (node.draft? source).map (Draft.fill placeholder) := by
  unfold draft? Definition.ofNode?
  -- Only an arrow is claimed under the placeholder, and a binding is no arrow.
  by_cases h : node.kind = .arrow
  · rw [if_pos h, Definition.claim?_of_arrow h, Option.map_map]
    rfl
  · rw [if_neg h, Definition.claim?_of_not_arrow h placeholder ""]
    cases Definition.claim? source "" node with
    | none => rfl
    | some claimed => simp only [Option.map_map, Function.comp_def, Draft.fill, Option.getD_some]

namespace Syntax.Program

theorem definitions_eq_map_fill (program : Program) (placeholder : String) :
    program.definitions placeholder = program.drafts.map (Draft.fill placeholder) := by
  rw [definitions_eq_filterMap, drafts, List.map_filterMap]
  congr 1
  funext site
  rw [Site.definition?]
  cases site.bound with
  | true => rfl
  | false => exact site.node.ofNode?_eq_map_fill program.source placeholder

end Syntax.Program

/-- A record without the name of the function. -/
def Record.nameless (record : Record) : Record :=
  { record with functionName := "" }

/-- A verdict without the name of the function. Its lines, its class and the rest of
    its record stay. -/
def Verdict.nameless (verdict : Verdict) : Verdict :=
  { verdict with name := "", record := verdict.record.nameless }

/-- The name of a function that does not call itself has no part in its class: only
    the rules for recursive functions ask for helpers. -/
theorem Record.growth_nameless {record : Record} (h : record.recursive = false) :
    record.nameless.growth = record.growth := by
  have happlies : Rule.applies record.nameless = Rule.applies record := by
    funext rule
    cases rule with
    | recursiveDivideAndConquer => simp only [Rule.applies, nameless, h, Bool.false_and]
    | _ => rfl
  simp only [growth, rule, happlies]

namespace Body

variable {source : Source} {signals : Signals} {p q : String}

/-- A node that is a self-call under neither of two names means the same under both. -/
theorem findings_eq_of_not_callsItself {node : Node} (inLoop : Bool)
    (hp : callsItself ⟨source, p, signals⟩ node = false)
    (hq : callsItself ⟨source, q, signals⟩ node = false) :
    findings ⟨source, p, signals⟩ node inLoop = findings ⟨source, q, signals⟩ node inLoop := by
  unfold callsItself at hp hq
  unfold findings
  split
  next hcall =>
    rw [hcall, beq_self_eq_true, Bool.true_and] at hp hq
    simp only [callFindings, selfCallFindings, hp, hq, Bool.false_eq_true, if_false]
  all_goals rfl

theorem foldlM_note_eq_of_not_callsItself {stops : List (Node × Nat)}
    (hp : ∀ stop ∈ stops, callsItself ⟨source, p, signals⟩ stop.1 = false)
    (hq : ∀ stop ∈ stops, callsItself ⟨source, q, signals⟩ stop.1 = false)
    (progress : Progress) :
    stops.foldlM (note ⟨source, p, signals⟩) progress
      = stops.foldlM (note ⟨source, q, signals⟩) progress := by
  induction stops generalizing progress with
  | nil => rw [List.foldlM_nil, List.foldlM_nil]
  | cons stop rest ih =>
      have hnote : note ⟨source, p, signals⟩ progress stop
          = note ⟨source, q, signals⟩ progress stop := by
        rw [note, note, findings_eq_of_not_callsItself _ (hp stop List.mem_cons_self)
          (hq stop List.mem_cons_self)]
      rw [List.foldlM_cons, List.foldlM_cons, hnote]
      congr 1
      funext next
      exact ih (fun later hlater => hp later (List.mem_cons_of_mem _ hlater))
        (fun later hlater => hq later (List.mem_cons_of_mem _ hlater)) next

end Body

namespace Draft

/-- Whether the walk of a function takes up a call that calls a name. -/
def calls (source : Source) (name : String) (draft : Draft) : Bool :=
  (draft.body.reached 0).any fun stop =>
    stop.1.kind == .call && source.isSelfCall name stop.1

/-- The verdict on a draft under a placeholder, without the name. -/
def judged (source : Source) (placeholder : String) (draft : Draft) :
    Except Literal.Overflow Verdict :=
  ((draft.fill placeholder).verdict source).map Verdict.nameless

variable {source : Source} {draft : Draft} {p q : String}

theorem not_callsItself_of_not_calls {name : String} (h : draft.calls source name = false)
    (signals : Signals) :
    ∀ stop ∈ draft.body.reached 0, Body.callsItself ⟨source, name, signals⟩ stop.1 = false :=
  fun stop hstop => eq_false_of_ne_true (List.any_eq_false.mp h stop hstop)

/-- The walk of a function without a name counts the calls of its placeholder as
    self-calls. -/
theorem selfCalls_of_judged (hname : draft.name? = none) {verdict : Verdict}
    (h : draft.judged source p = .ok verdict) :
    verdict.record.selfCalls = (draft.body.reached 0).countP fun stop =>
      stop.1.kind == .call && source.isSelfCall p stop.1 := by
  rcases exists_of_map_eq_ok h with ⟨named, hnamed, rfl⟩
  rcases exists_of_map_eq_ok hnamed with ⟨record, hrecord, rfl⟩
  rcases Definition.exists_progress_of_record hrecord with ⟨progress, hfold, rfl⟩
  have hcount := Body.selfCalls_foldlM hfold
  simp only [Definition.inside, fill, hname, Option.getD_none, Nat.zero_add] at hcount
  exact hcount

theorem judged_eq_of_not_calls
    (hp : draft.name? = none → draft.calls source p = false)
    (hq : draft.name? = none → draft.calls source q = false) :
    draft.judged source p = draft.judged source q := by
  cases hname : draft.name? with
  | some name =>
      -- A function with a name never gets the placeholder.
      rw [judged, judged, fill, fill, hname, Option.getD_some, Option.getD_some]
  | none =>
      have hfold := Body.foldlM_note_eq_of_not_callsItself
        (not_callsItself_of_not_calls (hp hname) (Signals.ofText (source.chars draft.body)))
        (not_callsItself_of_not_calls (hq hname) (Signals.ofText (source.chars draft.body))) {}
      rw [judged, judged, Definition.verdict, Definition.verdict, Definition.record_eq_foldlM,
        Definition.record_eq_foldlM, Definition.inside, Definition.inside, fill, fill, hname,
        Option.getD_none, Option.getD_none, hfold]
      cases hlast : (draft.body.reached 0).foldlM
          (Body.note ⟨source, q, Signals.ofText (source.chars draft.body)⟩) {} with
      | error overflow => rfl
      | ok progress =>
          -- No self-call was counted, so the name has no part in the class either.
          have hcount : progress.selfCalls = 0 := by
            rw [Body.selfCalls_foldlM hlast, List.countP_eq_zero.mpr]
            intro stop hstop
            rw [not_callsItself_of_not_calls (hq hname) _ stop hstop]
            exact Bool.false_ne_true
          have hrecursive : progress.isRecursive = false := by
            rw [Progress.isRecursive, hcount]
            rfl
          have hgrowth : ∀ name text signals,
              (progress.seal name text signals).nameless.growth
                = (progress.seal name text signals).growth :=
            fun _ _ _ => Record.growth_nameless hrecursive
          simp only [Except.map, Verdict.nameless, ← hgrowth]
          rfl

theorem not_calls_of_judged_eq (hname : draft.name? = none)
    (hq : draft.calls source q = false) {verdict : Verdict}
    (hverdict : draft.judged source q = .ok verdict)
    (heq : draft.judged source p = draft.judged source q) : draft.calls source p = false := by
  -- Equal verdicts have counted equally many self-calls, and under `q` there are none.
  have hcount := (selfCalls_of_judged hname (heq.trans hverdict)).symm.trans
    (selfCalls_of_judged hname hverdict)
  have hnone : (draft.body.reached 0).countP (fun stop =>
      stop.1.kind == .call && source.isSelfCall q stop.1) = 0 :=
    List.countP_eq_zero.mpr (List.any_eq_false.mp hq)
  rw [hnone] at hcount
  exact List.any_eq_false.mpr (List.countP_eq_zero.mp hcount)

end Draft

theorem map_mapM {α β γ ε : Type} (make : α → Except ε β) (view : β → γ) (items : List α) :
    (items.mapM make).map (List.map view) = items.mapM fun item => (make item).map view := by
  induction items with
  | nil => rfl
  | cons first rest ih =>
      rw [List.mapM_cons, List.mapM_cons, ← ih]
      cases make first with
      | error failure => rfl
      | ok head =>
          cases rest.mapM make with
          | error failure => rfl
          | ok tail => rfl

theorem mapM_eq_of_forall {α β ε : Type} {f g : α → Except ε β} {items : List α}
    (h : ∀ item ∈ items, f item = g item) : items.mapM f = items.mapM g := by
  induction items with
  | nil => rfl
  | cons first rest ih =>
      rw [List.mapM_cons, List.mapM_cons, h first List.mem_cons_self,
        ih fun item hitem => h item (List.mem_cons_of_mem _ hitem)]

/-- Two series with the same results have the same result at every item. -/
theorem exists_of_mapM_eq_ok {α β ε : Type} {f g : α → Except ε β} {items : List α}
    {made : List β} (hf : items.mapM f = .ok made) (hg : items.mapM g = .ok made) :
    ∀ item ∈ items, ∃ result, f item = .ok result ∧ g item = .ok result := by
  induction items generalizing made with
  | nil => exact fun item hitem => absurd hitem List.not_mem_nil
  | cons first rest ih =>
      rcases mapM_cons_eq_ok hf with ⟨head, tail, rfl, hffirst, hfrest⟩
      rcases mapM_cons_eq_ok hg with ⟨other, others, hmade, hgfirst, hgrest⟩
      rcases List.cons.inj hmade with ⟨rfl, rfl⟩
      intro item hitem
      rcases List.mem_cons.mp hitem with rfl | hitem
      · exact ⟨head, hffirst, hgfirst⟩
      · exact ih hfrest hgrest item hitem

namespace Syntax.Program

/-- No function without a name calls a given name. -/
def Uncalled (program : Program) (name : String) : Prop :=
  ∀ draft ∈ program.drafts, draft.name? = none → draft.calls program.source name = false

instance (program : Program) (name : String) : Decidable (program.Uncalled name) :=
  inferInstanceAs (Decidable (∀ draft ∈ program.drafts,
    draft.name? = none → draft.calls program.source name = false))

theorem map_nameless_verdicts (program : Program) (placeholder : String) :
    (program.verdicts placeholder).map (List.map Verdict.nameless)
      = program.drafts.mapM (Draft.judged program.source placeholder) := by
  rw [verdicts, definitions_eq_map_fill, List.mapM_map, map_mapM]
  rfl

/-- The class of a program is read off verdicts without names. -/
theorem map_overall_report (program : Program) (placeholder : String) :
    (program.report placeholder).map Report.overall
      = match program.fault? with
        | some _ => .ok (Growth.worst [])
        | none => ((program.verdicts placeholder).map (List.map Verdict.nameless)).map
            fun judged => Growth.worst (judged.map (·.growth)) := by
  rw [report]
  cases program.fault? with
  | some fault => rfl
  | none =>
      cases program.verdicts placeholder with
      | error overflow => rfl
      | ok judged =>
          simp only [Except.map, Report.overall, Report.verdicts, List.map_map]
          rfl

variable {program : Program} {p q : String}

theorem nameless_verdicts_eq_of_uncalled (hp : program.Uncalled p) (hq : program.Uncalled q) :
    (program.verdicts p).map (List.map Verdict.nameless)
      = (program.verdicts q).map (List.map Verdict.nameless) := by
  rw [map_nameless_verdicts, map_nameless_verdicts]
  exact mapM_eq_of_forall fun draft hdraft =>
    Draft.judged_eq_of_not_calls (hp draft hdraft) (hq draft hdraft)

theorem uncalled_of_nameless_verdicts_eq (hq : program.Uncalled q) {judged : List Verdict}
    (hp : (program.verdicts p).map (List.map Verdict.nameless) = .ok judged)
    (hjudged : (program.verdicts q).map (List.map Verdict.nameless) = .ok judged) :
    program.Uncalled p := by
  rw [map_nameless_verdicts] at hp hjudged
  intro draft hdraft hname
  rcases exists_of_mapM_eq_ok hp hjudged draft hdraft with ⟨verdict, hleft, hright⟩
  exact Draft.not_calls_of_judged_eq hname (hq draft hdraft hname) hright
    (hleft.trans hright.symm)

/-- Some placeholder is called by nobody, since only finitely many names are called. -/
theorem exists_uncalled (program : Program) : ∃ name, program.Uncalled name := by
  let called : List String := program.drafts.flatMap fun draft =>
    (draft.body.reached 0).filterMap fun stop => program.source.calleeName? stop.1
  rcases Infinite.exists_notMem_finset called.toFinset with ⟨name, hfresh⟩
  refine ⟨name, fun draft hdraft _ => ?_⟩
  rw [Draft.calls, List.any_eq_false]
  intro stop hstop hcalls
  rw [Bool.and_eq_true] at hcalls
  -- A self-call is counted under its name, which would then be among those called.
  have hname := Source.calleeName?_of_isSelfCall hcalls.2
  have hmem : name ∈ called :=
    List.mem_flatMap.mpr ⟨draft, hdraft, List.mem_filterMap.mpr ⟨stop, hstop, hname⟩⟩
  exact hfresh (List.mem_toFinset.mpr hmem)

/-- Which placeholders are for display only. There is always one that no function
    without a name calls. Any other such placeholder gives the same verdicts,
    function by function, with the same lines, the same class and the same record
    up to the name, and the same class of the program, or fails in the same way.
    A placeholder that is called never gives the same verdicts. -/
theorem verdicts_eq_iff_uncalled (program : Program) :
    (∃ q, program.Uncalled q) ∧
    ∀ p q, program.Uncalled q →
      (program.Uncalled p →
        (program.verdicts p).map (List.map Verdict.nameless)
            = (program.verdicts q).map (List.map Verdict.nameless) ∧
          (program.report p).map Report.overall = (program.report q).map Report.overall) ∧
      ∀ judged, program.verdicts q = .ok judged →
        ((program.verdicts p).map (List.map Verdict.nameless)
            = .ok (judged.map Verdict.nameless) ↔ program.Uncalled p) := by
  refine ⟨program.exists_uncalled, fun p q hq => ⟨fun hp => ?_, fun judged hjudged => ?_⟩⟩
  · have hverdicts := nameless_verdicts_eq_of_uncalled hp hq
    refine ⟨hverdicts, ?_⟩
    rw [map_overall_report, map_overall_report, hverdicts]
  · have hright : (program.verdicts q).map (List.map Verdict.nameless)
        = .ok (judged.map Verdict.nameless) := by
      rw [hjudged]
      rfl
    constructor
    · exact fun hleft => uncalled_of_nameless_verdicts_eq hq hleft hright
    · intro hp
      rw [nameless_verdicts_eq_of_uncalled hp hq, hright]

end Syntax.Program

/-! The callback of `g(() => anonymous());` has no name, so it cannot call itself. -/

namespace NamelessCallback

/-- The callback, with a call of a function named like the usual placeholder. -/
def callback : Node :=
  { index := 4, kind := .arrow, start := 2, stop := 19,
    children :=
      [{ index := 5, kind := .call, start := 8, stop := 19, field := some .body,
          children := [{ index := 6, kind := .identifier, start := 8, stop := 17,
                          field := some .callee }] }] }

def program : Program :=
  ⟨.ofString "g(() => anonymous());",
    { kind := .call, start := 0, stop := 20,
      children :=
        [{ index := 1, kind := .identifier, start := 0, stop := 1, field := some .callee },
          { index := 2, kind := .other "arguments", start := 1, stop := 20,
            field := some .arguments, children := [callback] }] }⟩

/-- The usual placeholder makes the callback recursive, and two others do not. -/
theorem growth_of_placeholders :
    program.Uncalled "lambda" ∧ program.Uncalled "arrow" ∧ ¬ program.Uncalled "anonymous" ∧
      (program.verdicts "arrow").map (List.map Verdict.nameless)
        = (program.verdicts "lambda").map (List.map Verdict.nameless) ∧
      (program.verdicts "lambda").map (List.map (·.growth)) = .ok [.constant] ∧
      (program.verdicts "anonymous").map (List.map (·.growth)) = .ok [.exponential] := by
  have hlambda : program.Uncalled "lambda" := by decide +kernel
  have harrow : program.Uncalled "arrow" := by decide +kernel
  refine ⟨hlambda, harrow, by decide +kernel, ?_, by decide +kernel, by decide +kernel⟩
  exact ((program.verdicts_eq_iff_uncalled.2 "arrow" "lambda" hlambda).1 harrow).1

end NamelessCallback

end Costwise
