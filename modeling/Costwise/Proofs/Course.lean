import Costwise.Proofs.Site
import Costwise.Proofs.Traversal

/-!
# The Course of a Walk

A walk keeps two records of the loops it is in. Every item of the agenda carries
a flag, and a counter goes up when a loop is entered and down when a mark on the
agenda says that it has ended. `visit`, the same walk by recursion, has neither:
it hands the number of loops down. This file shows that the three agree at every
moment, and that nodes are taken off the agenda in the order of the tree.

A moment of a walk is a `Stage`, and `turn` is what the walk does between two of
them. What holds the two records together is the agenda itself. The counter is
the number of marks on it, and the flag of an item says whether there is a mark
behind it (`InStep`). Each turn keeps that, and at the end the agenda is empty,
so nothing is counted.

The order is a law of conservation. What has been taken off the agenda, followed
by what the rest of the agenda will come to (`due`), is the same list before and
after a turn. At the start it is everything there is to come to, at the end it is
what was taken off.

## Main definitions

* `Body.Stage`, `Body.Pop`: A moment of a walk, and a node that is taken up in it.
* `Body.turn`: What a walk does between two moments.
* `Body.Passes`: The moments of a walk, with the nodes taken up before.
* `Body.Stage.InStep`: Counter, flags and marks agree.
* `Node.met`: The places that a walk comes to.

## Theorems

* `walk_eq_ok_iff_passes`: The walk is the repetition of turns.
* `inStep_turn`: A turn keeps counter, flags and marks in step.
* `due_turn`: A turn takes the next node off what is due.
* `entered_eq_met`: What is due at the start, place by place.
* `visit_eq_foldlM`: The recursion notes the nodes reached.
* `record_eq_visit`: A walk is the recursion, moment by moment.
-/

namespace Costwise

open Syntax

namespace Syntax.Node

/-- The number of loops in a row of nodes. -/
def loopsIn (nodes : List Node) : Nat :=
  nodes.countP (·.kind.isLoop)

theorem loopsIn_cons (node : Node) (nodes : List Node) :
    loopsIn (node :: nodes) = node.innerDepth (loopsIn nodes) := by
  rw [loopsIn, List.countP_cons, innerDepth, ← loopsIn]
  split <;> rfl

end Syntax.Node

namespace Body

/-- A moment of a walk: the loops counted, what has been found, and what is left. -/
structure Stage where
  depth : Nat
  progress : Progress
  agenda : List Task

/-- A node that is taken off the agenda, with its flag and the loops counted then. -/
structure Pop where
  node : Node
  inLoop : Bool
  depth : Nat

/-- The node that is taken off the agenda next, unless a loop ends. -/
def Stage.pop? (stage : Stage) : Option Pop :=
  match stage.agenda with
  | .visit node inLoop :: _ => some ⟨node, inLoop, stage.depth⟩
  | _ => none

/-- What a walk does between two moments, nothing if the agenda is empty. -/
def turn (body : Body) (stage : Stage) : Except Literal.Overflow (Option Stage) :=
  match stage.agenda with
  | [] => .ok none
  | .leave :: agenda => .ok (some ⟨stage.depth - 1, stage.progress, agenda⟩)
  | .visit node inLoop :: agenda =>
    if node.isSeparate then .ok (some ⟨stage.depth, stage.progress, agenda⟩)
    else if node.kind.isLoop then
      .ok (some ⟨stage.depth + 1,
        stage.progress.step body.signals (.loop (stage.depth + 1 : Nat)),
        Task.visits node.children true ++ .leave :: agenda⟩)
    else (body.findings node inLoop).map fun steps =>
      some ⟨stage.depth, stage.progress.run body.signals steps,
        Task.visits node.children inLoop ++ agenda⟩

/-- The moments of a walk from a start on, each with the nodes taken up before it. -/
inductive Passes (body : Body) (start : Stage) : List Pop → Stage → Prop
  /-- Nothing is taken up before the start. -/
  | start : Passes body start [] start
  /-- A turn leads on. -/
  | turn {history : List Pop} {stage next : Stage} (before : Passes body start history stage)
      (turned : body.turn stage = .ok (some next)) :
      Passes body start (history ++ stage.pop?.toList) next

/-- Where a walk starts. -/
def Stage.first (node : Node) : Stage :=
  ⟨0, {}, [.visit node false]⟩

section Turns

variable {body : Body} {stage next : Stage}

/-- Everything that a turn can do: note the end of a loop, pass over a separate node,
    enter a loop, or take in what any other node means. -/
theorem turn_cases (h : body.turn stage = .ok (some next)) :
    (∃ agenda, stage.agenda = .leave :: agenda ∧
      next = ⟨stage.depth - 1, stage.progress, agenda⟩) ∨
    ∃ node inLoop agenda, stage.agenda = .visit node inLoop :: agenda ∧
      ((node.isSeparate = true ∧ next = ⟨stage.depth, stage.progress, agenda⟩) ∨
        (node.isSeparate = false ∧ node.kind.isLoop = true ∧
          next = ⟨stage.depth + 1,
            stage.progress.step body.signals (.loop (stage.depth + 1 : Nat)),
            Task.visits node.children true ++ .leave :: agenda⟩) ∨
        (node.isSeparate = false ∧ node.kind.isLoop = false ∧
          ∃ steps, body.findings node inLoop = .ok steps ∧
            next = ⟨stage.depth, stage.progress.run body.signals steps,
              Task.visits node.children inLoop ++ agenda⟩)) := by
  unfold turn at h
  split at h
  · cases h
  · rename_i agenda hagenda
    exact .inl ⟨agenda, hagenda, (Option.some.inj (Except.ok.inj h)).symm⟩
  · rename_i node inLoop agenda hagenda
    refine .inr ⟨node, inLoop, agenda, hagenda, ?_⟩
    split at h
    · rename_i hsep
      exact .inl ⟨hsep, (Option.some.inj (Except.ok.inj h)).symm⟩
    · rename_i hsep
      have hsep := eq_false_of_ne_true hsep
      split at h
      · rename_i hloop
        exact .inr (.inl ⟨hsep, hloop, (Option.some.inj (Except.ok.inj h)).symm⟩)
      · rename_i hloop
        cases hfindings : body.findings node inLoop with
        | error overflow =>
            rw [hfindings] at h
            cases h
        | ok steps =>
            rw [hfindings] at h
            exact .inr (.inr ⟨hsep, eq_false_of_ne_true hloop, steps, rfl,
              (Option.some.inj (Except.ok.inj h)).symm⟩)

/-- The walk from a moment on is a turn and the walk from the moment after it. -/
theorem walk_eq_turn (body : Body) (stage : Stage) :
    body.walk stage.depth stage.progress stage.agenda
      = body.turn stage >>= fun next? => match next? with
        | none => .ok (stage.depth, stage.progress)
        | some next => body.walk next.depth next.progress next.agenda := by
  rcases stage with ⟨depth, progress, agenda⟩
  cases agenda with
  | nil =>
      rw [walk]
      rfl
  | cons task agenda =>
      cases task with
      | leave =>
          rw [walk]
          rfl
      | visit node inLoop =>
          rw [walk, turn]
          dsimp only
          split
          · rfl
          · split
            · rfl
            · cases body.findings node inLoop <;> rfl

theorem walk_eq_of_passes {start : Stage} {history : List Pop}
    (h : Passes body start history stage) :
    body.walk start.depth start.progress start.agenda
      = body.walk stage.depth stage.progress stage.agenda := by
  induction h with
  | start => rfl
  | turn before turned ih =>
      rw [ih, walk_eq_turn, turned]
      rfl

theorem agenda_eq_nil_of_turn (h : body.turn stage = .ok none) : stage.agenda = [] := by
  unfold turn at h
  split at h
  · assumption
  · cases h
  · rename_i node inLoop agenda hagenda
    split at h
    · cases h
    · split at h
      · cases h
      · cases hfindings : body.findings node inLoop with
        | error overflow =>
            rw [hfindings] at h
            cases h
        | ok steps =>
            rw [hfindings] at h
            cases h

/-- A turn leaves less to do. -/
theorem agendaCost_turn_lt (h : body.turn stage = .ok (some next)) :
    agendaCost next.agenda < agendaCost stage.agenda := by
  rcases turn_cases h with ⟨agenda, hagenda, rfl⟩ | ⟨node, inLoop, agenda, hagenda, h⟩
  · rw [hagenda, agendaCost_cons, Task.cost]
    dsimp only
    omega
  · rw [hagenda, agendaCost_cons, Task.cost, Node.size_eq]
    rcases h with ⟨_, rfl⟩ | ⟨_, _, rfl⟩ | ⟨_, _, _, _, rfl⟩
    · dsimp only
      omega
    · simp only [agendaCost_append, agendaCost_visits, agendaCost_cons, Task.cost]
      omega
    · simp only [agendaCost_append, agendaCost_visits]
      omega

/-- A walk that ends has passed on to an empty agenda. -/
theorem exists_passes_of_walk {start stage : Stage} {history : List Pop} {depth : Nat}
    {progress : Progress} (hpasses : Passes body start history stage)
    (h : body.walk stage.depth stage.progress stage.agenda = .ok (depth, progress)) :
    ∃ history, Passes body start history ⟨depth, progress, []⟩ := by
  rw [walk_eq_turn] at h
  cases hturn : body.turn stage with
  | error overflow =>
      rw [hturn] at h
      exact nomatch h
  | ok next? =>
      rw [hturn] at h
      cases next? with
      | none =>
          have hend := agenda_eq_nil_of_turn hturn
          rcases stage with ⟨_, _, _⟩
          rcases Prod.mk.inj (Except.ok.inj h) with ⟨rfl, rfl⟩
          rw [← hend]
          exact ⟨history, hpasses⟩
      | some next => exact exists_passes_of_walk (hpasses.turn hturn) h
termination_by agendaCost stage.agenda
decreasing_by exact agendaCost_turn_lt hturn

/-- A walk gives what is found at the empty agenda that it passes on to. -/
theorem walk_eq_ok_iff_passes (body : Body) (start : Stage) {depth : Nat} {progress : Progress} :
    body.walk start.depth start.progress start.agenda = .ok (depth, progress) ↔
      ∃ history, Passes body start history ⟨depth, progress, []⟩ := by
  constructor
  · exact exists_passes_of_walk .start
  · rintro ⟨history, hpasses⟩
    rw [walk_eq_of_passes hpasses, walk]

end Turns

/-- The marks on an agenda, each for a loop that has not ended. -/
def marks : List Task → Nat
  | [] => 0
  | .leave :: agenda => marks agenda + 1
  | .visit _ _ :: agenda => marks agenda

/-- Every flag on an agenda says whether there is a mark behind it. -/
def Flagged : List Task → Prop
  | [] => True
  | .leave :: agenda => Flagged agenda
  | .visit _ inLoop :: agenda => inLoop = decide (0 < marks agenda) ∧ Flagged agenda

/-- The counter is the number of marks, and the flags say where the marks are. -/
structure Stage.InStep (stage : Stage) : Prop where
  depth_eq : stage.depth = marks stage.agenda
  flagged : Flagged stage.agenda

section InStep

variable {body : Body} {stage next : Stage}

theorem marks_visits (nodes : List Node) (inLoop : Bool) (agenda : List Task) :
    marks (Task.visits nodes inLoop ++ agenda) = marks agenda := by
  induction nodes with
  | nil => rfl
  | cons node rest ih => exact ih

/-- Nodes may go on an agenda with a flag that says whether there is a mark behind them. -/
theorem flagged_visits {nodes : List Node} {inLoop : Bool} {agenda : List Task}
    (hflag : inLoop = decide (0 < marks agenda)) (h : Flagged agenda) :
    Flagged (Task.visits nodes inLoop ++ agenda) := by
  induction nodes with
  | nil => exact h
  | cons node rest ih =>
      have hrest : marks (Task.visits rest inLoop ++ agenda) = marks agenda := marks_visits _ _ _
      exact ⟨hflag.trans (by rw [← hrest]; rfl), ih⟩

theorem inStep_first (node : Node) : (Stage.first node).InStep :=
  ⟨rfl, rfl, trivial⟩

/-- A turn keeps counter, flags and marks in step. A loop that is entered counts and
    puts a mark behind its children, and a mark that is taken off is counted down. -/
theorem inStep_turn (h : body.turn stage = .ok (some next)) (hstep : stage.InStep) :
    next.InStep := by
  rcases hstep with ⟨hdepth, hflagged⟩
  rcases turn_cases h with ⟨agenda, hagenda, rfl⟩ | ⟨node, inLoop, agenda, hagenda, h⟩
  · rw [hagenda] at hdepth hflagged
    exact ⟨by dsimp only; rw [hdepth, marks, Nat.add_sub_cancel], hflagged⟩
  · rw [hagenda, marks] at hdepth
    rw [hagenda] at hflagged
    rcases hflagged with ⟨hflag, hflagged⟩
    rcases h with ⟨_, rfl⟩ | ⟨_, _, rfl⟩ | ⟨_, _, _, _, rfl⟩
    · exact ⟨hdepth, hflagged⟩
    · constructor
      · rw [marks_visits, marks, hdepth]
      · exact flagged_visits (decide_eq_true (Nat.succ_pos _)).symm hflagged
    · constructor
      · rw [marks_visits, hdepth]
      · exact flagged_visits hflag hflagged

theorem Passes.inStep {start : Stage} {history : List Pop} (h : Passes body start history stage)
    (hstart : start.InStep) : stage.InStep := by
  induction h with
  | start => exact hstart
  | turn _ turned ih => exact inStep_turn turned ih

end InStep

end Body

namespace Syntax.Node

mutual

/-- The nodes that a walk comes to in a tree, with some loops around it. A separate node
    is come to, and nothing below it. -/
def entered (depth : Nat) : Node → List Body.Pop
  | ⟨entry, children⟩ =>
    let node : Node := ⟨entry, children⟩
    ⟨node, decide (0 < depth), depth⟩ ::
      if node.isSeparate then [] else enteredAll (node.innerDepth depth) children

/-- The nodes that a walk comes to in a row of trees. -/
def enteredAll (depth : Nat) : List Node → List Body.Pop
  | [] => []
  | node :: nodes => node.entered depth ++ enteredAll depth nodes

end

theorem enteredAll_eq_flatMap (depth : Nat) (nodes : List Node) :
    enteredAll depth nodes = nodes.flatMap (entered depth) := by
  induction nodes with
  | nil => rw [enteredAll, List.flatMap_nil]
  | cons node rest ih => rw [enteredAll, List.flatMap_cons, ih]

theorem entered_eq (node : Node) (depth : Nat) :
    node.entered depth = ⟨node, decide (0 < depth), depth⟩ ::
      if node.isSeparate then [] else node.children.flatMap (entered (node.innerDepth depth)) := by
  cases node
  rw [entered, enteredAll_eq_flatMap]

end Syntax.Node

namespace Body

/-- What the rest of an agenda will come to, with some loops counted. -/
def due : Nat → List Task → List Pop
  | _, [] => []
  | depth, .leave :: agenda => due (depth - 1) agenda
  | depth, .visit node _ :: agenda => node.entered depth ++ due depth agenda

theorem due_visits (depth : Nat) (nodes : List Node) (inLoop : Bool) (agenda : List Task) :
    due depth (Task.visits nodes inLoop ++ agenda)
      = nodes.flatMap (Node.entered depth) ++ due depth agenda := by
  induction nodes with
  | nil => rfl
  | cons node rest ih =>
      have hrest : due depth (Task.visits (node :: rest) inLoop ++ agenda)
          = node.entered depth ++ due depth (Task.visits rest inLoop ++ agenda) := rfl
      rw [hrest, ih, List.flatMap_cons, List.append_assoc]

/-- The flag of a node that is taken up says whether a loop is counted. -/
theorem pop?_of_inStep {stage : Stage} {node : Node} {inLoop : Bool} {agenda : List Task}
    (hagenda : stage.agenda = .visit node inLoop :: agenda) (hstep : stage.InStep) :
    stage.pop? = some ⟨node, decide (0 < stage.depth), stage.depth⟩ := by
  rcases hstep with ⟨hdepth, hflagged⟩
  rw [hagenda] at hdepth hflagged
  have hflag : inLoop = decide (0 < stage.depth) := by
    rw [hdepth]
    exact hflagged.1
  rw [Stage.pop?, hagenda, hflag]

/-- A turn takes the next node off what is due, and leaves the rest of it due. -/
theorem due_turn {body : Body} {stage next : Stage} (h : body.turn stage = .ok (some next))
    (hstep : stage.InStep) :
    stage.pop?.toList ++ due next.depth next.agenda = due stage.depth stage.agenda := by
  rcases turn_cases h with ⟨agenda, hagenda, rfl⟩ | ⟨node, inLoop, agenda, hagenda, h⟩
  · rw [Stage.pop?, hagenda]
    rfl
  · rw [pop?_of_inStep hagenda hstep, hagenda, due, Node.entered_eq, Node.innerDepth]
    rcases h with ⟨hsep, rfl⟩ | ⟨hsep, hloop, rfl⟩ | ⟨hsep, hloop, _, _, rfl⟩
    · rw [hsep, if_pos rfl]
      rfl
    · rw [hsep, hloop, if_neg Bool.false_ne_true, if_pos rfl, due_visits]
      rfl
    · rw [hsep, hloop, if_neg Bool.false_ne_true, if_neg Bool.false_ne_true, due_visits]
      rfl

/-- The node that is taken up next is the first that is due, also if the walk ends there
    with a number that is too large. -/
theorem pop?_prefix_due {stage : Stage} (hstep : stage.InStep) :
    stage.pop?.toList <+: due stage.depth stage.agenda := by
  cases hagenda : stage.agenda with
  | nil =>
      rw [Stage.pop?, hagenda]
      exact List.nil_prefix
  | cons task agenda =>
      cases task with
      | leave =>
          rw [Stage.pop?, hagenda]
          exact List.nil_prefix
      | visit node inLoop =>
          rw [pop?_of_inStep hagenda hstep, due, Node.entered_eq]
          exact List.prefix_append [_] _

/-- What was taken up and what is due make up the same list at every moment. -/
theorem Passes.append_due {body : Body} {start stage : Stage} {history : List Pop}
    (h : Passes body start history stage) (hstart : start.InStep) :
    history ++ due stage.depth stage.agenda = due start.depth start.agenda := by
  induction h with
  | start => rfl
  | turn before turned ih =>
      rw [List.append_assoc, due_turn turned (before.inStep hstart), ih]

end Body

namespace Syntax.Node

theorem above_suffix_of_mem_sites {node : Node} {above : List Node} {bound : Bool} {site : Site}
    (h : site ∈ node.sites above bound) : above <:+ site.above := by
  induction node using Node.induction generalizing above bound with
  | step node ih =>
      rw [sites_eq_flatMap] at h
      rcases List.mem_cons.mp h with rfl | h
      · exact List.suffix_refl _
      · rcases List.mem_flatMap.mp h with ⟨child, hchild, h⟩
        have hsuffix := ih child.1 (mem_children_of_markedChildren hchild) h
        exact (List.suffix_cons node above).trans hsuffix

end Syntax.Node

/-- Whether no node above a site is separate. -/
def Site.isOpen (site : Site) : Bool :=
  site.above.all (!·.isSeparate)

/-- A node as a walk that comes to it should take it up: inside a loop if there is one
    above it, and with as many loops counted as there are. -/
def Site.pop (site : Site) : Body.Pop :=
  ⟨site.node, decide (0 < Node.loopsIn site.above), Node.loopsIn site.above⟩

namespace Syntax.Node

/-- The places in a tree that a walk comes to, in preorder: all that have no separate
    node above them. -/
def met (root : Node) : List Site :=
  (root.sites [] false).filter Site.isOpen

/-- What a walk comes to below some nodes, none of them separate, are the open sites, and
    the loops around each are those above it. -/
theorem entered_eq_filter {node : Node} {above : List Node}
    (habove : ∀ on ∈ above, on.isSeparate = false) (bound : Bool) :
    node.entered (loopsIn above)
      = ((node.sites above bound).filter Site.isOpen).map Site.pop := by
  induction node using Node.induction generalizing above bound with
  | step node ih =>
      have hopen : Site.isOpen ⟨node, above, bound⟩ = true := by
        rw [Site.isOpen, List.all_eq_true]
        intro on hon
        rw [habove on hon]
        rfl
      rw [entered_eq, sites_eq_flatMap, List.filter_cons_of_pos hopen, List.map_cons]
      congr 1
      rw [List.filter_flatMap, List.map_flatMap]
      cases hsep : node.isSeparate with
      | true =>
          -- Below a separate node no site is open.
          rw [if_pos rfl, eq_comm, List.flatMap_eq_nil_iff]
          intro child _
          rw [List.map_eq_nil_iff, List.filter_eq_nil_iff]
          intro site hsite hopen
          have hmem : node ∈ site.above :=
            (above_suffix_of_mem_sites hsite).subset List.mem_cons_self
          have hnode := List.all_eq_true.mp hopen node hmem
          rw [hsep] at hnode
          exact nomatch hnode
      | false =>
          rw [if_neg Bool.false_ne_true, ← loopsIn_cons,
            ← map_fst_marked node.boundFunction?.isSome node.children, List.flatMap_map]
          refine List.flatMap_congr fun child hchild => ?_
          refine ih child.1 (mem_children_of_markedChildren hchild) (fun on hon => ?_) child.2
          rcases List.mem_cons.mp hon with rfl | hon
          · exact hsep
          · exact habove on hon

theorem entered_eq_met (root : Node) : root.entered 0 = root.met.map Site.pop :=
  entered_eq_filter (fun _ hon => absurd hon List.not_mem_nil) false

end Syntax.Node

namespace Body

variable (body : Body)

theorem visitAll_eq_foldlM {nodes : List Node} {depth : Nat}
    (hnodes : ∀ node ∈ nodes, ∀ progress,
      body.visit depth progress node = (node.reached depth).foldlM body.note progress)
    (progress : Progress) :
    body.visitAll depth progress nodes
      = (nodes.flatMap (Node.reached depth)).foldlM body.note progress := by
  induction nodes generalizing progress with
  | nil => rfl
  | cons node rest ih =>
      rw [visitAll, hnodes node List.mem_cons_self, List.flatMap_cons, List.foldlM_append]
      cases (node.reached depth).foldlM body.note progress with
      | error overflow => rfl
      | ok next => exact ih (fun later hlater => hnodes later (List.mem_cons_of_mem _ hlater)) next

theorem visit_eq (depth : Nat) (progress : Progress) (node : Node) :
    body.visit depth progress node
      = if node.isSeparate then .ok progress
        else if node.kind.isLoop then
          body.visitAll (depth + 1) (progress.step body.signals (.loop (depth + 1 : Nat)))
            node.children
        else match body.findings node (decide (0 < depth)) with
          | .error overflow => .error overflow
          | .ok steps => body.visitAll depth (progress.run body.signals steps) node.children := by
  cases node
  unfold visit
  rfl

/-- The recursion notes the nodes reached, one after the other. -/
theorem visit_eq_foldlM (node : Node) (depth : Nat) (progress : Progress) :
    body.visit depth progress node = (node.reached depth).foldlM body.note progress := by
  induction node using Node.induction generalizing depth progress with
  | step node ih =>
      rw [visit_eq]
      cases hsep : node.isSeparate with
      | true =>
          rw [if_pos rfl, Node.reached_of_isSeparate hsep]
          rfl
      | false =>
          rw [if_neg Bool.false_ne_true, Node.reached_of_not_isSeparate hsep, List.foldlM_cons,
            note, Node.innerDepth]
          cases hloop : node.kind.isLoop with
          | true =>
              rw [if_pos rfl, if_pos rfl, if_pos rfl]
              exact body.visitAll_eq_foldlM (fun child hchild => ih child hchild _) _
          | false =>
              rw [if_neg Bool.false_ne_true, if_neg Bool.false_ne_true, if_neg Bool.false_ne_true]
              cases body.findings node (decide (0 < depth)) with
              | error overflow => rfl
              | ok steps => exact body.visitAll_eq_foldlM (fun child hchild => ih child hchild _) _

/-- A walk ends with what the recursion gives, and with no loop counted. -/
theorem walk_first_eq_visit (node : Node) :
    body.walk 0 {} [.visit node false]
      = (body.visit 0 {} node).map fun progress => (0, progress) := by
  have hwalk := body.walk_visit node 0 {} []
  rw [decide_eq_false (Nat.lt_irrefl 0)] at hwalk
  rw [hwalk, visit_eq_foldlM]
  cases (node.reached 0).foldlM body.note {} with
  | error overflow => rfl
  | ok progress =>
      simp only [bind, Except.bind, walk]
      rfl

end Body

/-- A walk is the recursion, moment by moment.

    The record of a function, and the failure if there is none, is what the recursion
    gives from its body on, and the walk ends with no loop counted. At every moment of
    the walk, what was taken off the agenda, the node at hand included, is the beginning
    of the list of open sites: each in its turn, with a flag that says whether there is a
    loop above it, and with as many loops counted as are above it. A loop only ends when
    one is counted. Where the agenda is empty all open sites have had their turn, and the
    walk gives a result if and only if it gets there. -/
theorem Definition.record_eq_visit (source : Source) (definition : Definition) :
    definition.record source
      = ((definition.inside source).visit 0 {} definition.body).map (fun progress =>
        progress.seal definition.name (source.text definition.body)
          (definition.inside source).signals) ∧
    (definition.inside source).walk 0 {} [.visit definition.body false]
      = ((definition.inside source).visit 0 {} definition.body).map (fun progress =>
        (0, progress)) ∧
    (∀ history stage, (definition.inside source).Passes (.first definition.body) history stage →
      history ++ stage.pop?.toList <+: definition.body.met.map Site.pop ∧
      (∀ agenda, stage.agenda = .leave :: agenda → 0 < stage.depth) ∧
      (stage.agenda = [] → history = definition.body.met.map Site.pop ∧ stage.depth = 0)) ∧
    (∀ depth progress, (definition.inside source).walk 0 {} [.visit definition.body false]
        = .ok (depth, progress) ↔
      ∃ history, (definition.inside source).Passes (.first definition.body) history
        ⟨depth, progress, []⟩) := by
  refine ⟨?_, Body.walk_first_eq_visit _ _, fun history stage hpasses => ?_,
    fun _ _ => Body.walk_eq_ok_iff_passes _ (.first definition.body)⟩
  · rw [record_eq_foldlM, Body.visit_eq_foldlM]
  · have hstep := hpasses.inStep (Body.inStep_first _)
    have hdue := hpasses.append_due (Body.inStep_first _)
    have hfirst : Body.due (Body.Stage.first definition.body).depth
        (Body.Stage.first definition.body).agenda = definition.body.met.map Site.pop := by
      rw [← Node.entered_eq_met]
      exact List.append_nil _
    rw [hfirst] at hdue
    refine ⟨?_, fun agenda hagenda => ?_, fun hagenda => ?_⟩
    · rw [← hdue]
      exact (List.prefix_append_right_inj history).mpr (Body.pop?_prefix_due hstep)
    · rw [hstep.depth_eq, hagenda]
      exact Nat.succ_pos _
    · rw [hstep.depth_eq]
      rw [hagenda, Body.due, List.append_nil] at hdue
      rw [hagenda]
      exact ⟨hdue, rfl⟩

/-! The body of `() => { for (;;) () => 0; a }`: a loop with a separate function in it, and
    a name after it. -/

namespace LoopThenName

def body : Node :=
  ⟨{ index := 1, kind := .other "statement_block", field := some .body },
    [⟨{ index := 2, kind := .forLoop },
      [⟨{ index := 3, kind := .arrow },
        [⟨{ index := 4, kind := .number, field := some .body }, []⟩]⟩]⟩,
    ⟨{ index := 5, kind := .identifier }, []⟩]⟩

def definition : Definition :=
  ⟨"f", ⟨{ kind := .arrow }, [body]⟩, body⟩

/-- The function in the loop is taken up with one loop counted, and the name after the
    loop with none. The number is never taken up. -/
theorem pops_of_loop_then_name :
    ∃ history progress,
      (definition.inside (.ofString "")).Passes (.first body) history ⟨0, progress, []⟩ ∧
      history.map (fun pop => (pop.node.index, pop.inLoop, pop.depth))
        = [(1, false, 0), (2, false, 0), (3, true, 1), (5, false, 0)] := by
  have hwalk : (definition.inside (.ofString "")).walk 0 {} [.visit definition.body false]
      = .ok (0, { loopCount := 1, nestingDepth := 1 }) := by decide +kernel
  rcases definition.record_eq_visit (.ofString "") with ⟨_, _, hmoments, hends⟩
  rcases (hends _ _).mp hwalk with ⟨history, hpasses⟩
  refine ⟨history, _, hpasses, ?_⟩
  rw [((hmoments _ _ hpasses).2.2 rfl).1]
  decide +kernel

end LoopThenName

end Costwise
