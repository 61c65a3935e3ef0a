import Costwise.Proofs.Moved
import Costwise.Proofs.Ownership
import Costwise.Proofs.Placeholder

/-!
# Two Programs in One

Write one program after another and judge the whole. The result is what comes of
judging the two apart: the verdicts on the functions of the first, then those on
the functions of the second, which stand as many lines further on as the first has
ends of lines. The class of the whole is the worse of the two.

That is how it should be, and several things could spoil it. A count could go on
from one function to the next, a position could be taken from the start of the
source, the search for functions could see a boundary where there is none. Each
half of the whole is a program inside a larger source, so `Moved` has settled what
happens to it. What is left is to put the halves together: the search goes through
the children of a root one by one, verdicts are made one by one, and the worst of
several classes is the worst of their worsts.

The first half is not moved at all, and is still a case of the same lemmas, with an
offset of zero.

## Main definitions

* `Source.lineFeeds`: How many lines end in a source.
* `Program.concat`: One program after another.

## Theorems

* `definitions_concat`: The functions of two programs in one.
* `verdicts_concat`: Their verdicts.
* `Growth.rank_worst_append`: The worst of two lists of classes.
* `report_concat`: The report on two programs in one.
-/

namespace Costwise

open Syntax

theorem Growth.rank_worst_append (a b : List Growth) :
    (worst (a ++ b)).rank = max (worst a).rank (worst b).rank := by
  induction a with
  | nil => exact (Nat.zero_max _).symm
  | cons first rest ih =>
      rw [List.cons_append, worst_cons, worst_cons, rank_worse, rank_worse, ih, Nat.max_assoc]

namespace Syntax.Node

theorem moved_zero (node : Node) : node.moved 0 0 = node := by
  induction node using Node.induction with
  | step node ih =>
      rcases node with ⟨entry, children⟩
      have hchildren : children.map (moved 0 0) = children := by
        conv_rhs => rw [← List.map_id children]
        exact List.map_congr_left fun child hchild => ih child hchild
      rw [moved, movedAll_eq_map, hchildren]
      simp only [Nat.zero_add]

theorem hasFault_eq (node : Node) :
    node.hasFault = (node.isFault || node.children.any hasFault) := by
  rw [hasFault, preorder_eq_flatMap, List.any_cons, List.any_flatMap]
  rfl

theorem hasFault_moved (offset places : Nat) (node : Node) :
    (node.moved offset places).hasFault = node.hasFault := by
  rw [hasFault, preorder_moved, List.any_map, hasFault]
  congr 1
  exact funext fun found => isFault_moved offset places found

end Syntax.Node

/-- The number of line feeds in a source. -/
def Syntax.Source.lineFeeds (source : Source) : Nat :=
  source.bytes.toList.count lineFeed

/-! A source that stands at the beginning of another. Nothing is moved there. -/

section Beginning

variable {s t : Source}

theorem Definition.moved_zero (definition : Definition) : definition.moved 0 0 = definition := by
  rw [moved, Node.moved_zero, Node.moved_zero]

theorem Definition.locate_eq_of_embeddedAt (h : t.EmbeddedAt 0 s) (anonymous : String)
    (claimable : Bool) {node : Node} (hin : node.Within s) :
    locate t anonymous claimable node = locate s anonymous claimable node := by
  have hmoved : locate t anonymous claimable (node.moved 0 0)
      = (locate s anonymous claimable node).map (moved 0 0) :=
    locate_moved h anonymous claimable hin
  have hid : moved 0 0 = id := funext moved_zero
  rw [Node.moved_zero, hid, List.map_id] at hmoved
  exact hmoved

theorem Definition.verdict_eq_of_embeddedAt (h : t.EmbeddedAt 0 s) {definition : Definition}
    (hbody : definition.body.Within s) (hfunction : definition.function.Within s) :
    definition.verdict t = definition.verdict s := by
  have hmoved : (definition.moved 0 0).verdict t
      = (definition.verdict s).map (Verdict.moved (t.linesBefore 0)) :=
    verdict_moved h hbody hfunction
  have hlines : t.linesBefore 0 = 0 := by
    rw [Source.linesBefore, Source.before_eq_take, List.take_zero, List.count_nil]
  rw [moved_zero, hlines] at hmoved
  rw [hmoved]
  cases definition.verdict s with
  | error overflow => rfl
  | ok verdict => simp only [Except.map, Verdict.moved, Int.natCast_zero, Int.zero_add]

end Beginning

namespace Syntax.Program

variable {program first second : Program}

/-- One program after another, under a root of its own. The second begins where the
    bytes of the first end, and its nodes get other numbers. -/
def concat (top : Entry) (places : Nat) (first second : Program) : Program where
  source := ⟨first.source.bytes ++ second.source.bytes⟩
  root :=
    ⟨top, first.root.children ++
      second.root.children.map (Node.moved first.source.bytes.size places)⟩

section Halves

variable (top : Entry) (places : Nat)

theorem embeddedAt_left (first second : Program) :
    (concat top places first second).source.EmbeddedAt 0 first.source :=
  ⟨[], second.source.bytes.toList, Array.toList_append, rfl⟩

theorem embeddedAt_right (first second : Program) :
    (concat top places first second).source.EmbeddedAt first.source.bytes.size second.source := by
  refine ⟨first.source.bytes.toList, [], ?_, Array.length_toList⟩
  rw [List.append_nil]
  exact Array.toList_append

/-- The lines of the first program end before the second begins. -/
theorem linesBefore_concat (first second : Program) :
    (concat top places first second).source.linesBefore first.source.bytes.size
      = first.source.lineFeeds := by
  have hbytes : (concat top places first second).source.bytes.toList
      = first.source.bytes.toList ++ second.source.bytes.toList := Array.toList_append
  rw [Source.linesBefore, Source.before_eq_take, hbytes, ← Array.length_toList, List.take_left,
    Source.lineFeeds]

end Halves

/-- A root of the usual kind defines nothing itself, so its functions are those of its
    children, one after the other. -/
theorem definitions_eq_flatMap (hroot : program.root.kind = .other "program")
    (anonymous : String) :
    program.definitions anonymous
      = program.root.children.flatMap (Definition.locate program.source anonymous true) := by
  have hbinds : program.root.boundFunction? = none := by
    rw [Node.boundFunction?, Node.bindingName?, hroot]
  have hsep : program.root.isSeparate = false := Node.not_isSeparate_of_kind (hroot ▸ by decide)
  have hnone := Definition.ofNode?_of_not_isSeparate program.source anonymous hsep
  rw [definitions_eq_locate, Definition.locate_eq_append, if_pos rfl, hnone, Node.markedChildren,
    hbinds, Option.isSome_none, Node.marked_false, List.flatMap_map]
  rfl

theorem within_of_mem_definitions {definition : Definition} {anonymous : String}
    (hin : program.root.Within program.source)
    (h : definition ∈ program.definitions anonymous) :
    definition.body.Within program.source ∧ definition.function.Within program.source := by
  rcases Definition.mem_definitions_iff.mp h with ⟨site, hsite, hdefinition⟩
  rcases Site.definition?_eq_some_iff.mp hdefinition with ⟨_, hof⟩
  have hnode := hin.of_mem_preorder (Node.lineage_of_mem_sites hsite .root).mem_preorder
  have hfunction : definition.function.Within program.source := by
    rcases Node.definedFunction?_cases (Definition.definedFunction?_of_ofNode? hof) with
      hself | hbound
    · rw [hself]
      exact hnode
    · exact hnode.child (Node.mem_children_of_boundFunction? hbound)
  exact ⟨hfunction.child? (Definition.ofNode?_eq_some_iff.mp hof).2, hfunction⟩

theorem judged_of_report {anonymous : String} {verdicts : List Verdict}
    (h : program.report anonymous = .ok (.judged verdicts)) :
    program.root.hasFault = false ∧ program.verdicts anonymous = .ok verdicts := by
  rw [report, fault?] at h
  cases hfault : program.root.hasFault with
  | true =>
      rw [hfault] at h
      cases h
  | false =>
      rw [hfault] at h
      rcases exists_of_map_eq_ok h with ⟨made, hmade, hjudged⟩
      cases hjudged
      exact ⟨rfl, hmade⟩

/-- The root adds no fault to those of the halves. -/
theorem hasFault_concat {top : Entry} (places : Nat) (htop : top.kind = .other "program")
    (hmissing : top.missing = false) (hnone : first.root.hasFault = false)
    (hnone' : second.root.hasFault = false) :
    (concat top places first second).root.hasFault = false := by
  rw [Node.hasFault_eq, Bool.or_eq_false_iff] at hnone hnone'
  have htopmost : (concat top places first second).root.isFault = false := by
    have hkind : (concat top places first second).root.kind = .other "program" := htop
    have hpresent : (concat top places first second).root.missing = false := hmissing
    rw [Node.isFault, hkind, hpresent]
    rfl
  have hmoved : (second.root.children.map
      (Node.moved first.source.bytes.size places)).any Node.hasFault = false := by
    rw [List.any_map, ← hnone'.2]
    congr 1
    exact funext fun child => Node.hasFault_moved _ _ child
  rw [Node.hasFault_eq, htopmost, Bool.false_or]
  show (first.root.children ++ second.root.children.map
    (Node.moved first.source.bytes.size places)).any Node.hasFault = false
  rw [List.any_append, hnone.2, hmoved, Bool.false_or]

section Concat

variable {top : Entry} (places : Nat) (anonymous : String) (htop : top.kind = .other "program")
  (hfirst : first.root.kind = .other "program") (hsecond : second.root.kind = .other "program")
  (hin : first.root.Within first.source) (hin' : second.root.Within second.source)

include htop hfirst hsecond hin hin'

/-- The functions of two programs in one are those of the first and then those of the
    second, moved. -/
theorem definitions_concat :
    (concat top places first second).definitions anonymous
      = first.definitions anonymous
        ++ (second.definitions anonymous).map
          (Definition.moved first.source.bytes.size places) := by
  have hroot : (concat top places first second).root.kind = .other "program" := htop
  have hchildren : (concat top places first second).root.children
      = first.root.children ++
        second.root.children.map (Node.moved first.source.bytes.size places) := rfl
  rw [definitions_eq_flatMap hroot, definitions_eq_flatMap hfirst, definitions_eq_flatMap hsecond,
    hchildren, List.flatMap_append, List.flatMap_map, List.map_flatMap]
  congr 1
  · refine List.flatMap_congr fun child hchild => ?_
    exact Definition.locate_eq_of_embeddedAt (embeddedAt_left top places first second) anonymous
      true (hin.child hchild)
  · refine List.flatMap_congr fun child hchild => ?_
    exact Definition.locate_moved (embeddedAt_right top places first second) anonymous true
      (hin'.child hchild)

theorem verdicts_concat {verdicts others : List Verdict}
    (hverdicts : first.verdicts anonymous = .ok verdicts)
    (hothers : second.verdicts anonymous = .ok others) :
    (concat top places first second).verdicts anonymous
      = .ok (verdicts ++ others.map (Verdict.moved first.source.lineFeeds)) := by
  have hleft : (first.definitions anonymous).mapM
      (·.verdict (concat top places first second).source) = .ok verdicts := by
    rw [← hverdicts, Program.verdicts]
    refine mapM_eq_of_forall fun definition hdefinition => ?_
    rcases within_of_mem_definitions hin hdefinition with ⟨hbody, hfunction⟩
    exact Definition.verdict_eq_of_embeddedAt (embeddedAt_left top places first second) hbody
      hfunction
  have hright : ((second.definitions anonymous).map
        (Definition.moved first.source.bytes.size places)).mapM
      (·.verdict (concat top places first second).source)
      = .ok (others.map (Verdict.moved first.source.lineFeeds)) := by
    -- Moving the functions and then judging them is judging them and then moving the verdicts.
    have hmap := map_mapM (·.verdict second.source) (Verdict.moved first.source.lineFeeds)
      (second.definitions anonymous)
    rw [← Program.verdicts, hothers] at hmap
    rw [List.mapM_map]
    refine (mapM_eq_of_forall fun definition hdefinition => ?_).trans hmap.symm
    rcases within_of_mem_definitions hin' hdefinition with ⟨hbody, hfunction⟩
    rw [← linesBefore_concat top places first second]
    exact Definition.verdict_moved (embeddedAt_right top places first second) hbody hfunction
  rw [Program.verdicts, definitions_concat places anonymous htop hfirst hsecond hin hin',
    List.mapM_append, hleft, hright]
  rfl

/-- Two programs that can be judged apart can be judged as one. The whole has the
    functions of the first, then those of the second further on by the lines of the
    first, with everything else about them as it was, and its class is the worse of the
    two classes. -/
theorem report_concat (hmissing : top.missing = false) {verdicts others : List Verdict}
    (hreport : first.report anonymous = .ok (.judged verdicts))
    (hreport' : second.report anonymous = .ok (.judged others)) :
    ∃ whole,
      (concat top places first second).report anonymous = .ok whole ∧
      whole = .judged (verdicts ++ others.map (Verdict.moved first.source.lineFeeds)) ∧
      whole.overall.rank
        = max (Report.judged verdicts).overall.rank (Report.judged others).overall.rank := by
  rcases judged_of_report hreport with ⟨hnone, hverdicts⟩
  rcases judged_of_report hreport' with ⟨hnone', hothers⟩
  refine ⟨_, ?_, rfl, ?_⟩
  · rw [report, fault?, hasFault_concat places htop hmissing hnone hnone',
      verdicts_concat places anonymous htop hfirst hsecond hin hin' hverdicts hothers]
    rfl
  · have hgrowth : (others.map (Verdict.moved first.source.lineFeeds)).map (·.growth)
        = others.map (·.growth) := by
      rw [List.map_map]
      rfl
    simp only [Report.overall, Report.verdicts, List.map_append, hgrowth]
    exact Growth.rank_worst_append _ _

end Concat

end Syntax.Program

namespace TwoFunctions

/-- A program of one function, whose body ends at the given byte. -/
def program (text : String) (stop : Nat) (statements : List Node) : Program where
  source := .ofString text
  root :=
    ⟨{ kind := .other "program", stop },
      [⟨{ index := 1, kind := .functionDeclaration, stop },
        [⟨{ index := 2, kind := .identifier, start := 9, stop := 10, field := some .name }, []⟩,
          ⟨{ index := 3, kind := .other "statement_block", start := 13, stop,
             field := some .body }, statements⟩]⟩]⟩

def first : Program :=
  program "function f() \x7b \x7d\n\n" 16 []

def second : Program :=
  program "function g() \x7b\nfor (;;) \x7b \x7d \x7d" 29
    [⟨{ index := 4, kind := .forLoop, start := 15, stop := 27 }, []⟩]

def top : Entry :=
  { kind := .other "program", stop := 47 }

def verdictOnFirst : Verdict where
  name := "f"
  span := ⟨1, 1⟩
  record := { functionName := "f", bodyText := "\x7b \x7d" }
  growth := .constant

def verdictOnSecond : Verdict where
  name := "g"
  span := ⟨1, 2⟩
  record :=
    { loopCount := 1, nestingDepth := 1, functionName := "g",
      bodyText := "\x7b\nfor (;;) \x7b \x7d \x7d" }
  growth := .linear

/-- The loop of the second function makes the whole linear, and its lines are the third
    and the fourth there. -/
theorem report_two_functions :
    (Program.concat top 3 first second).report "<anonymous>"
        = .ok (.judged [verdictOnFirst, { verdictOnSecond with span := ⟨3, 4⟩ }]) ∧
      (Report.judged [verdictOnFirst, { verdictOnSecond with span := ⟨3, 4⟩ }]).overall
        = .linear := by
  have hfirst : first.report "<anonymous>" = .ok (.judged [verdictOnFirst]) := by decide +kernel
  have hsecond : second.report "<anonymous>" = .ok (.judged [verdictOnSecond]) := by
    decide +kernel
  have htop : top.kind = .other "program" := rfl
  rcases Program.report_concat 3 "<anonymous>" htop rfl rfl (by decide +kernel)
    (by decide +kernel) rfl hfirst hsecond with ⟨whole, hwhole, rfl, hoverall⟩
  have hlines : first.source.lineFeeds = 2 := by decide +kernel
  rw [hlines] at hwhole hoverall
  exact ⟨hwhole, Growth.rank_injective hoverall⟩

end TwoFunctions

end Costwise
