import Costwise.Command.Run
import Costwise.Proofs.Appearance
import Costwise.Proofs.Blocks

/-!
# The Fault That Is Reported

A program that the parser had to repair is refused, with one place in the source
where something is wrong. There may be many such places. Which one is reported
comes down to a search through the tree that stops at the first marked node, and
a reader takes it for the first place in the source.

Two things have to come together for that. The search keeps an agenda and puts the
children of a node in front of what is left, so what it has still to look at is at
every moment the rest of the tree in preorder, however deep the tree is
(`firstFault?_eq_find?`). And a node that comes later in preorder must not stand
further up in the source. Nodes are ordered by their bytes, places by line and
column, and the one order goes over into the other: a byte further on is on a later
line, or on the same line and further right (`position_le`). The column starts anew
on every line, so it is compared only if no line feed lies between the two bytes,
and then everything between them adds to it.

## Main definitions

* `Position.le`: Places are compared by line, then by column.

## Theorems

* `firstFault?_eq_find?`: The search finds the first marked node in preorder.
* `column_le_of_line_eq`: On one line, later bytes stand in later columns.
* `position_le`: Later bytes stand at later places.
* `fault_of_first`: The fault that is made of a node.
* `first_fault_refuses`: Which fault is reported, and what becomes of the program.
-/

namespace Costwise

open Syntax

namespace Syntax.Node

/-- The search finds the first marked node in preorder. The trees of the agenda are what
    is left of the tree, and a node that is not marked makes room for its children. -/
theorem firstFault?_eq_find? (agenda : List Node) :
    firstFault? agenda = (preorderAll agenda).find? isFault := by
  fun_induction firstFault? agenda with
  | case1 => rfl
  | case2 node agenda hfault =>
      rw [preorderAll, preorder_eq, List.cons_append, List.find?_cons_of_pos hfault]
  | case3 node agenda hfault ih =>
      have hrest : preorderAll (node.children ++ agenda)
          = preorderAll node.children ++ preorderAll agenda := by
        simp only [preorderAll_eq_flatMap, List.flatMap_append]
      rw [ih, hrest, preorderAll, preorder_eq, List.cons_append, List.find?_cons_of_neg hfault]

theorem firstFault?_root (root : Node) : firstFault? [root] = root.preorder.find? isFault := by
  rw [firstFault?_eq_find?, preorderAll, preorderAll, List.append_nil]

end Syntax.Node

namespace Syntax

/-- Places are compared by line, and on one line by column. -/
instance Position.le : LE Position where
  le a b := a.line < b.line ∨ a.line = b.line ∧ a.column ≤ b.column

namespace Fault

/-- Where something is, as messages say it. -/
def place (position : Position) : String :=
  " at line " ++ toString position.line ++ ", column " ++ toString position.column

theorem message_missing (kind : String) (position : Position) :
    (missing kind position).message = "Missing '" ++ kind ++ "'" ++ place position := by
  have hsplit : "' at line " = "'" ++ " at line " := by decide +kernel
  have hmessage : (missing kind position).message
      = "Missing '" ++ kind ++ "' at line " ++ toString position.line ++ ", column "
        ++ toString position.column := rfl
  simp only [hmessage, hsplit, place, String.append_assoc]

theorem message_unexpected (position : Position) :
    (unexpected position).message = "Unexpected token" ++ place position := by
  have hsplit : "Unexpected token at line " = "Unexpected token" ++ " at line " := by
    decide +kernel
  have hmessage : (unexpected position).message
      = "Unexpected token at line " ++ toString position.line ++ ", column "
        ++ toString position.column := rfl
  simp only [hmessage, hsplit, place, String.append_assoc]

/-- The two kinds of message differ in their first letter. -/
theorem message_unexpected_ne_missing (position other : Position) (kind : String) :
    (unexpected position).message ≠ (missing kind other).message := by
  have hunexpected : "Unexpected token".toList = 'U' :: "nexpected token".toList := by
    decide +kernel
  have hmissing : "Missing '".toList = 'M' :: "issing '".toList := by decide +kernel
  intro h
  have hletters := congrArg String.toList h
  simp only [message_unexpected, message_missing, String.toList_append, hunexpected, hmissing,
    List.cons_append, List.cons.injEq] at hletters
  exact absurd hletters.1 (by decide)

end Fault

namespace Source

variable (source : Source)

/-- On one line, later bytes stand in later columns. -/
theorem column_le_of_line_eq {first second : Nat} (h : first ≤ second)
    (hline : source.line first = source.line second) :
    source.column first ≤ source.column second := by
  rcases Nat.exists_eq_add_of_le h with ⟨apart, rfl⟩
  -- What lies between the two bytes is on the line, so no line feed is in it.
  let between := (source.bytes.toList.drop first).take apart
  have hbefore : source.before (first + apart) = source.before first ++ between := by
    rw [before_eq_take, before_eq_take, List.take_add]
  have hnone : ∀ byte ∈ between, (byte != lineFeed) = true := by
    intro byte hbyte
    have hcount : between.count lineFeed = 0 := by
      rw [line, line, hbefore, List.count_append] at hline
      omega
    rw [bne_iff_ne]
    intro hfeed
    exact List.count_eq_zero.mp hcount (hfeed ▸ hbyte)
  have hwhile : (between.reverse ++ (source.before first).reverse).takeWhile (· != lineFeed)
      = between.reverse ++ (source.before first).reverse.takeWhile (· != lineFeed) :=
    List.takeWhile_append_of_pos fun byte hbyte => hnone byte (List.mem_reverse.mp hbyte)
  rw [column, column, hbefore, List.reverse_append, hwhile, List.length_append]
  omega

end Source

namespace Program

variable {program : Program}

/-- Later bytes stand at later places. -/
theorem position_le {first second : Node} (h : first.start ≤ second.start) :
    program.position first ≤ program.position second := by
  have hline := program.source.line_mono h
  rcases Nat.lt_or_eq_of_le hline with hless | hsame
  · exact .inl hless
  · exact .inr ⟨hsame, program.source.column_le_of_line_eq h hsame⟩

/-- The fault that is made of the first marked node. -/
theorem fault_of_first {node : Node}
    (h : program.root.preorder.find? Node.isFault = some node) :
    program.fault
      = if node.missing then .missing node.kind.name (program.position node)
        else .unexpected (program.position node) := by
  rw [fault, Node.firstFault?_root, h]

/-- A marked node stands no further up than the first one. -/
theorem position_le_of_find? {node other : Node} (hordered : program.root.Ordered)
    (h : program.root.preorder.find? Node.isFault = some node)
    (hother : other ∈ program.root.preorder) (hfault : other.isFault = true) :
    program.position node ≤ program.position other := by
  rcases List.find?_eq_some_iff_append.mp h with ⟨_, before, after, hsplit, hbefore⟩
  rw [Node.Ordered, hsplit, List.pairwise_append, List.pairwise_cons] at hordered
  rw [hsplit] at hother
  rcases List.mem_append.mp hother with hother | hother
  · -- What comes before the first marked node is not marked.
    have hclean := hbefore other hother
    rw [hfault] at hclean
    exact absurd hclean Bool.false_ne_true
  · rcases List.mem_cons.mp hother with rfl | hother
    · exact position_le (Nat.le_refl _)
    · exact position_le (hordered.2.1.1 other hother)

theorem report_of_hasFault (h : program.root.hasFault = true) (anonymous : String) :
    program.report anonymous = .ok (.failed program.fault.message) := by
  rw [report, fault?, if_pos h]

/-- The same comes of it where a command judges the source and notes it in the log. -/
theorem judge_of_hasFault {env : Command.Environment} {code : String}
    (hprogram : program = ⟨.ofString code, env.parse code⟩) (h : program.root.hasFault = true)
    (sourceName anonymous : String) :
    ((Command.Action.judge sourceName anonymous code).perform env).1
      = .ok (.failed program.fault.message) := by
  have hfault : program.fault? = some program.fault := by rw [fault?, if_pos h]
  rw [Command.Action.judge, Command.Action.perform_bind_of_ok (Command.Action.perform_get env)]
  dsimp only
  rw [← hprogram, hfault]
  dsimp only
  rw [Command.Action.perform_bind_of_ok (Command.Action.perform_noteAbout _ _ _ env)]
  rfl

/-- Which fault is reported, and what becomes of the program.

    In a tree whose nodes start in preorder and some of which are marked, the fault is
    that of the first marked node in preorder. No marked node stands at an earlier place.
    The message says where, and that something is missing if and only if the node was
    assumed by the parser. The program is refused with that message: it has no verdicts,
    and its class is the best. -/
theorem first_fault_refuses (program : Program) (anonymous : String)
    (hordered : program.root.Ordered)
    (hmarked : ∃ node ∈ program.root.preorder, node.isFault = true) :
    ∃ before node after, program.root.preorder = before ++ node :: after ∧
      node.isFault = true ∧ (∀ earlier ∈ before, earlier.isFault = false) ∧
      program.fault? = some program.fault ∧
      program.fault.position? = some (program.position node) ∧
      (∀ other ∈ program.root.preorder, other.isFault = true →
        program.position node ≤ program.position other) ∧
      program.fault.message
        = (if node.missing then "Missing '" ++ node.kind.name ++ "'" else "Unexpected token")
          ++ " at line " ++ toString (program.position node).line
          ++ ", column " ++ toString (program.position node).column ∧
      ((∃ kind position, program.fault.message = (Fault.missing kind position).message) ↔
        node.missing = true) ∧
      (∃ report, program.report anonymous = .ok report ∧
        report.error? = some program.fault.message ∧ report.verdicts = [] ∧
        report.overall = .constant ∧
        ∀ sourceName code env, program = ⟨.ofString code, env.parse code⟩ →
          ((Command.Action.judge sourceName anonymous code).perform env).1 = .ok report) := by
  have hfault : program.root.hasFault = true := List.any_eq_true.mpr hmarked
  have hsome : (program.root.preorder.find? Node.isFault).isSome = true := by
    rw [List.find?_isSome]
    exact hmarked
  rcases Option.isSome_iff_exists.mp hsome with ⟨node, hfirst⟩
  rcases List.find?_eq_some_iff_append.mp hfirst with ⟨hnode, before, after, hsplit, hbefore⟩
  have hmade := fault_of_first hfirst
  refine ⟨before, node, after, hsplit, hnode, fun earlier hearlier => ?_, ?_, ?_,
    fun other => position_le_of_find? hordered hfirst, ?_, ?_,
    ⟨.failed program.fault.message, report_of_hasFault hfault anonymous, rfl, rfl, rfl,
      fun sourceName code env hprogram => judge_of_hasFault hprogram hfault sourceName anonymous⟩⟩
  · simpa only [Bool.not_eq_true'] using hbefore earlier hearlier
  · rw [fault?, if_pos hfault]
  · rw [hmade]
    cases node.missing <;> rfl
  · rw [hmade]
    cases node.missing with
    | true => simp only [if_true, Fault.message_missing, Fault.place, String.append_assoc]
    | false =>
        simp only [Bool.false_eq_true, if_false, Fault.message_unexpected, Fault.place,
          String.append_assoc]
  · rw [hmade]
    cases node.missing with
    | true => exact iff_of_true ⟨_, _, rfl⟩ rfl
    | false =>
        refine iff_of_false ?_ Bool.false_ne_true
        rintro ⟨kind, position, hmessage⟩
        exact Fault.message_unexpected_ne_missing _ _ _ hmessage

end Program

end Syntax

/-! The text `f(`, a line feed and `  x y`, with two marks in its tree: something that
    could not be placed, and a parenthesis that had to be assumed. -/

namespace TwoMarks

def unplaced : Node :=
  { kind := .error, start := 7, stop := 8,
    children := [{ kind := .identifier, start := 7, stop := 8 }] }

/-- The parenthesis, assumed at some byte. -/
def assumedAt (start : Nat) : Node :=
  { kind := .other ")", named := false, missing := true, start, stop := start }

def program (marks : List Node) : Program :=
  ⟨.ofString "f(\n  x y",
    { kind := .other "program", stop := 8,
      children :=
        [{ kind := .call, stop := 8,
           children :=
            [{ kind := .identifier, field := some .callee, stop := 1 },
              { kind := .other "arguments", field := some .arguments, start := 1, stop := 8,
                children := { kind := .identifier, start := 5, stop := 6 } :: marks }] }] }⟩

/-- What could not be placed comes first. -/
def unplacedFirst : Program := program [unplaced, assumedAt 8]

/-- The parenthesis comes first. -/
def assumedFirst : Program := program [assumedAt 6, unplaced]

theorem refused_at_first_mark :
    (unplacedFirst.root.Ordered ∧ (∃ node ∈ unplacedFirst.root.preorder, node.isFault = true) ∧
      ∃ report, unplacedFirst.report "" = .ok report ∧
        report.error? = some "Unexpected token at line 2, column 5" ∧ report.verdicts = []) ∧
    assumedFirst.root.Ordered ∧ (∃ node ∈ assumedFirst.root.preorder, node.isFault = true) ∧
      ∃ report, assumedFirst.report "" = .ok report ∧
        report.error? = some "Missing ')' at line 2, column 4" ∧ report.verdicts = [] := by
  have hunplaced : unplacedFirst.root.Ordered := by decide
  have hassumed : assumedFirst.root.Ordered := by decide
  have hmarked : ∃ node ∈ unplacedFirst.root.preorder, node.isFault = true :=
    List.any_eq_true.mp (by decide)
  have hmarked' : ∃ node ∈ assumedFirst.root.preorder, node.isFault = true :=
    List.any_eq_true.mp (by decide)
  have hmessage : unplacedFirst.fault.message = "Unexpected token at line 2, column 5" := by
    decide +kernel
  have hmessage' : assumedFirst.fault.message = "Missing ')' at line 2, column 4" := by
    decide +kernel
  refine ⟨⟨hunplaced, hmarked, ?_⟩, hassumed, hmarked', ?_⟩
  · rcases Program.first_fault_refuses _ "" hunplaced hmarked with
      ⟨_, _, _, _, _, _, _, _, _, _, _, report, hreport, herror, hverdicts, _⟩
    exact ⟨report, hreport, herror.trans (congrArg some hmessage), hverdicts⟩
  · rcases Program.first_fault_refuses _ "" hassumed hmarked' with
      ⟨_, _, _, _, _, _, _, _, _, _, _, report, hreport, herror, hverdicts, _⟩
    exact ⟨report, hreport, herror.trans (congrArg some hmessage'), hverdicts⟩

end TwoMarks

end Costwise
