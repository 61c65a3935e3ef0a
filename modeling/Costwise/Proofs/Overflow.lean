import Costwise.Proofs.Consistency
import Costwise.Proofs.FiniteRange

/-!
# When There Is No Verdict

One thing can go wrong when the functions of a program are judged: a number is
read that is too large for a finite value. Then no function of the program gets a
verdict, not only the one that the number is in. This file says exactly when that
happens.

A number being there is not enough. Numbers are read in two places only, as a
divisor and as what is added to or subtracted from an argument of a self-call.
The second place is looked at only if the call has three arguments and the text
looks like a search, and only up to the first argument that is offset by one. So
the same number may be harmless in one place and not in another, and harmless in
the second argument of a call that settles the matter in the first.

What goes wrong at a node does not depend on what was found before it. That makes
the passage from nodes to walks and from walks to programs short
(`foldlM_eq_error_iff`, `mapM_eq_error_iff`): a series fails if and only if one of
its items does.

## Main definitions

* `Literal.TooLarge`: A text is a number out of range.
* `Source.HoldsTooLarge`: So is an expression, with or without parentheses.
* `Source.OffsetTooLarge`: Such a number is added or subtracted.
* `Source.DividesByTooLarge`: Such a number is a divisor.
* `Body.NarrowsByTooLarge`: Such a number is met in the arguments of a self-call.

## Theorems

* `Literal.value_eq_error_iff`: Which literals are out of range.
* `findings_eq_error_iff`: At which nodes a walk fails.
* `verdicts_eq_error_iff`: Which programs get no verdict.
-/

namespace Costwise

open Syntax

section Series

variable {α β : Type}

theorem ok_ne_error (value : α) : (.ok value : Except Literal.Overflow α) ≠ .error {} := by
  intro h
  cases h

theorem map_eq_error_iff {result : Except Literal.Overflow α} {f : α → β} :
    result.map f = .error {} ↔ result = .error {} := by
  cases result with
  | error overflow => exact iff_of_true rfl rfl
  | ok value => simp only [Except.map, reduceCtorEq]

/-- A series in which failing does not depend on what came before fails if and only if
    one of its items does. -/
theorem foldlM_eq_error_iff {step : β → α → Except Literal.Overflow β} {Fails : α → Prop}
    (hstep : ∀ state item, step state item = .error {} ↔ Fails item) (items : List α) (start : β) :
    items.foldlM step start = .error {} ↔ ∃ item ∈ items, Fails item := by
  induction items generalizing start with
  | nil =>
      exact iff_of_false (ok_ne_error start) fun ⟨_, hitem, _⟩ => absurd hitem List.not_mem_nil
  | cons first rest ih =>
      rw [List.foldlM_cons, List.exists_mem_cons_iff, ← hstep start first]
      cases hfirst : step start first with
      | error overflow => exact iff_of_true rfl (.inl rfl)
      | ok next => simp only [bind, Except.bind, ih next, reduceCtorEq, false_or]

theorem mapM_eq_error_iff {make : α → Except Literal.Overflow β} {items : List α} :
    items.mapM make = .error {} ↔ ∃ item ∈ items, make item = .error {} := by
  induction items with
  | nil =>
      exact iff_of_false (ok_ne_error []) fun ⟨_, hitem, _⟩ => absurd hitem List.not_mem_nil
  | cons first rest ih =>
      rw [List.mapM_cons, List.exists_mem_cons_iff, ← ih]
      cases make first with
      | error overflow => exact iff_of_true rfl (.inl rfl)
      | ok head =>
          cases rest.mapM make with
          | error overflow => exact iff_of_true rfl (.inr rfl)
          | ok tail => simp only [bind, Except.bind, pure, Except.pure, reduceCtorEq, or_self]

end Series

namespace Literal

/-- A text is a number out of range. Underscores in it only group digits. Without them
    it is no real number, and without the marks of a big integer it is an integer from
    the limit of the range on. -/
def TooLarge (text : List Char) : Prop :=
  real? (text.filter (· != '_')) = none ∧
    ∃ n, integer? (dropBigMark (text.filter (· != '_'))) = some n ∧
      2 ^ 1024 - 2 ^ 970 ≤ n.natAbs

theorem value_eq_error_iff (text : List Char) : value text = .error {} ↔ TooLarge text := by
  simp only [value, TooLarge]
  cases real? (text.filter (· != '_')) with
  | some real => simp only [reduceCtorEq, false_and]
  | none =>
      cases integer? (dropBigMark (text.filter (· != '_'))) with
      | none => simp only [reduceCtorEq, false_and, exists_false, and_false]
      | some n =>
          simp only [Option.some.injEq, exists_eq_left', true_and, ← Binary64.ofInt?_eq_none_iff]
          cases Binary64.ofInt? n with
          | none => exact iff_of_true rfl rfl
          | some real => simp only [reduceCtorEq]

/-! A large integer in base sixteen is out of range. Written as a real number it would be
    infinite, and a literal that is infinite is read without a complaint. -/

example : value ("0x".toList ++ List.replicate 256 'f') = .error {} := by decide +kernel

example : value "2e400".toList = .ok (some (.infinite false)) := by decide +kernel

end Literal

namespace Syntax.Source

variable {source : Source}

/-- An expression is a number out of range, with or without parentheses. -/
def HoldsTooLarge (source : Source) (node : Node) : Prop :=
  node.unwrap.kind = .number ∧ Literal.TooLarge (source.chars node.unwrap)

/-- A number out of range is added to something or subtracted from it. -/
def OffsetTooLarge (source : Source) (node : Node) : Prop :=
  node.unwrap.kind = .binary ∧ (node.unwrap.operator = "+" ∨ node.unwrap.operator = "-") ∧
    ∃ right, node.unwrap.child? .right = some right ∧ source.HoldsTooLarge right

/-- Something is divided by a number out of range. -/
def DividesByTooLarge (source : Source) (node : Node) : Prop :=
  (node.kind = .binary ∨ node.kind = .compoundAssignment) ∧
    (node.operator = "/" ∨ node.operator = "/=") ∧
    ∃ right, node.child? .right = some right ∧ source.HoldsTooLarge right

theorem number_eq_error_iff {node : Node} :
    source.number node = .error {} ↔ source.HoldsTooLarge node := by
  rw [number, HoldsTooLarge]
  by_cases hnumber : node.unwrap.kind = .number
  · rw [if_pos hnumber, Literal.value_eq_error_iff, and_iff_right hnumber]
  · rw [if_neg hnumber]
    exact iff_of_false (ok_ne_error _) fun h => hnumber h.1

theorem number?_eq_error_iff {operand : Option Node} :
    source.number? operand = .error {} ↔
      ∃ node, operand = some node ∧ source.HoldsTooLarge node := by
  cases operand with
  | none => simp only [number?, reduceCtorEq, false_and, exists_false]
  | some node => simp only [number?, number_eq_error_iff, Option.some.injEq, exists_eq_left']

theorem isOffsetByOne_eq_error_iff {node : Node} :
    source.isOffsetByOne node = .error {} ↔ source.OffsetTooLarge node := by
  simp only [isOffsetByOne, OffsetTooLarge]
  by_cases hsum : node.unwrap.kind = .binary ∧
      (node.unwrap.operator = "+" ∨ node.unwrap.operator = "-")
  · rw [if_pos hsum, map_eq_error_iff, number?_eq_error_iff]
    simp only [hsum.1, hsum.2, true_and]
  · rw [if_neg hsum]
    refine iff_of_false (ok_ne_error _) ?_
    rintro ⟨hbinary, hoperator, _⟩
    exact hsum ⟨hbinary, hoperator⟩

/-- Looking for an operand that is offset by one fails if and only if a number out of
    range is met before one is found. -/
theorem anyOffsetByOne_eq_error_iff {nodes : List Node} :
    source.anyOffsetByOne nodes = .error {} ↔
      ∃ before node after, nodes = before ++ node :: after ∧
        (∀ earlier ∈ before,
          source.isOffsetByOne earlier ≠ .ok true ∧ ¬ source.OffsetTooLarge earlier) ∧
        source.OffsetTooLarge node := by
  induction nodes with
  | nil =>
      refine iff_of_false (ok_ne_error _) ?_
      rintro ⟨before, node, after, hnil, _⟩
      exact absurd hnil.symm (List.append_ne_nil_of_right_ne_nil _ (List.cons_ne_nil _ _))
  | cons first rest ih =>
      have hfails : source.isOffsetByOne first = .error {} ↔ source.OffsetTooLarge first :=
        isOffsetByOne_eq_error_iff
      rw [anyOffsetByOne]
      cases hfirst : source.isOffsetByOne first with
      | error overflow =>
          refine iff_of_true rfl ⟨[], first, rest, rfl, ?_, hfails.mp hfirst⟩
          exact fun earlier hearlier => absurd hearlier List.not_mem_nil
      | ok offset =>
          have hsmall : ¬ source.OffsetTooLarge first := by
            rw [← hfails, hfirst]
            exact ok_ne_error offset
          cases offset with
          | true =>
              refine iff_of_false (ok_ne_error _) ?_
              rintro ⟨before, node, after, hsplit, hbefore, hlarge⟩
              -- The first is offset by one, so it is neither the one nor before it.
              cases before with
              | nil =>
                  rcases List.cons.inj hsplit with ⟨rfl, _⟩
                  exact hsmall hlarge
              | cons earlier others =>
                  rcases List.cons.inj hsplit with ⟨rfl, _⟩
                  exact (hbefore first List.mem_cons_self).1 hfirst
          | false =>
              simp only [ih]
              constructor
              · rintro ⟨before, node, after, rfl, hbefore, hlarge⟩
                refine ⟨first :: before, node, after, rfl, fun earlier hearlier => ?_, hlarge⟩
                rcases List.mem_cons.mp hearlier with rfl | hearlier
                · refine ⟨?_, hsmall⟩
                  rw [hfirst]
                  exact fun heq => Bool.false_ne_true (Except.ok.inj heq)
                · exact hbefore earlier hearlier
              · rintro ⟨before, node, after, hsplit, hbefore, hlarge⟩
                cases before with
                | nil =>
                    rcases List.cons.inj hsplit with ⟨rfl, _⟩
                    exact absurd hlarge hsmall
                | cons earlier others =>
                    rcases List.cons.inj hsplit with ⟨_, hrest⟩
                    exact ⟨others, node, after, hrest,
                      fun other hother => hbefore other (List.mem_cons_of_mem _ hother), hlarge⟩

end Syntax.Source

namespace Body

variable {body : Body}

/-- A self-call with at least three arguments, in a body that looks like a search, is
    looked through for an argument that is offset by one, and a number out of range is
    met before one is found. -/
def NarrowsByTooLarge (body : Body) (node : Node) : Prop :=
  node.kind = .call ∧ body.source.isSelfCall body.functionName node = true ∧
    3 ≤ node.arguments.length ∧
    (body.signals.halvesRounded = true ∧ body.signals.returns = true ∧
      body.signals.accumulates = false) ∧
    ∃ before argument after, node.arguments = before ++ argument :: after ∧
      (∀ earlier ∈ before, body.source.isOffsetByOne earlier ≠ .ok true ∧
        ¬ body.source.OffsetTooLarge earlier) ∧
      body.source.OffsetTooLarge argument

theorem narrowsRange_eq_error_iff {call : Node} (hkind : call.kind = .call)
    (hself : body.source.isSelfCall body.functionName call = true) :
    body.narrowsRange call = .error {} ↔ body.NarrowsByTooLarge call := by
  have hlooks : body.looksLikeSearch = true ↔
      body.signals.halvesRounded = true ∧ body.signals.returns = true ∧
        body.signals.accumulates = false := by
    simp only [looksLikeSearch, Bool.and_eq_true, Bool.not_eq_true', and_assoc]
  rw [narrowsRange, NarrowsByTooLarge, ← hlooks]
  by_cases hlooked : 3 ≤ call.arguments.length ∧ body.looksLikeSearch = true
  · rw [if_pos hlooked, Source.anyOffsetByOne_eq_error_iff]
    simp only [hkind, hself, hlooked, true_and]
  · rw [if_neg hlooked]
    refine iff_of_false (ok_ne_error _) ?_
    rintro ⟨_, _, hthree, hsignals, _⟩
    exact hlooked ⟨hthree, hsignals⟩

theorem callFindings_eq_error_iff {call : Node} (hkind : call.kind = .call) :
    body.callFindings call = .error {} ↔ body.NarrowsByTooLarge call := by
  cases hself : body.source.isSelfCall body.functionName call with
  | true =>
      rw [callFindings_of_isSelfCall hself, map_eq_error_iff, narrowsRange_eq_error_iff hkind hself]
  | false =>
      rcases callFindings_of_not_isSelfCall hself with ⟨steps, hsteps, _⟩
      rw [hsteps]
      refine iff_of_false (ok_ne_error _) ?_
      rintro ⟨_, hcalls, _⟩
      exact absurd (hself.symm.trans hcalls) Bool.false_ne_true

theorem operatorFindings_eq_error_iff {node : Node} {inLoop : Bool}
    (hkind : node.kind = .binary ∨ node.kind = .compoundAssignment) :
    body.operatorFindings node inLoop = .error {} ↔ body.source.DividesByTooLarge node := by
  have hoperator : divisionOperators.contains node.operator = true ↔
      node.operator = "/" ∨ node.operator = "/=" := by
    simp only [divisionOperators, List.contains_iff_mem, List.mem_cons, List.not_mem_nil, or_false]
  rw [operatorFindings, Source.DividesByTooLarge]
  by_cases hdivides : divisionOperators.contains node.operator = true
  · rw [if_pos hdivides, map_eq_error_iff, Source.number?_eq_error_iff]
    simp only [hkind, hoperator.mp hdivides, true_and]
  · rw [if_neg hdivides]
    refine iff_of_false ?_ fun h => hdivides (hoperator.mpr h.2.1)
    split
    · exact ok_ne_error _
    · split
      · exact ok_ne_error _
      · exact ok_ne_error _

theorem kind_of_fails {node : Node}
    (h : body.source.DividesByTooLarge node ∨ body.NarrowsByTooLarge node) :
    node.kind = .call ∨ node.kind = .binary ∨ node.kind = .compoundAssignment :=
  h.elim (fun hdivides => .inr hdivides.1) fun hnarrows => .inl hnarrows.1

/-- At which nodes a walk fails. Whether the node is in a loop has no part in it. -/
theorem findings_eq_error_iff {node : Node} {inLoop : Bool} :
    body.findings node inLoop = .error {} ↔
      body.source.DividesByTooLarge node ∨ body.NarrowsByTooLarge node := by
  have hkinds : body.source.DividesByTooLarge node ∨ body.NarrowsByTooLarge node →
      node.kind = .call ∨ node.kind = .binary ∨ node.kind = .compoundAssignment := kind_of_fails
  unfold findings
  split
  next hcall =>
    rw [callFindings_eq_error_iff hcall]
    refine (or_iff_right fun hdivides => ?_).symm
    rcases hdivides.1 with hkind | hkind <;> exact absurd (hcall.symm.trans hkind) (by decide)
  next hbinary =>
    rw [operatorFindings_eq_error_iff (.inl hbinary)]
    refine (or_iff_left fun hnarrows => ?_).symm
    exact absurd (hbinary.symm.trans hnarrows.1) (by decide)
  next hassignment =>
    rw [operatorFindings_eq_error_iff (.inr hassignment)]
    refine (or_iff_left fun hnarrows => ?_).symm
    exact absurd (hassignment.symm.trans hnarrows.1) (by decide)
  -- An access is a finding without a number, and any other node is none at all.
  all_goals
    refine iff_of_false (ok_ne_error _) fun hfails => ?_
    rcases hkinds hfails with hkind | hkind | hkind <;> simp_all only [reduceCtorEq]

/-- What is noted at a node fails whatever was found before, or never. -/
theorem note_eq_error_iff (progress : Progress) (stop : Node × Nat) :
    body.note progress stop = .error {} ↔
      body.source.DividesByTooLarge stop.1 ∨ body.NarrowsByTooLarge stop.1 := by
  rw [note]
  by_cases hloop : stop.1.kind.isLoop = true
  · rw [if_pos hloop]
    refine iff_of_false (ok_ne_error _) fun hfails => ?_
    rcases kind_of_fails hfails with hkind | hkind | hkind <;>
      exact absurd (hkind ▸ hloop) (by decide)
  · rw [if_neg hloop, map_eq_error_iff, findings_eq_error_iff]

end Body

theorem Definition.verdict_eq_error_iff {source : Source} {definition : Definition} :
    definition.verdict source = .error {} ↔
      ∃ node ∈ definition.visited, source.DividesByTooLarge node ∨
        (definition.inside source).NarrowsByTooLarge node := by
  rw [verdict, map_eq_error_iff, record_eq_foldlM, map_eq_error_iff,
    foldlM_eq_error_iff Body.note_eq_error_iff, visited]
  simp only [List.mem_map, exists_exists_and_eq_and]
  rfl

/-- Judging the functions of a program gives verdicts or fails because a number is out of
    range. It fails if and only if the walk of some function takes up a division by such
    a number, or a self-call in whose arguments such a number is met before one that is
    offset by one. -/
theorem Syntax.Program.verdicts_eq_error_iff (program : Program) (anonymous : String) :
    ((∃ verdicts, program.verdicts anonymous = .ok verdicts) ∨
      program.verdicts anonymous = .error {}) ∧
    (program.verdicts anonymous = .error {} ↔
      ∃ definition ∈ program.definitions anonymous, ∃ node ∈ definition.visited,
        program.source.DividesByTooLarge node ∨
          (definition.inside program.source).NarrowsByTooLarge node) := by
  constructor
  · cases program.verdicts anonymous with
    | ok verdicts => exact .inl ⟨verdicts, rfl⟩
    | error overflow => exact .inr rfl
  · rw [verdicts, mapM_eq_error_iff]
    simp only [Definition.verdict_eq_error_iff]

end Costwise
