import Costwise.Features.Walk
import Costwise.Proofs.Separator

/-!
# Operators Told by Their Neighbours

Three of the signals are about operators: a body orders two values, compares them, or
assigns one. A walk knows an operator by its token, but the text of a body has no
tokens. The patterns look at the signs next to each other instead, and the operators
of the language share their signs. `<=` is an order and a part of `<<=`, which assigns.
`=` assigns, and is a part of what compares, of an arrow and of every other assignment.

This file says that no tokens are missed. A `Wording` is a text that is known to
consist of operators with other text between them. Every character that is no sign of
an operator is a separator for the three patterns, so a wording is searched operator
by operator (`occursIn_operations`), and what is left is a table: for each operator of
the language, which of the patterns occur in it (`occursIn_operator`).

Two operators may not touch in a wording. Without a blank, two of them would be read as
another one, by the language as well.

## Main definitions

* `isSign`: The characters that operators consist of.
* `operators`: The operators of the language, with those that order and assign.
* `Wording`: A text as the operators in it and what is around them.

## Theorems

* `separatedBy_of_not_isSign`: What is no sign separates operators.
* `occursIn_operations`: A wording is searched operator by operator.
* `occursIn_operator`: What is found in each operator.
* `Wording.signals_iff_operators`: The signals of a wording are those of its operators.
-/

namespace Costwise

namespace Signals

open Text Pattern

/-- Whether a character can be part of an operator. -/
def isSign (c : Char) : Bool :=
  "=!<>+-*/%&|^?".toList.contains c

/-- Operators that put two values in order. -/
def orderOperators : List String := ["<", ">", "<=", ">="]

/-- Operators that assign what they compute. -/
def compoundAssignments : List String :=
  ["+=", "-=", "*=", "/=", "%=", "**=", "<<=", ">>=", ">>>=", "&=", "|=", "^=", "&&=", "||=", "??="]

/-- Operators that assign a value. -/
def assignmentOperators : List String := "=" :: compoundAssignments

/-- The operators of the language that consist of signs. -/
def operators : List String :=
  Body.comparisonOperators ++ assignmentOperators ++
    ["=>", "<<", ">>", ">>>", "+", "++", "-", "--", "*", "**", "/", "%", "!", "&", "&&", "|", "||",
      "^", "?", "??"]

/-- An operator and the text after it, up to the next. -/
structure Operation where
  operator : String
  after : List Char
  known : operator ∈ operators
  plain : ∀ c ∈ after, isSign c = false

/-- An operation as it is written. -/
def Operation.text (operation : Operation) : List Char :=
  operation.operator.toList ++ operation.after

/-- A text as its operators and what is around them. Two operators do not touch. -/
structure Wording where
  first : List Char
  operations : List Operation
  plain : ∀ c ∈ first, isSign c = false
  apart : ∀ operation ∈ operations.dropLast, operation.after ≠ []

/-- A wording as it is written. -/
def Wording.text (wording : Wording) : List Char :=
  wording.first ++ wording.operations.flatMap Operation.text

/-- The patterns that look for operators. -/
def operatorPatterns : List Pattern := [ordering, equating, assigning]

/-- What is no sign separates operators. -/
theorem separatedBy_of_not_isSign {c : Char} (h : isSign c = false) :
    ∀ pattern ∈ operatorPatterns, pattern.SeparatedBy c := by
  have hsigns : c ≠ '=' ∧ c ≠ '!' ∧ c ≠ '<' ∧ c ≠ '>' ∧ c ≠ '+' ∧ c ≠ '-' ∧ c ≠ '*' ∧ c ≠ '/' ∧
      c ≠ '%' ∧ c ≠ '&' ∧ c ≠ '|' ∧ c ≠ '^' ∧ c ≠ '?' := by
    simpa [isSign] using h
  have havoids : ∀ pattern ∈ operatorPatterns, pattern.avoids c = true := by
    simp [operatorPatterns, ordering, equating, assigning, Pattern.sequence, choice, literal, among,
      char, notAfter, notBefore, avoids, hsigns]
  have hoverlooks : ∀ pattern ∈ operatorPatterns, pattern.Overlooks c := by
    simp [operatorPatterns, ordering, equating, assigning, hsigns]
  exact fun pattern hpattern => ⟨havoids pattern hpattern, hoverlooks pattern hpattern⟩

section Search

variable {pattern : Pattern} (hpattern : pattern ∈ operatorPatterns)

include hpattern

theorem occursIn_nil : pattern.occursIn [] = false := by
  revert pattern
  decide

/-- Nothing is found in a text without signs. -/
theorem occursIn_plain_append {plain : List Char} (hplain : ∀ c ∈ plain, isSign c = false)
    (rest : List Char) : pattern.occursIn (plain ++ rest) = pattern.occursIn rest := by
  induction plain with
  | nil => rw [List.nil_append]
  | cons c plain ih =>
      rcases List.forall_mem_cons.mp hplain with ⟨hc, hplain⟩
      have hcut := (separatedBy_of_not_isSign hc pattern hpattern).occursIn_append []
      rw [List.cons_append, ← List.nil_append (c :: _), hcut, occursIn_nil hpattern,
        Bool.false_or, ih hplain]

/-- An operator is searched apart from what comes after the text that follows it. -/
theorem occursIn_operation_append {operation : Operation} {rest : List Char}
    (h : operation.after ≠ [] ∨ rest = []) :
    pattern.occursIn (operation.text ++ rest)
      = (pattern.occursIn operation.operator.toList || pattern.occursIn rest) := by
  rcases operation with ⟨operator, after, known, plain⟩
  rw [Operation.text, List.append_assoc]
  cases after with
  | nil =>
      obtain rfl := h.resolve_left fun hne => hne rfl
      rw [List.append_nil, List.append_nil, occursIn_nil hpattern, Bool.or_false]
  | cons c after =>
      rcases List.forall_mem_cons.mp plain with ⟨hc, hafter⟩
      rw [List.cons_append, (separatedBy_of_not_isSign hc pattern hpattern).occursIn_append,
        occursIn_plain_append hpattern hafter]

/-- Operations that do not touch are searched operator by operator. -/
theorem occursIn_operations {operations : List Operation}
    (hapart : ∀ operation ∈ operations.dropLast, operation.after ≠ []) :
    pattern.occursIn (operations.flatMap Operation.text)
      = operations.any fun operation => pattern.occursIn operation.operator.toList := by
  induction operations with
  | nil => exact occursIn_nil hpattern
  | cons operation others ih =>
      have htouch : operation.after ≠ [] ∨ others.flatMap Operation.text = [] := by
        cases others with
        | nil => exact .inr rfl
        | cons next others => exact .inl (hapart operation List.mem_cons_self)
      have hothers : ∀ later ∈ others.dropLast, later.after ≠ [] := by
        cases others with
        | nil => exact fun later hlater => absurd hlater List.not_mem_nil
        | cons next others => exact fun later hlater => hapart later (List.mem_cons_of_mem _ hlater)
      rw [List.flatMap_cons, occursIn_operation_append hpattern htouch, ih hothers, List.any_cons]

end Search

/-- What is found in each operator of the language. -/
theorem occursIn_operator : ∀ operator ∈ operators,
    (ordering.occursIn operator.toList = true ↔ operator ∈ orderOperators) ∧
    (ordering.occursIn operator.toList = true ∨ equating.occursIn operator.toList = true ↔
      operator ∈ Body.comparisonOperators) ∧
    (assigning.occursIn operator.toList = true ↔ operator ∈ assignmentOperators) := by
  decide +kernel

/-- A wording orders, compares or assigns if and only if one of its operators does. -/
theorem Wording.signals_iff_operators (wording : Wording) :
    ((ofText wording.text).relates = true ↔
      ∃ operation ∈ wording.operations, operation.operator ∈ orderOperators) ∧
    ((ofText wording.text).compares = true ↔
      ∃ operation ∈ wording.operations, operation.operator ∈ Body.comparisonOperators) ∧
    ((ofText wording.text).assigns = true ↔
      ∃ operation ∈ wording.operations, operation.operator ∈ assignmentOperators) := by
  have hsearch : ∀ pattern ∈ operatorPatterns, (pattern.occursIn wording.text = true ↔
      ∃ operation ∈ wording.operations, pattern.occursIn operation.operator.toList = true) := by
    intro pattern hpattern
    rw [Wording.text, occursIn_plain_append hpattern wording.plain,
      occursIn_operations hpattern wording.apart, List.any_eq_true]
  have hordering := hsearch ordering (by simp [operatorPatterns])
  have hequating := hsearch equating (by simp [operatorPatterns])
  have hassigning := hsearch assigning (by simp [operatorPatterns])
  refine ⟨?_, ?_, ?_⟩
  · rw [ofText, hordering]
    exact exists_congr fun operation =>
      and_congr_right fun _ => (occursIn_operator operation.operator operation.known).1
  · -- A comparison for order and one for equality are looked for apart.
    rw [ofText, Bool.or_eq_true, hordering, hequating, ← exists_or]
    refine exists_congr fun operation => ?_
    rw [← and_or_left]
    exact and_congr_right fun _ => (occursIn_operator operation.operator operation.known).2.1
  · rw [ofText, hassigning]
    exact exists_congr fun operation =>
      and_congr_right fun _ => (occursIn_operator operation.operator operation.known).2.2

namespace ShiftBeforeArrow

/-- The text `a<<=b=>c`: a shift that assigns, and an arrow. -/
def wording : Wording where
  first := ['a']
  operations :=
    [⟨"<<=", ['b'], by decide, List.forall_mem_singleton.mpr rfl⟩,
      ⟨"=>", ['c'], by decide, List.forall_mem_singleton.mpr rfl⟩]
  plain := List.forall_mem_singleton.mpr rfl
  apart := by decide

/-- The signs of an order stand in the shift and in the arrow, and neither of the two
    orders or compares. The shift assigns. -/
theorem shift_only_assigns :
    wording.text = "a<<=b=>c".toList ∧ (ofText wording.text).relates = false ∧
      (ofText wording.text).compares = false ∧ (ofText wording.text).assigns = true := by
  rcases wording.signals_iff_operators with ⟨hrelates, hcompares, hassigns⟩
  have hnone : ∀ operation ∈ wording.operations,
      operation.operator ∉ orderOperators ∧ operation.operator ∉ Body.comparisonOperators := by
    decide +kernel
  refine ⟨by decide +kernel, ?_, ?_, hassigns.mpr ?_⟩
  · refine eq_false_of_ne_true fun h => ?_
    rcases hrelates.mp h with ⟨operation, hmem, horders⟩
    exact (hnone operation hmem).1 horders
  · refine eq_false_of_ne_true fun h => ?_
    rcases hcompares.mp h with ⟨operation, hmem, hcompare⟩
    exact (hnone operation hmem).2 hcompare
  · exact ⟨_, List.mem_cons_self, by decide +kernel⟩

end ShiftBeforeArrow

end Signals

end Costwise
