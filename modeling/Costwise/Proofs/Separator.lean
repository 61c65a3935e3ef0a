import Costwise.Proofs.Matching
import Costwise.Signals

/-!
# Where a Text Can Be Cut

A body is searched as one text, but what is found should belong to one statement. No
pattern was written with that in mind except one, which has a wildcard that stops at
a semicolon. The others keep to a statement because of what they are made of.

Two things are needed for a character to separate. No class of the pattern may accept
it, or a match could run across it. And no condition on the characters around a place
may tell it from the end of the text, or a match next to it could come or go when the
text is cut there (`overlooks`). Both are read off the parts of a pattern, and
together they are enough: a text holds a match if and only if what is before the
separator does or what is after it (`SeparatedBy.occursIn_append`).

A semicolon is no part of a word, no sign of an operator and no digit, so all ten
signals of a text are those of its statements.

## Main definitions

* `Pattern.Overlooks`: No condition tells a character from the end of the text.
* `Pattern.SeparatedBy`: A text can be cut at a character without a pattern noticing.
* `Signals.anyOf`: The signals that one of several texts shows.

## Theorems

* `matches_append_cons_iff`: What follows a separator does not matter.
* `matches_lastOf_iff`: Nor does what comes before it.
* `SeparatedBy.occursIn_append`: A text with a separator is searched part by part.
* `SeparatedBy.occursIn_intercalate`: So is one with many separators.
* `ofText_intercalate`: The signals of several statements.
-/

namespace Costwise

namespace Text.Pattern

/-- Whether no condition of a pattern tells a character from the end of the text. -/
def Overlooks (c : Char) : Pattern → Prop
  | empty | one _ | many _ => True
  | edge holds =>
    (∀ next, holds (some c) next = holds none next) ∧
      ∀ before, holds before (some c) = holds before none
  | seq first second => first.Overlooks c ∧ second.Overlooks c
  | alt left right => left.Overlooks c ∧ right.Overlooks c

/-- Whether a text can be cut at a character without a pattern noticing. -/
structure SeparatedBy (pattern : Pattern) (c : Char) : Prop where
  /-- No match runs across the character. -/
  avoids : pattern.avoids c = true
  /-- A match next to it may as well be at the end of the text. -/
  overlooks : pattern.Overlooks c

section Overlooks

variable {c : Char}

@[simp] theorem overlooks_sequence {patterns : List Pattern} :
    (sequence patterns).Overlooks c ↔ ∀ pattern ∈ patterns, pattern.Overlooks c := by
  induction patterns with
  | nil => exact iff_of_true trivial fun pattern hpattern => absurd hpattern List.not_mem_nil
  | cons first others ih =>
      rw [List.forall_mem_cons, ← ih]
      exact Iff.rfl

@[simp] theorem overlooks_choice {patterns : List Pattern} :
    (choice patterns).Overlooks c ↔ ∀ pattern ∈ patterns, pattern.Overlooks c := by
  induction patterns with
  | nil => exact iff_of_true trivial fun pattern hpattern => absurd hpattern List.not_mem_nil
  | cons first others ih =>
      rw [List.forall_mem_cons, ← ih]
      exact Iff.rfl

@[simp] theorem overlooks_alt {left right : Pattern} :
    (alt left right).Overlooks c ↔ left.Overlooks c ∧ right.Overlooks c :=
  Iff.rfl

@[simp] theorem overlooks_optional {pattern : Pattern} :
    (optional pattern).Overlooks c ↔ pattern.Overlooks c :=
  and_iff_left trivial

@[simp] theorem overlooks_char (d : Char) : (char d).Overlooks c :=
  trivial

@[simp] theorem overlooks_among (cs : String) : (among cs).Overlooks c :=
  trivial

@[simp] theorem overlooks_many (accepts : Char → Bool) : (many accepts).Overlooks c :=
  trivial

@[simp] theorem overlooks_oneOrMore (accepts : Char → Bool) : (oneOrMore accepts).Overlooks c :=
  ⟨trivial, trivial⟩

@[simp] theorem overlooks_literal (text : String) : (literal text).Overlooks c := by
  rw [literal, overlooks_sequence]
  intro pattern hpattern
  rcases List.mem_map.mp hpattern with ⟨d, _, rfl⟩
  exact overlooks_char d

@[simp] theorem overlooks_notAfter {refuses : Char → Bool} :
    (notAfter refuses).Overlooks c ↔ refuses c = false := by
  constructor
  · intro h
    exact Bool.not_inj (h.1 none)
  · intro h
    refine ⟨fun next => ?_, fun before => rfl⟩
    simp only [Option.any_some, h, Option.any_none]

@[simp] theorem overlooks_notBefore {refuses : Char → Bool} :
    (notBefore refuses).Overlooks c ↔ refuses c = false := by
  constructor
  · intro h
    exact Bool.not_inj (h.2 none)
  · intro h
    refine ⟨fun next => rfl, fun before => ?_⟩
    simp only [Option.any_some, h, Option.any_none]

@[simp] theorem overlooks_boundary {isWord : Char → Bool} :
    (boundary isWord).Overlooks c ↔ isWord c = false := by
  constructor
  · intro h
    exact (Bool.bne_false _).symm.trans (h.1 none)
  · intro h
    refine ⟨fun next => ?_, fun before => ?_⟩ <;> simp only [Option.any_some, h, Option.any_none]

end Overlooks

section Cut

variable {pattern : Pattern} {c : Char}

/-- What follows a separator does not matter to a match in front of it. -/
theorem matches_append_cons_iff (h : pattern.Overlooks c) {before : Option Char}
    {cs rest more : List Char} :
    pattern.Matches before cs (rest ++ c :: more) ↔ pattern.Matches before cs rest := by
  induction pattern generalizing before cs rest with
  | empty => exact Iff.rfl
  | one accepts => exact Iff.rfl
  | many accepts => exact Iff.rfl
  | edge holds =>
      refine and_congr_right fun _ => ?_
      cases rest with
      | nil =>
          rw [List.nil_append, List.head?_cons, h.2, List.head?_nil]
      | cons next rest => rfl
  | seq first second ihFirst ihSecond =>
      simp only [Matches, ← List.append_assoc, ihFirst h.1, ihSecond h.2]
  | alt left right ihLeft ihRight => exact or_congr (ihLeft h.1) (ihRight h.2)

/-- A match somewhere after a separator may as well be in a text that starts there. -/
theorem matches_lastOf_iff (h : pattern.Overlooks c) {front cs rest : List Char} :
    pattern.Matches (lastOf (some c) front) cs rest ↔
      pattern.Matches (lastOf none front) cs rest := by
  induction pattern generalizing front cs rest with
  | empty => exact Iff.rfl
  | one accepts => exact Iff.rfl
  | many accepts => exact Iff.rfl
  | edge holds =>
      refine and_congr_right fun _ => ?_
      rw [lastOf, lastOf]
      cases front.getLast? with
      | none => rw [Option.none_or, Option.none_or, h.1]
      | some last => rfl
  | seq first second ihFirst ihSecond =>
      simp only [Matches, ← lastOf_append, ihFirst h.1, ihSecond h.2]
  | alt left right ihLeft ihRight => exact or_congr (ihLeft h.1) (ihRight h.2)

/-- A part of a text in which a character does not occur is in front of that character or
    behind it. -/
theorem cut_cases {c : Char} {a b front cs back : List Char} (hc : c ∉ cs)
    (h : a ++ c :: b = front ++ (cs ++ back)) :
    (∃ gap, a = front ++ (cs ++ gap) ∧ back = gap ++ c :: b) ∨
      ∃ gap, front = a ++ c :: gap ∧ b = gap ++ (cs ++ back) := by
  rcases List.append_eq_append_iff.mp h with ⟨gap, rfl, hb⟩ | ⟨gap, rfl, hrest⟩
  · cases gap with
    | cons first gap =>
        rcases List.cons.inj hb with ⟨rfl, rfl⟩
        exact .inr ⟨gap, rfl, rfl⟩
    | nil =>
        cases cs with
        | nil => exact .inl ⟨[], by simp only [List.append_nil], hb.symm⟩
        | cons first cs => exact absurd (List.cons.inj hb).1 (List.ne_of_not_mem_cons hc)
  · rcases List.append_eq_append_iff.mp hrest with ⟨more, rfl, rfl⟩ | ⟨more, rfl, hb⟩
    · exact .inl ⟨more, rfl, rfl⟩
    · cases more with
      | nil => exact .inl ⟨[], by rw [List.append_nil, List.append_nil], hb.symm⟩
      | cons first more =>
          rcases List.cons.inj hb with ⟨rfl, _⟩
          exact absurd (List.mem_append_right gap List.mem_cons_self) hc

namespace SeparatedBy

/-- A text with a separator is searched part by part. -/
theorem occursIn_append (h : pattern.SeparatedBy c) (a b : List Char) :
    pattern.occursIn (a ++ c :: b) = (pattern.occursIn a || pattern.occursIn b) := by
  rw [Bool.eq_iff_iff, Bool.or_eq_true, occursIn, occursIn, occursIn, occursFrom_iff,
    occursFrom_iff, occursFrom_iff]
  constructor
  · rintro ⟨front, cs, back, htext, hmatches⟩
    rcases cut_cases (not_mem_of_avoids h.avoids hmatches) htext with
      ⟨gap, rfl, rfl⟩ | ⟨gap, rfl, rfl⟩
    · exact .inl ⟨front, cs, gap, rfl, (matches_append_cons_iff h.overlooks).mp hmatches⟩
    · rw [lastOf_append, lastOf_cons] at hmatches
      exact .inr ⟨gap, cs, back, rfl, (matches_lastOf_iff h.overlooks).mp hmatches⟩
  · rintro (⟨front, cs, back, rfl, hmatches⟩ | ⟨front, cs, back, rfl, hmatches⟩)
    · refine ⟨front, cs, back ++ c :: b, ?_, (matches_append_cons_iff h.overlooks).mpr hmatches⟩
      simp only [List.append_assoc]
    · refine ⟨a ++ c :: front, cs, back, ?_, ?_⟩
      · rw [List.append_assoc, List.cons_append]
      · rw [lastOf_append, lastOf_cons]
        exact (matches_lastOf_iff h.overlooks).mpr hmatches

/-- Texts with a separator between them are searched one by one. -/
theorem occursIn_intercalate (h : pattern.SeparatedBy c) (text : List Char)
    (texts : List (List Char)) :
    pattern.occursIn (List.intercalate [c] (text :: texts))
      = (text :: texts).any pattern.occursIn := by
  induction texts generalizing text with
  | nil => simp only [List.intercalate_singleton, List.any_cons, List.any_nil, Bool.or_false]
  | cons next texts ih =>
      rw [List.intercalate_cons_cons, List.append_assoc, List.singleton_append,
        h.occursIn_append, ih]
      rfl

end SeparatedBy

end Cut

end Text.Pattern

namespace Signals

open Text Pattern

/-- The signals that one of several texts shows. -/
def anyOf (all : List Signals) : Signals where
  returns := all.any (·.returns)
  compares := all.any (·.compares)
  relates := all.any (·.relates)
  assigns := all.any (·.assigns)
  halves := all.any (·.halves)
  halvesRounded := all.any (·.halvesRounded)
  takesMidpoint := all.any (·.takesMidpoint)
  accumulates := all.any (·.accumulates)
  transforms := all.any (·.transforms)
  namesBounds := all.any (·.namesBounds)

/-- All that a text is searched for. -/
def patterns : List Pattern :=
  [returning, ordering, equating, assigning, halving, roundedHalving, midpoint, accumulating,
    transforming, boundName]

@[simp] theorem overlooks_anyWord {c : Char} (words : List String) :
    (anyWord words).Overlooks c := by
  rw [anyWord, overlooks_choice]
  intro pattern hpattern
  rcases List.mem_map.mp hpattern with ⟨word, _, rfl⟩
  exact overlooks_literal word

/-- A semicolon separates whatever a text is searched for. -/
theorem separatedBy_semicolon : ∀ pattern ∈ patterns, pattern.SeparatedBy ';' := by
  have havoids : ∀ pattern ∈ patterns, pattern.avoids ';' = true := by decide +kernel
  have hoverlooks : ∀ pattern ∈ patterns, pattern.Overlooks ';' := by
    have hword : isWordChar ';' = false := by decide
    have hdigit : isDigit ';' = false := by decide
    simp [patterns, returning, ordering, equating, assigning, halving, roundedHalving, midpoint,
      accumulating, transforming, boundName, wholeWord, methodCall, rounding, combined, operand,
      two, shiftedOnce, gap, hword, hdigit]
  exact fun pattern hpattern => ⟨havoids pattern hpattern, hoverlooks pattern hpattern⟩

/-- The signals of statements with semicolons between them are those that one of the
    statements shows. -/
theorem ofText_intercalate (texts : List (List Char)) :
    ofText (List.intercalate [';'] texts) = anyOf (texts.map ofText) := by
  cases texts with
  | nil => decide +kernel
  | cons text texts =>
      have hparts : ∀ pattern ∈ patterns,
          pattern.occursIn (List.intercalate [';'] (text :: texts))
            = (text :: texts).any pattern.occursIn :=
        fun pattern hpattern =>
          (separatedBy_semicolon pattern hpattern).occursIn_intercalate text texts
      simp only [patterns, List.forall_mem_cons] at hparts
      rcases hparts with ⟨hreturns, hordering, hequating, hassigns, hhalves, hrounded, hmidpoint,
        haccumulates, htransforms, hbounds, _⟩
      -- Comparing is the one signal with two patterns, and either may be the one that is found.
      have hcompares : ((text :: texts).any ordering.occursIn
            || (text :: texts).any equating.occursIn)
          = (text :: texts).any fun part => ordering.occursIn part || equating.occursIn part := by
        rw [Bool.eq_iff_iff]
        simp only [Bool.or_eq_true, List.any_eq_true, and_or_left, exists_or]
      simp only [ofText, anyOf, List.any_map, hreturns, hordering, hequating, hcompares, hassigns,
        hhalves, hrounded, hmidpoint, haccumulates, htransforms, hbounds]
      rfl

end Signals

end Costwise
