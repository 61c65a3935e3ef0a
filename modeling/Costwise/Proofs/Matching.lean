import Costwise.Text.Pattern

/-!
# What a Pattern Matches

A pattern is run by listing the places where a match can end. That is good for
running and bad for reasoning: a place says what is left of the text and nothing of
what was matched, and two patterns are compared by what they match. `Matches` speaks
of the matched text itself, with the character before it and the text after it for
the conditions at its edges. `mem_ends_iff` says that the two agree, and
`occursIn_iff` that a text holds a match if it can be cut into what comes before, a
match and what comes after.

Some questions about matches are settled by the shape of a pattern alone. A
character that no class of a pattern accepts is in no match of it (`avoids`). If
every match of one pattern has a match of another inside (`Holds`), then a text with
a match of the first has one of the second, and it is enough to look for that inside
match in a part of the first pattern: in each of its alternatives, or at the end of a
sequence.

## Main definitions

* `lastOf`: The character before what follows a text.
* `Pattern.Matches`: What a pattern matches.
* `Pattern.avoids`: Whether no class of a pattern accepts a character.
* `Pattern.Holds`: Every match of a pattern has a match of another inside.

## Theorems

* `mem_ends_iff`: A match ends where the matched text does.
* `occursIn_iff`: A text holds a match if it can be cut around one.
* `matches_literal`: A text as a pattern matches itself.
* `not_mem_of_avoids`: What a pattern avoids is in no match.
* `Holds.occursIn`: Where the outer pattern occurs, the inner one does.
-/

namespace Costwise

namespace Text

/-- The character before what follows a text, given the character before the text. -/
def lastOf (before : Option Char) (cs : List Char) : Option Char :=
  cs.getLast?.or before

@[simp] theorem lastOf_nil (before : Option Char) : lastOf before [] = before := rfl

theorem lastOf_append (before : Option Char) (u v : List Char) :
    lastOf before (u ++ v) = lastOf (lastOf before u) v := by
  rw [lastOf, lastOf, lastOf, List.getLast?_append, Option.or_assoc]

theorem lastOf_cons (before : Option Char) (c : Char) (cs : List Char) :
    lastOf before (c :: cs) = lastOf (some c) cs :=
  lastOf_append before [c] cs

theorem Place.eq_of_parts {first second : Place} (hbefore : first.before = second.before)
    (hrest : first.rest = second.rest) : first = second := by
  cases first
  cases second
  rw [Place.mk.injEq]
  exact ⟨hbefore, hrest⟩

namespace Pattern

/-- Whether a pattern matches a text that stands after a character and in front of the
    rest. -/
def Matches : Pattern → Option Char → List Char → List Char → Prop
  | empty, _, cs, _ => cs = []
  | one accepts, _, cs, _ => ∃ c, cs = [c] ∧ accepts c = true
  | many accepts, _, cs, _ => ∀ c ∈ cs, accepts c = true
  | edge holds, before, cs, rest => cs = [] ∧ holds before rest.head? = true
  | seq first second, before, cs, rest =>
    ∃ u v, cs = u ++ v ∧ first.Matches before u (v ++ rest) ∧
      second.Matches (lastOf before u) v rest
  | alt left right, before, cs, rest => left.Matches before cs rest ∨ right.Matches before cs rest

variable {before : Option Char} {cs rest : List Char}

theorem mem_reach_iff {accepts : Char → Bool} {text : List Char} {stop : Place} :
    stop ∈ reach accepts before text ↔
      ∃ cs, text = cs ++ stop.rest ∧ stop.before = lastOf before cs ∧
        ∀ c ∈ cs, accepts c = true := by
  induction text generalizing before with
  | nil =>
      rw [reach, List.mem_singleton]
      constructor
      · rintro rfl
        exact ⟨[], rfl, rfl, fun c hc => absurd hc List.not_mem_nil⟩
      · rintro ⟨cs, htext, hbefore, _⟩
        rcases List.append_eq_nil_iff.mp htext.symm with ⟨rfl, hrest⟩
        exact Place.eq_of_parts hbefore hrest
  | cons c text ih =>
      rw [reach, List.mem_cons]
      constructor
      · rintro (rfl | hstop)
        · exact ⟨[], rfl, rfl, fun c hc => absurd hc List.not_mem_nil⟩
        · -- The character is of the class, or nothing further on is reached.
          split at hstop
          · rename_i hc
            rcases ih.mp hstop with ⟨cs, rfl, hbefore, hall⟩
            refine ⟨c :: cs, rfl, ?_, List.forall_mem_cons.mpr ⟨hc, hall⟩⟩
            rw [hbefore, lastOf_cons]
          · exact absurd hstop List.not_mem_nil
      · rintro ⟨cs, htext, hbefore, hall⟩
        cases cs with
        | nil =>
            left
            exact Place.eq_of_parts hbefore htext.symm
        | cons first cs =>
            right
            rcases List.cons.inj htext with ⟨rfl, rfl⟩
            rcases List.forall_mem_cons.mp hall with ⟨hc, hall⟩
            rw [if_pos hc]
            rw [lastOf_cons] at hbefore
            exact ih.mpr ⟨cs, rfl, hbefore, hall⟩

theorem mem_ends_iff {pattern : Pattern} {place stop : Place} :
    stop ∈ pattern.ends place ↔
      ∃ cs, place.rest = cs ++ stop.rest ∧ stop.before = lastOf place.before cs ∧
        pattern.Matches place.before cs stop.rest := by
  induction pattern generalizing place stop with
  | empty =>
      rw [ends, List.mem_singleton]
      constructor
      · rintro rfl
        exact ⟨[], rfl, rfl, rfl⟩
      · rintro ⟨cs, hrest, hbefore, rfl⟩
        exact Place.eq_of_parts hbefore hrest.symm
  | one accepts =>
      rcases place with ⟨before, _ | ⟨c, text⟩⟩
      · constructor
        · exact fun hstop => absurd hstop List.not_mem_nil
        · rintro ⟨cs, hrest, _, c, rfl, _⟩
          cases hrest
      · rw [ends]
        constructor
        · intro hstop
          split at hstop
          · rename_i hc
            rw [List.mem_singleton.mp hstop]
            exact ⟨[c], rfl, rfl, c, rfl, hc⟩
          · exact absurd hstop List.not_mem_nil
        · rintro ⟨cs, hrest, hbefore, first, rfl, hc⟩
          rcases List.cons.inj hrest with ⟨rfl, rfl⟩
          rw [if_pos hc, List.mem_singleton]
          exact Place.eq_of_parts hbefore rfl
  | many accepts =>
      rw [ends]
      exact mem_reach_iff
  | edge holds =>
      rw [ends]
      constructor
      · intro hstop
        split at hstop
        · rename_i hholds
          rw [List.mem_singleton.mp hstop]
          exact ⟨[], rfl, rfl, rfl, hholds⟩
        · exact absurd hstop List.not_mem_nil
      · rintro ⟨cs, hrest, hbefore, rfl, hholds⟩
        rw [List.nil_append] at hrest
        rw [hrest, if_pos hholds, List.mem_singleton]
        exact Place.eq_of_parts hbefore hrest.symm
  | seq first second ihFirst ihSecond =>
      rw [ends, List.mem_flatMap]
      constructor
      · rintro ⟨middle, hmiddle, hstop⟩
        rcases ihFirst.mp hmiddle with ⟨u, hu, hmiddleBefore, hfirst⟩
        rcases ihSecond.mp hstop with ⟨v, hv, hstopBefore, hsecond⟩
        refine ⟨u ++ v, ?_, ?_, u, v, rfl, ?_, ?_⟩
        · rw [hu, hv, List.append_assoc]
        · rw [hstopBefore, hmiddleBefore, lastOf_append]
        · rw [← hv]
          exact hfirst
        · rw [← hmiddleBefore]
          exact hsecond
      · rintro ⟨cs, hrest, hbefore, u, v, rfl, hfirst, hsecond⟩
        rw [List.append_assoc] at hrest
        rw [lastOf_append] at hbefore
        refine ⟨⟨lastOf place.before u, v ++ stop.rest⟩, ?_, ?_⟩
        · exact ihFirst.mpr ⟨u, hrest, rfl, hfirst⟩
        · exact ihSecond.mpr ⟨v, rfl, hbefore, hsecond⟩
  | alt left right ihLeft ihRight =>
      rw [ends, List.mem_append, ihLeft, ihRight, ← exists_or]
      refine exists_congr fun cs => ?_
      rw [← and_or_left, ← and_or_left, Matches]

theorem isEmpty_ends_eq_false_iff {pattern : Pattern} {place : Place} :
    (!(pattern.ends place).isEmpty) = true ↔
      ∃ cs rest, place.rest = cs ++ rest ∧ pattern.Matches place.before cs rest := by
  rw [Bool.not_eq_true', List.isEmpty_eq_false_iff_exists_mem]
  constructor
  · rintro ⟨stop, hstop⟩
    rcases mem_ends_iff.mp hstop with ⟨cs, hrest, _, hmatches⟩
    exact ⟨cs, stop.rest, hrest, hmatches⟩
  · rintro ⟨cs, rest, hrest, hmatches⟩
    exact ⟨⟨lastOf place.before cs, rest⟩, mem_ends_iff.mpr ⟨cs, hrest, rfl, hmatches⟩⟩

theorem occursFrom_iff {pattern : Pattern} {text : List Char} :
    pattern.occursFrom before text = true ↔
      ∃ front cs back, text = front ++ (cs ++ back) ∧
        pattern.Matches (lastOf before front) cs back := by
  induction text generalizing before with
  | nil =>
      rw [occursFrom, isEmpty_ends_eq_false_iff]
      constructor
      · rintro ⟨cs, back, htext, hmatches⟩
        exact ⟨[], cs, back, htext, hmatches⟩
      · rintro ⟨front, cs, back, htext, hmatches⟩
        rcases List.append_eq_nil_iff.mp htext.symm with ⟨rfl, hrest⟩
        exact ⟨cs, back, hrest.symm, hmatches⟩
  | cons c text ih =>
      rw [occursFrom, Bool.or_eq_true, isEmpty_ends_eq_false_iff, ih]
      constructor
      · rintro (⟨cs, back, htext, hmatches⟩ | ⟨front, cs, back, rfl, hmatches⟩)
        · exact ⟨[], cs, back, htext, hmatches⟩
        · rw [← lastOf_cons before] at hmatches
          exact ⟨c :: front, cs, back, rfl, hmatches⟩
      · -- A match starts here if nothing comes before it.
        rintro ⟨front, cs, back, htext, hmatches⟩
        cases front with
        | nil => exact .inl ⟨cs, back, htext, hmatches⟩
        | cons first front =>
            rcases List.cons.inj htext with ⟨rfl, rfl⟩
            rw [lastOf_cons] at hmatches
            exact .inr ⟨front, cs, back, rfl, hmatches⟩

/-- A text holds a match if and only if it can be cut into what comes before, a match, and
    what comes after. -/
theorem occursIn_iff {pattern : Pattern} {text : List Char} :
    pattern.occursIn text = true ↔
      ∃ front cs back, text = front ++ (cs ++ back) ∧ pattern.Matches front.getLast? cs back := by
  rw [occursIn, occursFrom_iff]
  simp only [lastOf, Option.or_none]

theorem matches_sequence_cons {first : Pattern} {others : List Pattern} :
    (sequence (first :: others)).Matches before cs rest ↔
      ∃ u v, cs = u ++ v ∧ first.Matches before u (v ++ rest) ∧
        (sequence others).Matches (lastOf before u) v rest :=
  Iff.rfl

theorem matches_sequence_nil : (sequence []).Matches before cs rest ↔ cs = [] :=
  Iff.rfl

theorem matches_sequence_singleton {pattern : Pattern} :
    (sequence [pattern]).Matches before cs rest ↔ pattern.Matches before cs rest := by
  rw [matches_sequence_cons]
  constructor
  · rintro ⟨u, v, rfl, hmatches, hnil⟩
    rw [matches_sequence_nil.mp hnil] at hmatches ⊢
    rwa [List.append_nil]
  · intro hmatches
    exact ⟨cs, [], (List.append_nil cs).symm, hmatches, rfl⟩

theorem matches_char {c : Char} : (char c).Matches before cs rest ↔ cs = [c] := by
  constructor
  · rintro ⟨found, rfl, hfound⟩
    rw [beq_iff_eq.mp hfound]
  · rintro rfl
    exact ⟨c, rfl, beq_self_eq_true c⟩

theorem matches_literal {text : String} :
    (literal text).Matches before cs rest ↔ cs = text.toList := by
  rw [literal]
  induction text.toList generalizing before cs with
  | nil => exact Iff.rfl
  | cons c text ih =>
      rw [List.map_cons, matches_sequence_cons]
      constructor
      · rintro ⟨u, v, rfl, hchar, htext⟩
        rw [matches_char.mp hchar, ih.mp htext]
        rfl
      · rintro rfl
        exact ⟨[c], text, rfl, matches_char.mpr rfl, ih.mpr rfl⟩

theorem matches_notBefore {refuses : Char → Bool} :
    (notBefore refuses).Matches before cs rest ↔
      cs = [] ∧ ∀ c ∈ rest.head?, refuses c = false := by
  refine and_congr_right fun _ => ?_
  cases rest.head? with
  | none => exact ⟨fun _ c hc => absurd hc (Option.not_mem_none c), fun _ => rfl⟩
  | some c => simp only [Option.any_some, Bool.not_eq_true', Option.mem_some_iff, forall_eq']

/-- Whether no class of a pattern accepts a character. -/
def avoids (c : Char) : Pattern → Bool
  | empty => true
  | one accepts => !accepts c
  | many accepts => !accepts c
  | edge _ => true
  | seq first second => first.avoids c && second.avoids c
  | alt left right => left.avoids c && right.avoids c

theorem not_mem_of_avoids {pattern : Pattern} {c : Char} (h : pattern.avoids c = true)
    (hmatches : pattern.Matches before cs rest) : c ∉ cs := by
  induction pattern generalizing before cs rest with
  | empty =>
      rw [hmatches]
      exact List.not_mem_nil
  | one accepts =>
      rcases hmatches with ⟨found, rfl, hfound⟩
      intro hc
      rw [avoids, List.mem_singleton.mp hc, hfound] at h
      cases h
  | many accepts =>
      intro hc
      rw [avoids, hmatches c hc] at h
      cases h
  | edge holds =>
      rw [hmatches.1]
      exact List.not_mem_nil
  | seq first second ihFirst ihSecond =>
      rw [avoids, Bool.and_eq_true] at h
      rcases hmatches with ⟨u, v, rfl, hfirst, hsecond⟩
      rw [List.mem_append]
      rintro (hc | hc)
      · exact ihFirst h.1 hfirst hc
      · exact ihSecond h.2 hsecond hc
  | alt left right ihLeft ihRight =>
      rw [avoids, Bool.and_eq_true] at h
      rcases hmatches with hmatches | hmatches
      · exact ihLeft h.1 hmatches
      · exact ihRight h.2 hmatches

/-- Every match of the outer pattern has a match of the inner one inside. -/
def Holds (outer inner : Pattern) : Prop :=
  ∀ before cs rest, outer.Matches before cs rest →
    ∃ front found back, cs = front ++ (found ++ back) ∧
      inner.Matches (lastOf before front) found (back ++ rest)

namespace Holds

variable {outer inner first second : Pattern}

theorem occursIn (h : outer.Holds inner) {text : List Char} (houter : outer.occursIn text = true) :
    inner.occursIn text = true := by
  rcases occursIn_iff.mp houter with ⟨front, cs, back, rfl, hmatches⟩
  rcases h _ cs back hmatches with ⟨more, found, left, rfl, hinner⟩
  refine occursIn_iff.mpr ⟨front ++ more, found, left ++ back, ?_, ?_⟩
  · simp only [List.append_assoc]
  · rw [List.getLast?_append]
    exact hinner

theorem of_matches
    (h : ∀ before cs rest, outer.Matches before cs rest → inner.Matches before cs rest) :
    outer.Holds inner := by
  intro before cs rest hmatches
  refine ⟨[], cs, [], ?_, h before cs rest hmatches⟩
  rw [List.append_nil, List.nil_append]

theorem alt (hfirst : first.Holds inner) (hsecond : second.Holds inner) :
    (Pattern.alt first second).Holds inner := by
  rintro before cs rest (hmatches | hmatches)
  · exact hfirst before cs rest hmatches
  · exact hsecond before cs rest hmatches

theorem seq_right (h : second.Holds inner) : (seq first second).Holds inner := by
  rintro before cs rest ⟨u, v, rfl, _, hsecond⟩
  rcases h _ v rest hsecond with ⟨front, found, back, rfl, hinner⟩
  refine ⟨u ++ front, found, back, (List.append_assoc _ _ _).symm, ?_⟩
  rw [lastOf_append]
  exact hinner

end Holds

end Pattern

end Text

end Costwise
