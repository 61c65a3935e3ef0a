import Costwise.Proofs.Judgement
import Costwise.Proofs.Matching

/-!
# Three Ways to Halve

Three of the signals are about halving: a body halves something, it halves and
rounds, it takes the middle between two bounds. Each has a pattern of its own, and
the patterns are not parts of one another. They differ in where blanks may be, in
what may stand between the rounding call and the division, and in what may follow
the number. Still each is sharper than the one before. The division that makes a
midpoint is a rounded one, and what is rounded is a division by two
(`midpoint_holds_roundedHalving`, `roundedHalving_holds_halving`).

Two places need a reason. A rounded division may have anything but a semicolon in
front of it, and the sum of a midpoint has none. And the pattern of a midpoint does
not ask where the number two ends, because a parenthesis has to follow, with blanks
in front at most, and none of these continues a number.

The rules are tried in order, and a midpoint is asked for after halving. So when a
recursion is judged by its midpoint, the halving rule was tried and failed, and the
only thing it can have failed on is that a result is built up.

## Theorems

* `isDigit_eq_false_of_isBlank`: A blank is no digit.
* `roundedHalving_holds_halving`: A rounded halving is a halving.
* `midpoint_holds_roundedHalving`: A midpoint is a rounded halving.
* `accumulates_of_rule_eq`: A recursion judged by its midpoint builds up a result.
* `midpoint_rounded_halving_nested`: The three signals of a text, and what follows for
  the rule.
-/

namespace Costwise

open Syntax

namespace Text

-- Between the blanks beyond ASCII there is room for the digits of all scripts.
theorem digitZeros_apart : ∀ first ∈ digitZeros,
    (0xA0 < first ∧ first + 10 ≤ 0x1680) ∨ (0x1680 < first ∧ first + 10 ≤ 0x2000) ∨
      0x3000 < first := by
  decide

theorem toNat_of_isBlank {c : Char} (h : isBlank c = true) :
    c.toNat ≤ 32 ∨ c.toNat = 0x85 ∨ c.toNat = 0xA0 ∨ c.toNat = 0x1680 ∨
      (0x2000 ≤ c.toNat ∧ c.toNat ≤ 0x3000) := by
  simp only [isBlank, isAsciiBlank, Bool.or_eq_true, Bool.and_eq_true, beq_iff_eq,
    decide_eq_true_eq] at h
  by_cases hspace : c = ' '
  · rw [hspace]
    decide
  · simp only [hspace, false_or] at h
    omega

theorem isDigit_eq_false_of_isBlank {c : Char} (h : isBlank c = true) : isDigit c = false := by
  have hcode := toNat_of_isBlank h
  rw [isDigit, digitValue?]
  by_cases hascii : c.toNat < 128
  · -- The digits of ASCII come after its blanks.
    have hnot : ¬c.isDigit = true := by
      intro hdigit
      have hzero : 48 ≤ c.toNat := of_decide_eq_true (Bool.and_eq_true_iff.mp hdigit).1
      omega
    rw [if_pos hascii, if_neg hnot]
    rfl
  · have hnone :
        digitZeros.find? (fun first => first ≤ c.toNat && c.toNat < first + 10) = none := by
      rw [List.find?_eq_none]
      intro first hfirst hin
      rw [Bool.and_eq_true, decide_eq_true_eq, decide_eq_true_eq] at hin
      have := digitZeros_apart first hfirst
      omega
    rw [if_neg hascii, hnone]
    rfl

namespace Pattern

theorem forall_ne_of_avoids {pattern : Pattern} {c : Char} {before : Option Char}
    {cs rest : List Char} (h : pattern.avoids c = true)
    (hmatches : pattern.Matches before cs rest) : ∀ d ∈ cs, (d != c) = true := by
  intro d hd
  rw [bne_iff_ne]
  rintro rfl
  exact not_mem_of_avoids h hmatches hd

end Pattern

end Text

namespace Signals

open Text Pattern

variable {before : Option Char} {cs rest : List Char}

theorem matches_two :
    two.Matches before cs rest ↔
      cs = ['2'] ∧ ∀ c ∈ rest.head?, (isDigit c || c == '.') = false := by
  rw [two, matches_sequence_cons]
  constructor
  · rintro ⟨u, v, rfl, hchar, hend⟩
    rcases matches_notBefore.mp (matches_sequence_singleton.mp hend) with ⟨rfl, hnext⟩
    exact ⟨by rw [matches_char.mp hchar, List.append_nil], hnext⟩
  · rintro ⟨rfl, hnext⟩
    refine ⟨['2'], [], rfl, matches_char.mpr rfl, ?_⟩
    exact matches_sequence_singleton.mpr (matches_notBefore.mpr ⟨rfl, hnext⟩)

-- What may stand between the two of a midpoint and its last parenthesis.
theorem ends_number {blanks : List Char} (h : ∀ c ∈ blanks, isBlank c = true) :
    ∀ c ∈ (blanks ++ ')' :: rest).head?, (isDigit c || c == '.') = false := by
  intro c hc
  cases blanks with
  | nil =>
      rw [List.nil_append, List.head?_cons, Option.mem_some_iff] at hc
      rw [← hc]
      decide
  | cons blank others =>
      rw [List.cons_append, List.head?_cons, Option.mem_some_iff] at hc
      have hblank : isBlank c = true := by
        rw [← hc]
        exact h blank List.mem_cons_self
      have hpoint : c ≠ '.' := by
        rintro rfl
        exact absurd hblank (by decide)
      rw [isDigit_eq_false_of_isBlank hblank, beq_eq_false_iff_ne.mpr hpoint]
      rfl

theorem roundedHalving_holds_halving : roundedHalving.Holds halving := by
  -- Halving may have a sign of assignment after its operator, and here there is none.
  have hdivision : (sequence [.char '/', gap, two]).Holds halving := by
    refine .of_matches fun before cs rest => ?_
    rintro ⟨u, v, rfl, hslash, htwo⟩
    exact .inl ⟨u, v, rfl, hslash, [], v, rfl, .inr rfl, htwo⟩
  have hshift : (sequence [.literal ">>", shiftedOnce]).Holds halving := by
    refine .of_matches fun before cs rest => ?_
    rintro ⟨u, v, rfl, hshift, hone⟩
    exact .inr ⟨u, v, rfl, hshift, [], v, rfl, .inr rfl, hone⟩
  exact .alt (.seq_right (.seq_right hdivision)) hshift

theorem roundedSum_holds_roundedHalving :
    (sequence [rounding, gap, combined, .char '/', gap, .char '2', gap, .char ')']).Holds
      roundedHalving := by
  rintro before cs rest ⟨call, _, rfl, hcall, blanks, _, rfl, hblanks, sum, _, rfl, hsum,
    slash, _, rfl, hslash, middle, _, rfl, hmiddle, number, _, rfl, hnumber, last, close, rfl,
    hlast, hclose⟩
  obtain rfl := matches_char.mp (matches_sequence_singleton.mp hclose)
  -- The match ends with the number. What follows it in the midpoint is left over.
  have hinner : (seq gap combined).Matches (lastOf before call) (blanks ++ sum) _ :=
    ⟨blanks, sum, rfl, hblanks, hsum⟩
  have hnosemicolon : ∀ c ∈ blanks ++ sum, (c != ';') = true :=
    forall_ne_of_avoids (by decide +kernel) hinner
  have htwo : two.Matches (lastOf (lastOf (lastOf (lastOf before call) (blanks ++ sum)) slash)
      middle) number (last ++ [')'] ++ rest) := by
    refine matches_two.mpr ⟨matches_char.mp hnumber, ?_⟩
    rw [List.append_assoc]
    exact ends_number hlast
  refine ⟨[], call ++ (blanks ++ sum ++ (slash ++ (middle ++ number))), last ++ [')'], ?_,
    .inl ⟨call, _, rfl, ?_, blanks ++ sum, _, rfl, hnosemicolon, slash, _, rfl, hslash, middle, _,
      rfl, hmiddle, matches_sequence_singleton.mpr htwo⟩⟩
  · simp only [List.append_assoc, List.nil_append]
  · simpa only [List.append_assoc, lastOf_nil] using hcall

theorem shiftedSum_holds_roundedHalving :
    (sequence [combined, .literal ">>", .optional (.char '>'), shiftedOnce]).Holds
      roundedHalving := by
  refine .seq_right fun before cs rest => ?_
  rintro ⟨shift, _, rfl, hshift, third, one, rfl, hthird, hone⟩
  have hsign := matches_literal.mp hshift
  rcases hthird with hthird | hnone
  · -- Of three signs the last two are the shift, and the first is passed over.
    rw [matches_char.mp hthird, hsign] at *
    exact ⟨['>'], ">>".toList ++ one, [], by simp only [List.append_nil]; rfl,
      .inr ⟨">>".toList, one, rfl, matches_literal.mpr rfl, hone⟩⟩
  · cases hnone
    exact ⟨[], shift ++ one, [], (List.append_nil _).symm, .inr ⟨shift, one, rfl, hshift, hone⟩⟩

theorem midpoint_holds_roundedHalving : midpoint.Holds roundedHalving :=
  .alt roundedSum_holds_roundedHalving shiftedSum_holds_roundedHalving

theorem takesMidpoint_imp_halvesRounded {text : List Char}
    (h : (ofText text).takesMidpoint = true) : (ofText text).halvesRounded = true :=
  midpoint_holds_roundedHalving.occursIn h

theorem halvesRounded_imp_halves {text : List Char}
    (h : (ofText text).halvesRounded = true) : (ofText text).halves = true :=
  roundedHalving_holds_halving.occursIn h

end Signals

theorem Definition.signals_of_record {source : Source} {definition : Definition}
    {record : Record} (h : definition.record source = .ok record) :
    record.signals = Signals.ofText (source.chars definition.body) := by
  rcases exists_progress_of_record h with ⟨progress, _, rfl⟩
  rfl

/-- A recursion on a midpoint would be judged by its halving, unless it builds up a result. -/
theorem Record.accumulates_of_rule_eq {record : Record}
    (hhalves : record.signals.takesMidpoint = true → record.signals.halves = true)
    (hrule : record.rule = .recursiveMidpointSearch) : record.signals.accumulates = true := by
  have happlies := record.rule_applies
  rw [hrule] at happlies
  simp only [Rule.applies, Bool.and_eq_true] at happlies
  rcases happlies with ⟨⟨⟨⟨hrecursive, hmidpoint⟩, hreturns⟩, hcompares⟩, _⟩
  by_contra hnone
  have hearlier : Rule.recursiveHalvingSearch.applies record = true := by
    rw [Rule.applies, hrecursive, hhalves hmidpoint, hcompares, hreturns,
      eq_false_of_ne_true hnone]
    rfl
  -- The rule for halving comes before the one for midpoints, so it or the first decides.
  simp only [rule_eq_ruleBy, Rule.all, ruleBy_cons, hearlier, if_true] at hrule
  split at hrule <;> exact absurd hrule (by decide)

/-- Whatever a text holds, a midpoint in it is a rounded halving and a rounded halving is a
    halving. So no function is judged by its midpoint unless its body builds up a result. -/
theorem Signals.midpoint_rounded_halving_nested :
    (∀ text : List Char,
      ((ofText text).takesMidpoint = true → (ofText text).halvesRounded = true) ∧
      ((ofText text).halvesRounded = true → (ofText text).halves = true)) ∧
    ∀ (source : Source) (definition : Definition) (record : Record),
      definition.record source = .ok record →
        record.signals = ofText (source.chars definition.body) ∧
        (record.rule = .recursiveMidpointSearch → record.signals.accumulates = true) := by
  refine ⟨fun text => ⟨takesMidpoint_imp_halvesRounded, halvesRounded_imp_halves⟩, ?_⟩
  intro source definition record hrecord
  have hsignals := Definition.signals_of_record hrecord
  refine ⟨hsignals, Record.accumulates_of_rule_eq fun hmidpoint => ?_⟩
  rw [hsignals] at hmidpoint ⊢
  exact halvesRounded_imp_halves (takesMidpoint_imp_halvesRounded hmidpoint)

/-! A function `f` with the body `{return a.push(Math.floor((a+b)/2))<f()}`. -/

namespace MidpointRecursion

def source : Source := .ofString "\x7breturn a.push(Math.floor((a+b)/2))<f()\x7d"

def body : Node :=
  ⟨{ kind := .other "statement_block", start := 0, stop := 40, field := some .body },
    [⟨{ kind := .call, start := 36, stop := 39 },
      [⟨{ kind := .identifier, start := 36, stop := 37, field := some .callee }, []⟩]⟩]⟩

def definition : Definition := ⟨"f", ⟨{ kind := .functionDeclaration }, [body]⟩, body⟩

def record : Record where
  selfCalls := 1
  calls := [("f", 1)]
  functionName := "f"
  bodyText := "\x7breturn a.push(Math.floor((a+b)/2))<f()\x7d"
  recursive := true
  signals :=
    { returns := true, compares := true, relates := true, halves := true, halvesRounded := true,
      takesMidpoint := true, accumulates := true }

theorem judged_by_midpoint :
    definition.record source = .ok record ∧ record.rule = .recursiveMidpointSearch ∧
      record.signals.accumulates = true ∧
      (Signals.ofText (source.chars body)).takesMidpoint = true ∧
      (Signals.ofText (source.chars body)).halvesRounded = true ∧
      (Signals.ofText (source.chars body)).halves = true := by
  have hrecord : definition.record source = .ok record := by decide +kernel
  have hrule : record.rule = .recursiveMidpointSearch := by decide +kernel
  rcases Signals.midpoint_rounded_halving_nested with ⟨hnested, hjudged⟩
  rcases hjudged source definition record hrecord with ⟨hsignals, haccumulates⟩
  have hmidpoint : (Signals.ofText (source.chars body)).takesMidpoint = true := by
    rw [show body = definition.body from rfl, ← hsignals]
    rfl
  have hrounded := (hnested (source.chars body)).1 hmidpoint
  exact ⟨hrecord, hrule, haccumulates hrule, hmidpoint, hrounded, (hnested _).2 hrounded⟩

end MidpointRecursion

end Costwise
