import Costwise.Number.Binary64
import Mathlib.Algebra.Group.Nat.Defs

/-!
# Which Integers Are in Range

An integer is read as the nearest double-precision value, and if it is too large
there is none. This file says what too large means. The greatest finite value is
`2 ^ 1024 - 2 ^ 971`, and an integer may be somewhat greater and still be nearest
to it. Half the way to `2 ^ 1024` is the limit, and the limit itself is out of
range: of the two values that are equally near, the greatest finite one has an odd
significand and the other an even one.

The proof follows the rounding. An integer needs no denominator, so its exponent
can be read off its length (`fittingExponent_one`). Integers of more than 1024 bits
have too great an exponent, those of fewer bits have room to spare, and for those
of 1024 bits everything depends on whether rounding carries into one more bit
(`divideToEven_eq_iff`).

## Theorems

* `divideToEven_eq_iff`: When a quotient below an even number is rounded up to it.
* `fittingExponent_one`: The exponent of an integer.
* `ofInt?_eq_none_iff`: Which integers are out of range.
-/

namespace Costwise

theorem divideToEven_le (numerator denominator : Nat) :
    divideToEven numerator denominator ≤ numerator / denominator + 1 := by
  simp only [divideToEven]
  split
  · omega
  · split <;> omega

/-- A quotient below an even number is rounded up to it from half a unit below it on.
    The half itself is included, since the number below is odd. -/
theorem divideToEven_eq_iff {numerator half bound : Nat} (heven : bound % 2 = 0)
    (hlt : numerator < bound * (2 * half)) :
    divideToEven numerator (2 * half) = bound ↔ bound * (2 * half) - half ≤ numerator := by
  have hhalf : 0 < half := by
    rcases Nat.eq_zero_or_pos half with rfl | hpos
    · exact absurd hlt (Nat.not_lt_zero _)
    · exact hpos
  have hquotient : numerator / (2 * half) < bound :=
    Nat.div_lt_of_lt_mul (by rw [Nat.mul_comm]; exact hlt)
  have hdivmod := Nat.div_add_mod numerator (2 * half)
  have hremainder := Nat.mod_lt numerator (show 0 < 2 * half by omega)
  have hrounded := divideToEven_le numerator (2 * half)
  rcases Nat.lt_or_ge (numerator / (2 * half) + 1) bound with hfar | hnear
  · -- More than a unit below, rounding up does not get there.
    have hunits : 2 * half * (numerator / (2 * half)) + 2 * half * 2 ≤ bound * (2 * half) := by
      rw [← Nat.mul_add, Nat.mul_comm bound]
      exact Nat.mul_le_mul_left _ hfar
    constructor
    · intro heq
      omega
    · intro hle
      omega
  · have hlast : numerator / (2 * half) + 1 = bound := by omega
    have hunits : bound * (2 * half) = 2 * half * (numerator / (2 * half)) + 2 * half := by
      rw [← hlast, Nat.mul_comm, Nat.mul_add, Nat.mul_one]
    simp only [divideToEven]
    -- Within the last unit the remainder decides, and on a tie that the quotient is odd.
    split
    · constructor
      · intro heq
        omega
      · intro hle
        omega
    · split
      · exact iff_of_true hlast (by omega)
      · exact iff_of_true (by omega) (by omega)

namespace Binary64

theorem scale_natCast (n k : Nat) : scale n (k : Int) = (n * 2 ^ k, 1) := rfl

theorem scale_neg_natCast (n k : Nat) : scale n (-(k : Int)) = (n, 2 ^ k) := by
  cases k with
  | zero => exact congrArg (·, 1) (Nat.mul_one n)
  | succ k => rfl

/-- An integer scaled to the length of a significand has that length. -/
theorem pow_le_scale {m : Nat} (hm : m ≠ 0) :
    (scale m (-((m.log2 : Int) - 52))).2 * 2 ^ 52 ≤ (scale m (-((m.log2 : Int) - 52))).1 := by
  have hself := Nat.log2_self_le hm
  rcases Nat.le_total 52 m.log2 with hlong | hshort
  · -- The low bits of a long integer are divided off.
    have hexponent : -((m.log2 : Int) - 52) = -((m.log2 - 52 : Nat) : Int) := by omega
    rw [hexponent, scale_neg_natCast, ← Nat.pow_add, Nat.sub_add_cancel hlong]
    exact hself
  · have hexponent : -((m.log2 : Int) - 52) = ((52 - m.log2 : Nat) : Int) := by omega
    rw [hexponent, scale_natCast, Nat.one_mul]
    calc 2 ^ 52 = 2 ^ m.log2 * 2 ^ (52 - m.log2) := by
          rw [← Nat.pow_add, Nat.add_sub_cancel' hshort]
      _ ≤ m * 2 ^ (52 - m.log2) := Nat.mul_le_mul_right _ hself

/-- The exponent of an integer is its length less that of a significand. The guess from
    the lengths is right, and it is never the least exponent. -/
theorem fittingExponent_one {m : Nat} (hm : m ≠ 0) :
    fittingExponent m 1 = (m.log2 : Int) - 52 := by
  have hone : Nat.log2 1 = 0 := by decide
  have hguess : (m.log2 : Int) - (Nat.log2 1 : Nat) - (precision - 1 : Nat)
      = (m.log2 : Int) - 52 := by
    rw [hone]
    simp only [precision]
    omega
  have hlong := pow_le_scale hm
  rw [fittingExponent]
  simp only [hguess]
  rw [if_neg]
  · simp only [leastExponent]
    omega
  · rw [Nat.mul_one]
    exact Nat.not_lt.mpr hlong

/-- The significand of a positive integer, before a carry is taken care of. -/
def integerSignificand (m : Nat) : Nat :=
  divideToEven (scale m (-((m.log2 : Int) - 52))).1 (scale m (-((m.log2 : Int) - 52))).2

theorem ofRatio_one (negative : Bool) {m : Nat} (hm : m ≠ 0) :
    ofRatio negative m 1 =
      if integerSignificand m = 2 ^ precision then
        if greatestExponent < (m.log2 : Int) - 52 + 1 then infinite negative
        else finite negative (2 ^ (precision - 1)) ((m.log2 : Int) - 52 + 1)
      else if greatestExponent < (m.log2 : Int) - 52 then infinite negative
      else finite negative (integerSignificand m) ((m.log2 : Int) - 52) := by
  have hratio : ¬ (m = 0 ∨ 1 = 0) := by omega
  rw [ofRatio, if_neg hratio, fittingExponent_one hm]
  simp only [Nat.mul_one, Nat.pow_eq]
  rw [integerSignificand]
  split
  · rfl
  · rfl

theorem ofInt?_eq_none_iff_of_ne_zero {n : Int} (hn : n.natAbs ≠ 0) :
    ofInt? n = none ↔
      greatestExponent < (n.natAbs.log2 : Int) - 52 ∨
        (integerSignificand n.natAbs = 2 ^ precision ∧
          greatestExponent < (n.natAbs.log2 : Int) - 52 + 1) := by
  rw [ofInt?, ofRatio_one _ hn]
  by_cases hcarry : integerSignificand n.natAbs = 2 ^ precision
  · rw [if_pos hcarry]
    by_cases hout : greatestExponent < (n.natAbs.log2 : Int) - 52 + 1
    · rw [if_pos hout]
      exact iff_of_true rfl (.inr ⟨hcarry, hout⟩)
    · rw [if_neg hout]
      refine iff_of_false (by simp only [reduceCtorEq, not_false_eq_true]) ?_
      omega
  · rw [if_neg hcarry]
    by_cases hout : greatestExponent < (n.natAbs.log2 : Int) - 52
    · rw [if_pos hout]
      exact iff_of_true rfl (.inl hout)
    · rw [if_neg hout]
      refine iff_of_false (by simp only [reduceCtorEq, not_false_eq_true]) ?_
      rintro (hlt | ⟨heq, _⟩)
      · exact hout hlt
      · exact hcarry heq

/-- Rounding an integer carries into one more bit from half a unit below the next power
    of two on. -/
theorem integerSignificand_eq_iff {m k : Nat} (hm : m ≠ 0) (hlength : m.log2 = k + 53) :
    integerSignificand m = 2 ^ precision ↔ 2 ^ (k + 54) - 2 ^ k ≤ m := by
  have hexponent : -((m.log2 : Int) - 52) = -((k + 1 : Nat) : Int) := by omega
  have hpower : 2 ^ (k + 54) = 2 ^ precision * (2 * 2 ^ k) := by
    rw [← Nat.pow_succ', ← Nat.pow_add]
    congr 1
    simp only [precision]
    omega
  have hlt : m < 2 ^ precision * (2 * 2 ^ k) := by
    rw [← hpower]
    exact (Nat.log2_lt hm).mp (by omega)
  rw [integerSignificand, hexponent, scale_neg_natCast, hpower, Nat.pow_succ']
  exact divideToEven_eq_iff (by decide) hlt

/-- The integers that are out of range, for a greatest exponent of any size. -/
theorem ofInt?_eq_none_iff_of_greatestExponent {k : Nat} (hk : greatestExponent = k + 1) (n : Int) :
    ofInt? n = none ↔ 2 ^ (k + 54) - 2 ^ k ≤ n.natAbs := by
  -- The limit lies between the last power of two in range and the first beyond it.
  have hdouble : 2 ^ (k + 54) = 2 ^ (k + 53) + 2 ^ (k + 53) := by
    rw [← Nat.two_mul, ← Nat.pow_succ']
  have hunit : 2 ^ k ≤ 2 ^ (k + 53) := Nat.pow_le_pow_right (by decide) (by omega)
  rcases Nat.eq_zero_or_pos n.natAbs with hzero | hpos
  · have hn : n = 0 := Int.natAbs_eq_zero.mp hzero
    have hpower : 0 < 2 ^ (k + 53) := Nat.two_pow_pos _
    rw [hn]
    exact iff_of_false (by decide) (by rw [Int.natAbs_zero]; omega)
  have hn : n.natAbs ≠ 0 := by omega
  rw [ofInt?_eq_none_iff_of_ne_zero hn, hk]
  rcases Nat.lt_trichotomy n.natAbs.log2 (k + 53) with hshort | hlength | hlong
  · -- Fewer bits leave room even for a carry.
    have hlt := (Nat.log2_lt hn).mp hshort
    exact iff_of_false (by omega) (by omega)
  · rw [← integerSignificand_eq_iff hn hlength]
    constructor
    · rintro (hout | ⟨hcarry, _⟩)
      · omega
      · exact hcarry
    · intro hcarry
      exact .inr ⟨hcarry, by omega⟩
  · have hge : 2 ^ (k + 54) ≤ n.natAbs := by
      refine Nat.le_trans (Nat.pow_le_pow_right (by decide) ?_) (Nat.log2_self_le hn)
      omega
    exact iff_of_true (.inl (by omega)) (Nat.le_trans (Nat.sub_le _ _) hge)

/-- The integers that are out of range are those from the limit on, half the way from the
    greatest finite value to the next power of two. -/
theorem ofInt?_eq_none_iff (n : Int) : ofInt? n = none ↔ 2 ^ 1024 - 2 ^ 970 ≤ n.natAbs := by
  have hlimit := ofInt?_eq_none_iff_of_greatestExponent (k := 970) rfl n
  simp only [Nat.reduceAdd] at hlimit
  exact hlimit

end Binary64

end Costwise
