/-
This file rounds quotients and writes numbers with two decimal places.
-/

namespace ContentMount.Number

/-- The nearest integer to a quotient. Of two that are equally near the even one is taken. -/
def roundDiv (dividend divisor : Nat) : Nat :=
  let quotient := dividend / divisor
  let twice := 2 * (dividend % divisor)
  if twice < divisor || (twice == divisor && quotient % 2 == 0) then quotient else quotient + 1

/-- The text of a number of hundredths, with both decimal places. -/
def hundredths (n : Nat) : String :=
  let places := n % 100
  toString (n / 100) ++ "." ++ (if places < 10 then "0" else "") ++ toString places

/-- The quotient is never further than half a unit from the exact value. -/
theorem roundDiv_near (dividend divisor : Nat) (positive : 0 < divisor) :
    2 * dividend ≤ (2 * roundDiv dividend divisor + 1) * divisor ∧
      2 * roundDiv dividend divisor * divisor ≤ 2 * dividend + divisor := by
  have split := Nat.div_add_mod dividend divisor
  have small := Nat.mod_lt dividend positive
  unfold roundDiv
  generalize dividend / divisor = quotient at *
  generalize dividend % divisor = rest at *
  subst split
  simp only [Bool.or_eq_true, decide_eq_true_eq, Bool.and_eq_true, beq_iff_eq]
  split
  · rename_i h
    constructor <;> grind
  · rename_i h
    constructor <;> grind

end ContentMount.Number
