import Mathlib.Data.List.Basic
import SaleSearch.Grammar.Timestamp

/-!
# Timestamps that are numbers

A number is recognised by its length, ten for seconds and thirteen for milliseconds.  What is meant
is the number of its digits.  What is measured is its text, where the sign of a negative number
counts like a digit.

* `byDigits` is the rule by the digits alone, for any two lengths.
* `ofNumber_eq_byDigits` : a number that is not negative is read by the rule that is meant, and a
  negative one by that of one digit fewer.  So the rule that is meant is kept except by negative
  numbers of nine, ten, twelve or thirteen digits.
* `sign_counts` is a number that has nine digits and is taken for seconds.
-/

namespace SaleSearch.Grammar.Timestamp

open Number

/-- Numbers of a first length are seconds, numbers of a second one milliseconds, of which the part
of a second that has begun does not count. -/
def byDigits (seconds milliseconds : Nat) (n : Int) : Except MalformedTimestamp Int :=
  if n.natAbs.repr.length = seconds then .ok n
  else if n.natAbs.repr.length = milliseconds then .ok (n.fdiv 1000)
  else .error { input := decimal n }

lemma length_decimal (n : Int) :
    (decimal n).length = n.natAbs.repr.length + if n < 0 then 1 else 0 := by
  unfold decimal
  split
  · rw [String.length_append, Nat.add_comm]
    rfl
  · rfl

lemma ofNumber_of_nonneg {n : Int} (h : 0 ≤ n) : ofNumber n = byDigits 10 13 n := by
  have length : (decimal n).length = n.natAbs.repr.length := by
    rw [length_decimal, if_neg (by omega), Nat.add_zero]
  rw [ofNumber, length, byDigits, Int.fdiv_eq_ediv_of_nonneg n (by decide)]

lemma ofNumber_of_neg {n : Int} (h : n < 0) : ofNumber n = byDigits 9 12 n := by
  have length : (decimal n).length = n.natAbs.repr.length + 1 := by
    rw [length_decimal, if_pos h]
  rw [ofNumber, length, byDigits, Int.fdiv_eq_ediv_of_nonneg n (by decide)]
  simp only [Nat.reduceEqDiff]

/-- One digit fewer makes a difference where one of the rules takes a number and the other does
not. -/
lemma byDigits_eq_iff (n : Int) :
    byDigits 9 12 n = byDigits 10 13 n ↔ n.natAbs.repr.length ∉ [9, 10, 12, 13] := by
  unfold byDigits
  generalize n.natAbs.repr.length = digits
  by_cases nine : digits = 9
  · simp [nine]
  · by_cases ten : digits = 10
    · simp [ten]
    · by_cases twelve : digits = 12
      · simp [twelve]
      · by_cases thirteen : digits = 13 <;> simp [nine, ten, twelve, thirteen]

/-- **`ofNumber` measures the text of a number, in which a minus sign counts.**  So a negative
number is read by nine and twelve digits instead of ten and thirteen. -/
theorem ofNumber_eq_byDigits (n : Int) :
    ofNumber n = (if 0 ≤ n then byDigits 10 13 n else byDigits 9 12 n)
      ∧ (ofNumber n = byDigits 10 13 n ↔ 0 ≤ n ∨ n.natAbs.repr.length ∉ [9, 10, 12, 13]) := by
  by_cases sign : 0 ≤ n
  · rw [if_pos sign, ofNumber_of_nonneg sign]
    exact ⟨rfl, iff_of_true rfl (.inl sign)⟩
  · rw [if_neg sign, ofNumber_of_neg (Int.not_le.1 sign), byDigits_eq_iff]
    exact ⟨rfl, (or_iff_right sign).symm⟩

/-- `-999999999` has nine digits and is taken for seconds. -/
theorem sign_counts : ¬ ∀ n, fitsInt64 n = true → ofNumber n = byDigits 10 13 n := by
  intro agrees
  exact absurd (agrees (-999999999) (by decide)) (by decide)

end SaleSearch.Grammar.Timestamp
