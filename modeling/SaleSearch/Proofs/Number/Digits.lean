import Mathlib.Algebra.Group.Nat.Defs
import Mathlib.Data.List.Induction
import SaleSearch.Number.Numeral

/-!
# Numbers in decimal digits

What digits denote, and how the number that they denote is written.

* `digitsValue_append`, `digitsValue_zeros` : digits one after the other, and zeros in front.
* `digitsValue_lt`, `le_digitsValue` : what so many digits may denote.
* `exists_zeros` : digits are the text of the number that they denote, after zeros that do not
  count.
* `length_repr_eq_iff` : a number has so many digits if it lies between two powers of ten.
-/

namespace SaleSearch.Number

open Text

lemma digitsValue_singleton (c : Char) : digitsValue [c] = c.toNat - 48 := by
  simp [digitsValue, Nat.ofDigitChars_cons]

lemma digitsValue_append (a b : List Char) :
    digitsValue (a ++ b) = 10 ^ b.length * digitsValue a + digitsValue b := by
  rw [digitsValue, Nat.ofDigitChars_append, Nat.ofDigitChars_eq_ofDigitChars_zero]
  rfl

@[simp] lemma digitsValue_zeros (count : Nat) (digits : List Char) :
    digitsValue (List.replicate count '0' ++ digits) = digitsValue digits := by
  rw [digitsValue, Nat.ofDigitChars_append, Nat.ofDigitChars_replicate_zero, Nat.mul_zero]
  rfl

@[simp] lemma digitsValue_toDigits (n : Nat) : digitsValue (Nat.toDigits 10 n) = n :=
  Nat.ofDigitChars_ten_toDigits

lemma isAsciiDigit_iff {c : Char} : isAsciiDigit c = true ↔ 48 ≤ c.toNat ∧ c.toNat ≤ 57 := by
  show (decide (c.val ≥ '0'.val) && decide (c.val ≤ '9'.val)) = true ↔ _
  rw [Bool.and_eq_true, decide_eq_true_iff, decide_eq_true_iff]
  exact Iff.rfl

lemma digitsValue_lt {digits : List Char} (ascii : ∀ c ∈ digits, isAsciiDigit c = true) :
    digitsValue digits < 10 ^ digits.length := by
  induction digits using List.reverseRecOn with
  | nil => decide
  | append_singleton front c ih =>
      have shorter := ih fun d hd => ascii d (by simp [hd])
      have digit := isAsciiDigit_iff.1 (ascii c (by simp))
      rw [digitsValue_append, digitsValue_singleton, List.length_append, List.length_singleton,
        Nat.pow_succ]
      omega

/-- The first digit of a number says how large the number is at least. -/
lemma le_digitsValue {c : Char} {rest : List Char} (ascii : isAsciiDigit c = true)
    (counts : c ≠ '0') : 10 ^ rest.length ≤ digitsValue (c :: rest) := by
  have digit := isAsciiDigit_iff.1 ascii
  have positive : 1 ≤ c.toNat - 48 := by
    by_contra zero
    exact counts (Char.toNat_inj.1 (show c.toNat = 48 by omega))
  calc 10 ^ rest.length
      ≤ 10 ^ rest.length * (c.toNat - 48) := Nat.le_mul_of_pos_right _ positive
    _ ≤ digitsValue ([c] ++ rest) := by
        rw [digitsValue_append, digitsValue_singleton]
        exact Nat.le_add_right ..

/-- A digit is the text of its value. -/
lemma toDigits_digitsValue_singleton {c : Char} (ascii : isAsciiDigit c = true) :
    Nat.toDigits 10 (digitsValue [c]) = [c] := by
  have digit := isAsciiDigit_iff.1 ascii
  have small : c.toNat - 48 < 10 := by omega
  rw [digitsValue_singleton, Nat.toDigits_of_lt_base small]
  refine congrArg (fun d => [d]) (Char.toNat_inj.1 ?_)
  rw [Nat.toNat_digitChar_of_lt_ten small]
  omega

/-- **Digits are the text of the number that they denote, after zeros that do not count.** -/
theorem exists_zeros {digits : List Char} (nonempty : digits ≠ [])
    (ascii : ∀ c ∈ digits, isAsciiDigit c = true) :
    ∃ zeros, digits = List.replicate zeros '0' ++ Nat.toDigits 10 (digitsValue digits) := by
  induction digits using List.reverseRecOn with
  | nil => exact absurd rfl nonempty
  | append_singleton front c ih =>
      have last := ascii c (by simp)
      have digit := isAsciiDigit_iff.1 last
      by_cases only : front = []
      · exact ⟨0, by simp [only, toDigits_digitsValue_singleton last]⟩
      obtain ⟨zeros, eq⟩ := ih only fun d hd => ascii d (by simp [hd])
      rw [digitsValue_append, digitsValue_singleton, List.length_singleton, Nat.pow_one]
      -- A zero that is a number of its own becomes one more zero in front.
      obtain zero | positive := Nat.eq_zero_or_pos (digitsValue front)
      · refine ⟨zeros + 1, ?_⟩
        rw [zero, Nat.mul_zero, Nat.zero_add, ← digitsValue_singleton,
          toDigits_digitsValue_singleton last, List.replicate_succ', eq, zero, Nat.toDigits_zero]
      · refine ⟨zeros, ?_⟩
        rw [← Nat.toDigits_append_toDigits (by decide) positive (by omega), ← List.append_assoc,
          ← eq, ← digitsValue_singleton, toDigits_digitsValue_singleton last]

/-! ## The length of a number -/

/-- A number has `k + 2` digits between two powers of ten. -/
lemma length_repr_eq_iff {n k : Nat} :
    n.repr.length = k + 2 ↔ 10 ^ (k + 1) ≤ n ∧ n < 10 ^ (k + 2) := by
  have low := Nat.length_repr_le_iff (show 0 < k + 1 by omega) (n := n)
  have high := Nat.length_repr_le_iff (show 0 < k + 2 by omega) (n := n)
  omega

/-! ## Texts -/

/-- A text with zeros in front. -/
def zeroPadded (zeros : Nat) (text : String) : String :=
  String.ofList (List.replicate zeros '0') ++ text

@[simp] lemma toList_zeroPadded (zeros : Nat) (text : String) :
    (zeroPadded zeros text).toList = List.replicate zeros '0' ++ text.toList := by
  simp [zeroPadded]

lemma isAsciiDigit_of_mem_zeroPadded {zeros n : Nat} {c : Char}
    (among : c ∈ (zeroPadded zeros n.repr).toList) : isAsciiDigit c = true := by
  rw [toList_zeroPadded, List.mem_append, List.mem_replicate, Nat.toList_repr] at among
  rcases among with ⟨-, rfl⟩ | among
  · decide
  · exact Nat.isDigit_of_mem_toDigits (by decide) (by decide) among

lemma zeroPadded_repr_ne_nil (zeros n : Nat) : (zeroPadded zeros n.repr).toList ≠ [] := by
  rw [toList_zeroPadded, Nat.toList_repr]
  exact List.append_ne_nil_of_right_ne_nil _ (List.ne_nil_of_length_pos Nat.length_toDigits_pos)

@[simp] lemma digitsValue_zeroPadded_repr (zeros n : Nat) :
    digitsValue (zeroPadded zeros n.repr).toList = n := by
  rw [toList_zeroPadded, digitsValue_zeros, Nat.toList_repr, digitsValue_toDigits]

end SaleSearch.Number
