import SaleSearch.Proofs.Quantity.Integer

/-!
# Page sizes

The size that a request for a number of rows is to have is `clamped`: the number itself, but at
least one, and no more than the maximum.  The number is read into 64 bits first, and one that does
not fit counts as no number at all, for which the size is one.

* `pageSize_of_digits` : digits of any length are clamped as long as their number fits.  From then
  on a larger request makes a smaller page.
* `pageSize_not_clamped` : the least number that does not fit.
-/

namespace SaleSearch.Grammar

open Number Text

/-- The page size for `n` rows: `n`, at least one and at most the maximum. -/
def clamped (n maxLimit : Nat) : Nat :=
  if n = 0 then 1 else min n (max maxLimit 1)

lemma clamped_eq_one_iff {n maxLimit : Nat} (many : 1 < n) :
    clamped n maxLimit = 1 ↔ maxLimit ≤ 1 := by
  rw [clamped, if_neg (by omega)]
  omega

lemma clamped_mono {n n' maxLimit : Nat} (more : n ≤ n') :
    clamped n maxLimit ≤ clamped n' maxLimit := by
  unfold clamped
  split_ifs <;> omega

/-- Digits are clamped as far as their number fits 64 bits, and give a page of one row otherwise. -/
lemma pageSize_eq_clamped {text : String} (given : text ≠ "")
    (ascii : ∀ c ∈ text.toList, isAsciiDigit c = true) (maxLimit : Nat) :
    pageSize (some text) maxLimit
      = if digitsValue text.toList < 2 ^ 63 then clamped (digitsValue text.toList) maxLimit
        else 1 := by
  have begins := begins_digits given ascii
  have sign : signed false (digitsValue text.toList) = digitsValue text.toList := rfl
  split
  · rename_i fits
    obtain zero | positive := Nat.eq_zero_or_pos (digitsValue text.toList)
    · have absent := ReadsInteger.nonpositive begins ascii (by omega) (by omega)
      rw [pageSize, absent.positiveInteger_eq, zero, clamped, if_pos rfl]
      exact Nat.min_eq_left (Nat.le_max_right _ _)
    · have value := ReadsInteger.positive begins ascii sign positive (by omega)
      rw [pageSize, value.positiveInteger_eq, clamped, if_neg positive.ne']
      rfl
  · rename_i excess
    have outside := ReadsInteger.outside begins ascii (by omega)
    rw [pageSize, outside.positiveInteger_eq]
    exact Nat.min_eq_left (Nat.le_max_right _ _)

/-! ## Pages of any request

What is sent as a limit may be anything, and the maximum may be zero. -/

/-- `pageSize` is never zero. -/
lemma one_le_pageSize (raw : Option String) (maxLimit : Nat) : 1 ≤ pageSize raw maxLimit := by
  have requested : 1 ≤ (positiveInteger raw).value?.getD 1 := by
    cases read : (positiveInteger raw).value? with
    | none => exact Nat.le_refl 1
    | some n => exact (range_of_value? read).1
  exact Nat.le_min.2 ⟨requested, Nat.le_max_right ..⟩

/-- `pageSize` is at most the maximum, or one if that is zero. -/
lemma pageSize_le (raw : Option String) (maxLimit : Nat) :
    pageSize raw maxLimit ≤ max 1 maxLimit := by
  rw [Nat.max_comm]
  exact Nat.min_le_right ..

/-- `pageSize` does not decrease with the maximum. -/
lemma pageSize_mono (raw : Option String) {maxLimit larger : Nat} (h : maxLimit ≤ larger) :
    pageSize raw maxLimit ≤ pageSize raw larger := by
  unfold pageSize
  omega

/-- A positive number below `2 ^ 63` in front of the text is the page size, up to the maximum. -/
lemma pageSize_of_begins {text : String} {negative : Bool} {digits : List Char} {k : Nat}
    (begins : Begins negative digits text.toList) (ascii : ∀ c ∈ digits, isAsciiDigit c = true)
    (denotes : signed negative (digitsValue digits) = k) (positive : 1 ≤ k) (fits : k < 2 ^ 63)
    (maxLimit : Nat) : pageSize (some text) maxLimit = min k (max 1 maxLimit) := by
  have value := ReadsInteger.positive begins ascii denotes positive (by omega)
  rw [pageSize, value.positiveInteger_eq, Nat.max_comm]
  rfl

/-- **For digits `pageSize` is `clamped` exactly as long as their number is below `2 ^ 63`.**  From
there on it is one, which is less than what smaller requests get unless the maximum is at most
one. -/
theorem pageSize_of_digits {text : String} {n : Nat} (given : text ≠ "")
    (ascii : ∀ c ∈ text.toList, isAsciiDigit c = true) (denotes : digitsValue text.toList = n)
    (maxLimit : Nat) :
    pageSize (some text) maxLimit = (if n < 2 ^ 63 then clamped n maxLimit else 1)
      ∧ (pageSize (some text) maxLimit = clamped n maxLimit ↔ n < 2 ^ 63 ∨ maxLimit ≤ 1)
      ∧ ∀ fewer, fewer ≠ "" → (∀ c ∈ fewer.toList, isAsciiDigit c = true) →
          digitsValue fewer.toList ≤ n → n < 2 ^ 63 →
          pageSize (some fewer) maxLimit ≤ pageSize (some text) maxLimit := by
  subst denotes
  rw [pageSize_eq_clamped given ascii]
  refine ⟨rfl, ?_, fun fewer given' ascii' less fits => ?_⟩
  · split
    · rename_i fits
      exact iff_of_true rfl (.inl fits)
    · rename_i excess
      rw [eq_comm, clamped_eq_one_iff (by omega), or_iff_right excess]
  · rw [pageSize_eq_clamped given' ascii', if_pos fits, if_pos (by omega)]
    exact clamped_mono less

/-- The greatest number that fits 64 bits gives the maximum. -/
theorem pageSize_of_digits_greatest :
    pageSize (some "9223372036854775807") 500 = 500
      ∧ pageSize (some "10") 500 ≤ pageSize (some "9223372036854775807") 500 := by
  have ascii : ∀ c ∈ "9223372036854775807".toList, isAsciiDigit c = true :=
    List.all_eq_true.1 (by decide)
  obtain ⟨eq, -, mono⟩ := pageSize_of_digits (by decide) ascii
    (show digitsValue "9223372036854775807".toList = 9223372036854775807 by decide) 500
  exact ⟨eq, mono "10" (by decide) (List.all_eq_true.1 (by decide)) (by decide) (by decide)⟩

/-- `2 ^ 63` is above every maximum, but does not fit 64 bits and gives a page of one row. -/
theorem pageSize_not_clamped :
    ¬ ∀ text n maxLimit, text ≠ "" → (∀ c ∈ text.toList, isAsciiDigit c = true) →
      digitsValue text.toList = n → maxLimit < 2 ^ 64 →
      pageSize (some text) maxLimit = clamped n maxLimit := by
  intro always
  have page := always "9223372036854775808" 9223372036854775808 500 (by decide)
    (List.all_eq_true.1 (by decide)) (by decide) (by decide)
  exact absurd page (by decide)

end SaleSearch.Grammar
