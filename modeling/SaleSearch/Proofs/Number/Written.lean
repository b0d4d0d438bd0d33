import Mathlib.Tactic.Common
import SaleSearch.Number.Layout
import Std.Data.String.ToNat

/-!
# The characters of written numbers

* `decimal_injective`: a whole number can be read off its text.
* `plain_text_chars`: a positive finite number is written in digits and points alone, without an
  exponent or a sign.
-/

namespace SaleSearch.Number

lemma isDigit_of_mem_repr {n : Nat} {c : Char} (h : c ∈ n.repr.toList) : c.isDigit = true :=
  Nat.isDigit_of_mem_toDigits (by decide) (by decide) (Nat.toList_repr ▸ h)

/-- A text that begins with a hyphen is not that of a natural number. -/
lemma hyphen_append_repr_ne (n m : Nat) : "-" ++ n.repr ≠ m.repr := by
  intro h
  have hyphen : '-' ∈ m.repr.toList := h ▸ by simp [String.toList_append]
  exact absurd (isDigit_of_mem_repr hyphen) (by decide)

/-- Different integers are written differently. -/
theorem decimal_injective {a b : Int} (h : decimal a = decimal b) : a = b := by
  unfold decimal at h
  split at h <;> split at h
  · have := Nat.repr_injective ((String.append_right_inj "-").1 h)
    omega
  · exact absurd h (hyphen_append_repr_ne _ _)
  · exact absurd h.symm (hyphen_append_repr_ne _ _)
  · have := Nat.repr_injective h
    omega

/-! ## Numbers with a point -/

lemma isDigit_of_mem_ofScaled {c : Nat} {k : Int} {d : Char}
    (h : d ∈ (Digits.ofScaled c k).digits) : d.isDigit = true := by
  simp only [Digits.ofScaled, List.mem_reverse] at h
  have kept := List.mem_reverse.1 ((List.dropWhile_suffix _).subset h)
  exact Nat.isDigit_of_mem_toDigits (by decide) (by decide) kept

lemma setOut_ne_nil (pointZero : Bool) (d : Digits) : Layout.setOut pointZero d ≠ [] := by
  unfold Layout.setOut
  split
  · simp
  · dsimp only
    split
    · rename_i short
      intro h
      simp only [List.append_eq_nil_iff, List.replicate_eq_nil_iff] at h
      rw [h.1.1] at short h
      simp at h
    · simp

/-- Setting out digits adds zeros and a point. -/
lemma mem_setOut {d : Digits} (hd : ∀ c ∈ d.digits, c.isDigit = true) {c : Char}
    (h : c ∈ Layout.setOut false d) : c.isDigit = true ∨ c = '.' := by
  simp only [Layout.setOut, Bool.false_eq_true, ↓reduceIte, List.append_nil] at h
  split_ifs at h
  · simp only [List.cons_append, List.mem_cons, List.mem_append, List.mem_replicate] at h
    rcases h with rfl | rfl | ⟨-, rfl⟩ | h
    · decide
    · exact .inr rfl
    · decide
    · exact .inl (hd c h)
  · simp only [List.mem_append, List.mem_replicate] at h
    rcases h with h | ⟨-, rfl⟩
    · exact .inl (hd c h)
    · decide
  · simp only [List.mem_append, List.mem_cons] at h
    rcases h with h | rfl | h
    · exact .inl (hd c (List.mem_of_mem_take h))
    · exact .inr rfl
    · exact .inl (hd c (List.mem_of_mem_drop h))

/-- What a plain layout writes for a finite number without a sign. -/
lemma exists_plain_text {x : Binary64} (finite : x.isFinite = true)
    (positive : x.isPositive = true) :
    ∃ d : Digits, (∀ c ∈ d.digits, c.isDigit = true)
      ∧ (Layout.plain.text x).toList = Layout.setOut false d := by
  cases x with
  | finite negative significand exponent =>
      have sign : negative = false := by
        simp only [Binary64.isPositive, Bool.and_eq_true, Bool.not_eq_true'] at positive
        exact positive.1
      subst sign
      by_cases zero : significand = 0
      · exact ⟨{ digits := ['0'], exponent := 0 }, by simp, by
          simp [Layout.text, Layout.digits, Layout.isPositional, Layout.plain, zero]⟩
      · refine ⟨shortest .up significand exponent, fun c hc => isDigit_of_mem_ofScaled hc, ?_⟩
        simp [Layout.text, Layout.digits, Layout.isPositional, Layout.plain, zero]
  | infinite negative => cases finite
  | nan => cases finite

/-- A finite positive number has a non-empty plain text of digits and points. -/
theorem plain_text_chars {x : Binary64} (finite : x.isFinite = true)
    (positive : x.isPositive = true) :
    Layout.plain.text x ≠ ""
      ∧ ∀ c ∈ (Layout.plain.text x).toList, c.isDigit = true ∨ c = '.' := by
  obtain ⟨d, digits, text⟩ := exists_plain_text finite positive
  refine ⟨fun empty => setOut_ne_nil false d ?_, fun c hc => mem_setOut digits (text ▸ hc)⟩
  rw [← text, empty]
  rfl

end SaleSearch.Number
