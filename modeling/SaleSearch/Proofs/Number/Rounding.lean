import Mathlib.Algebra.Order.Field.Power
import Mathlib.Algebra.Order.Ring.Abs
import Mathlib.Data.Rat.Cast.Order
import Mathlib.Tactic.FieldSimp
import Mathlib.Tactic.GCongr
import Mathlib.Tactic.Linarith
import Mathlib.Tactic.NormNum
import Mathlib.Tactic.Positivity
import Mathlib.Tactic.Ring
import SaleSearch.Number.Binary64

/-!
# Correct rounding

What it means that a binary number of 64 bits is the one that a quotient rounds to.  The sign is
carried over, so it is enough to say so for magnitudes.

* `InFormat` are the significands and exponents of the finite numbers, each number once.
* `Nearest q m e` : no number is nearer to `q`, and if another one is equally near, then the
  significand `m` is even.
* `Rounds negative q x` : below `overflow`, which lies half a unit above the greatest finite number,
  `x` is the nearest number, and from there on the infinity.
* `Rounds.unique` : there is at most one such number.  Two numbers that are equally near would both
  have an even significand, and the odd one between them would be nearer.
-/

namespace SaleSearch.Number.Binary64

/-- `significand * 2 ^ exponent` as a rational number. -/
def magnitude (significand : Nat) (exponent : Int) : ℚ :=
  significand * 2 ^ exponent

/-- A significand has all its bits, unless the exponent is the least one. -/
structure InFormat (significand : Nat) (exponent : Int) : Prop where
  below : significand < significandBound
  least : leastExponent ≤ exponent
  greatest : exponent ≤ greatestExponent
  full : leastExponent < exponent → significandBound ≤ 2 * significand

/-- A number of the format that no other one is nearer to `q` than; if another one is equally near,
its significand is even. -/
structure Nearest (q : ℚ) (significand : Nat) (exponent : Int) : Prop where
  inFormat : InFormat significand exponent
  nearest : ∀ m e, InFormat m e → |magnitude significand exponent - q| ≤ |magnitude m e - q|
  even : ∀ m e, InFormat m e → |magnitude m e - q| = |magnitude significand exponent - q| →
    magnitude m e ≠ magnitude significand exponent → Even significand

/-- Half a unit above the greatest finite number. -/
def overflow : ℚ :=
  (significandBound - 1 / 2) * 2 ^ greatestExponent

/-- A number is the one that `± q` rounds to, for a `q` that is not negative. -/
inductive Rounds (negative : Bool) (q : ℚ) : Binary64 → Prop
  | finite {significand : Nat} {exponent : Int} (below : q < overflow)
      (nearest : Nearest q significand exponent) :
      Rounds negative q (.finite negative significand exponent)
  | infinite (above : overflow ≤ q) : Rounds negative q (.infinite negative)

/-! ## Magnitudes -/

lemma magnitude_nonneg (m : Nat) (e : Int) : 0 ≤ magnitude m e := by
  unfold magnitude
  positivity

lemma magnitude_le_iff {m m' : Nat} {e : Int} : magnitude m e ≤ magnitude m' e ↔ m ≤ m' := by
  have unit : (0 : ℚ) < 2 ^ e := by positivity
  rw [magnitude, magnitude, mul_le_mul_iff_of_pos_right unit, Nat.cast_le]

lemma magnitude_lt_iff {m m' : Nat} {e : Int} : magnitude m e < magnitude m' e ↔ m < m' := by
  rw [← not_le, magnitude_le_iff, not_le]

lemma magnitude_mono {m : Nat} {e e' : Int} (le : e ≤ e') : magnitude m e ≤ magnitude m e' :=
  mul_le_mul_of_nonneg_left (zpow_le_zpow_right₀ one_le_two le) m.cast_nonneg

lemma magnitude_scale (m : Nat) {e e' : Int} (smaller : e ≤ e') :
    magnitude m e' = magnitude (m * 2 ^ (e' - e).toNat) e := by
  have units : (2 : ℚ) ^ e' = 2 ^ (e' - e).toNat * 2 ^ e := by
    rw [← zpow_natCast, Int.toNat_of_nonneg (by omega), ← zpow_add₀ two_ne_zero, sub_add_cancel]
  rw [magnitude, magnitude, units]
  push_cast
  ring

/-- What has one bit too many is written with the next exponent. -/
lemma magnitude_bound (e : Int) :
    magnitude significandBound e = magnitude (significandBound / 2) (e + 1) := by
  rw [magnitude, magnitude, zpow_add_one₀ two_ne_zero, significandBound]
  norm_num
  ring

/-- With a smaller unit there are no numbers beyond those that use all bits. -/
lemma magnitude_lt_of_exponent_lt {m : Nat} {e e' : Int} (below : m < significandBound)
    (smaller : e' < e) : magnitude m e' < magnitude (significandBound / 2) e := by
  calc magnitude m e' < magnitude significandBound e' := magnitude_lt_iff.2 below
    _ = magnitude (significandBound / 2) (e' + 1) := magnitude_bound e'
    _ ≤ magnitude (significandBound / 2) e := magnitude_mono (by omega)

lemma half_lt_overflow : magnitude (significandBound / 2) greatestExponent < overflow := by
  have unit : (0 : ℚ) < 2 ^ greatestExponent := by positivity
  rw [magnitude, overflow, mul_lt_mul_iff_of_pos_right unit]
  norm_num [significandBound]

lemma overflow_lt_bound : overflow < magnitude significandBound greatestExponent := by
  have unit : (0 : ℚ) < 2 ^ greatestExponent := by positivity
  rw [magnitude, overflow, mul_lt_mul_iff_of_pos_right unit]
  linarith

lemma magnitude_pos_iff {m : Nat} {e : Int} : 0 < magnitude m e ↔ m ≠ 0 := by
  have unit : (0 : ℚ) < 2 ^ e := by positivity
  rw [magnitude, mul_pos_iff_of_pos_right unit, Nat.cast_pos, Nat.pos_iff_ne_zero]

/-- The number itself, if it is finite. -/
def toRat? : Binary64 → Option ℚ
  | .finite negative significand exponent =>
      some ((if negative then -1 else 1) * magnitude significand exponent)
  | _ => none

lemma isFinite_iff {x : Binary64} : x.isFinite = true ↔ ∃ q, x.toRat? = some q := by
  cases x <;> simp [isFinite, toRat?]

lemma isPositive_iff {x : Binary64} {q : ℚ} (finite : x.toRat? = some q) :
    x.isPositive = true ↔ 0 < q := by
  cases x with
  | finite negative significand exponent =>
      obtain rfl := Option.some.inj finite
      cases negative with
      | false => simp [isPositive, magnitude_pos_iff]
      | true => simp [isPositive, magnitude_nonneg]
  | infinite negative => cases finite
  | nan => cases finite

/-! ## One number, one form -/

lemma InFormat.exponent_le_of_magnitude_le {m m' : Nat} {e e' : Int} (h : InFormat m e)
    (h' : InFormat m' e') (le : magnitude m e ≤ magnitude m' e') : e ≤ e' := by
  by_contra smaller
  have smaller := not_le.1 smaller
  have full := h.full (h'.least.trans_lt smaller)
  have lt : magnitude m' e' < magnitude m e :=
    (magnitude_lt_of_exponent_lt h'.below smaller).trans_le
      (magnitude_le_iff.2 (Nat.div_le_of_le_mul full))
  exact absurd lt (not_lt.2 le)

lemma InFormat.unique {m m' : Nat} {e e' : Int} (h : InFormat m e) (h' : InFormat m' e')
    (eq : magnitude m e = magnitude m' e') : m = m' ∧ e = e' := by
  obtain rfl := le_antisymm (h.exponent_le_of_magnitude_le h' eq.le)
    (h'.exponent_le_of_magnitude_le h eq.ge)
  exact ⟨le_antisymm (magnitude_le_iff.1 eq.le) (magnitude_le_iff.1 eq.ge), rfl⟩

/-- An even significand is not the last one before the bound. -/
lemma InFormat.succ {m : Nat} {e : Int} (h : InFormat m e) (even : Even m) :
    InFormat (m + 1) e where
  below := by
    obtain ⟨k, rfl⟩ := even
    have below := h.below
    simp only [significandBound] at *
    omega
  least := h.least
  greatest := h.greatest
  full normal := (h.full normal).trans (by omega)

/-- The next number after one with an even significand has an odd one. -/
lemma InFormat.succ_lt {m m' : Nat} {e e' : Int} (h : InFormat m e) (h' : InFormat m' e')
    (even : Even m) (even' : Even m') (lt : magnitude m e < magnitude m' e') :
    magnitude (m + 1) e < magnitude m' e' := by
  have larger := h.exponent_le_of_magnitude_le h' lt.le
  rw [magnitude_scale m' larger] at lt ⊢
  have multiple : Even (m' * 2 ^ (e' - e).toNat) := even'.mul_right _
  have least := magnitude_lt_iff.1 lt
  refine magnitude_lt_iff.2 (lt_of_le_of_ne least fun eq => ?_)
  rw [← eq, Nat.even_add_one] at multiple
  exact multiple even

/-! ## One nearest number -/

/-- What lies between two numbers is nearer to their middle. -/
lemma abs_sub_lt_of_between {x y z q : ℚ} (distance : |x - q| = |y - q|) (low : x < z)
    (high : z < y) : |z - q| < |x - q| := by
  rcases abs_cases (x - q) with hx | hx <;> rcases abs_cases (y - q) with hy | hy <;>
    rcases abs_cases (z - q) with hz | hz <;> linarith

lemma Nearest.magnitude_not_lt {q : ℚ} {m m' : Nat} {e e' : Int} (h : Nearest q m e)
    (h' : Nearest q m' e') : ¬ magnitude m e < magnitude m' e' := by
  intro lt
  have distance : |magnitude m e - q| = |magnitude m' e' - q| :=
    le_antisymm (h.nearest m' e' h'.inFormat) (h'.nearest m e h.inFormat)
  have even := h.even m' e' h'.inFormat distance.symm lt.ne'
  have even' := h'.even m e h.inFormat distance lt.ne
  have between := abs_sub_lt_of_between distance
    (magnitude_lt_iff.2 (Nat.lt_succ_self m)) (h.inFormat.succ_lt h'.inFormat even even' lt)
  exact absurd (h.nearest (m + 1) e (h.inFormat.succ even)) (not_le.2 between)

/-- **A quotient rounds to one number only.** -/
theorem Rounds.unique {negative : Bool} {q : ℚ} {x y : Binary64} (h : Rounds negative q x)
    (h' : Rounds negative q y) : x = y := by
  cases h with
  | finite below nearest =>
      cases h' with
      | finite _ nearest' =>
          have eq := le_antisymm (not_lt.1 (nearest'.magnitude_not_lt nearest))
            (not_lt.1 (nearest.magnitude_not_lt nearest'))
          obtain ⟨rfl, rfl⟩ := nearest.inFormat.unique nearest'.inFormat eq
          rfl
      | infinite above => exact absurd below (not_lt.2 above)
  | infinite above =>
      cases h' with
      | finite below _ => exact absurd below (not_lt.2 above)
      | infinite _ => rfl

end SaleSearch.Number.Binary64
