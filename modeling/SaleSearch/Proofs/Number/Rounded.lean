import SaleSearch.Proofs.Number.Digits
import SaleSearch.Proofs.Number.Rounding

/-!
# Decimals are rounded correctly

The quotient is measured in the unit in which its significand has all its bits, or in the least
unit, and that is rounded to a whole number, `Quantized`.  Numbers with a larger unit are whole
multiples too, and those with a smaller unit lie below, so nothing in the format is nearer.  If the
rounded significand has reached the bound, then the same number is written with the next exponent.

* `rounds_ofRatio` : quotients are rounded correctly.
* `rounds_ofDecimal` : so are decimals, also those that are recognised as too large or too small
  before any power of ten is formed.
* `Numeral.magnitude` : what a numeral denotes, from its digits on both sides of the point and its
  exponent.  `Numeral.rounds_iff` says which binary number it becomes.
-/

namespace SaleSearch.Number

/-- A power as a quotient of whole numbers. -/
lemma zpow_eq_div (b : ℚ) (e : Int) : b ^ e = b ^ e.toNat / b ^ (-e).toNat := by
  obtain nonneg | nonpos := le_total 0 e
  · rw [show (-e).toNat = 0 by omega, pow_zero, div_one, ← zpow_natCast,
      Int.toNat_of_nonneg nonneg]
  · rw [show e.toNat = 0 by omega, pow_zero, one_div, ← zpow_natCast,
      Int.toNat_of_nonneg (by omega), zpow_neg, inv_inv]

namespace Binary64

/-! ## The unit -/

lemma scaled_div (num den : Nat) (e : Int) :
    ((num * Nat.pow 2 (-e).toNat : Nat) : ℚ) / (den * Nat.pow 2 e.toNat : Nat)
      = num / den / 2 ^ e := by
  rw [zpow_eq_div]
  push_cast [Nat.pow_eq]
  field_simp

lemma log2_bounds {n : Nat} (positive : 0 < n) :
    (2 : ℚ) ^ (n.log2 : Int) ≤ n ∧ (n : ℚ) < 2 ^ (n.log2 + 1 : Int) := by
  constructor
  · rw [zpow_natCast]
    exact_mod_cast Nat.log2_self_le positive.ne'
  · rw [← Nat.cast_succ, zpow_natCast]
    exact_mod_cast Nat.lt_log2_self

/-- The logarithms of two numbers give that of their quotient up to one. -/
lemma log2_div_bounds {num den : Nat} (positive : 0 < num) (positive' : 0 < den) :
    (2 : ℚ) ^ ((num.log2 : Int) - den.log2 - 1) ≤ num / den
      ∧ (num : ℚ) / den < 2 ^ ((num.log2 : Int) - den.log2 + 1) := by
  have den_pos : (0 : ℚ) < den := by exact_mod_cast positive'
  obtain ⟨num_low, num_high⟩ := log2_bounds positive
  obtain ⟨den_low, den_high⟩ := log2_bounds positive'
  constructor
  · rw [le_div_iff₀ den_pos]
    calc (2 : ℚ) ^ ((num.log2 : Int) - den.log2 - 1) * den
        ≤ 2 ^ ((num.log2 : Int) - den.log2 - 1) * 2 ^ (den.log2 + 1 : Int) := by gcongr
      _ = 2 ^ (num.log2 : Int) := by
          rw [← zpow_add₀ two_ne_zero]
          congr 1
          ring
      _ ≤ num := num_low
  · rw [div_lt_iff₀ den_pos]
    calc (num : ℚ) < 2 ^ (num.log2 + 1 : Int) := num_high
      _ = 2 ^ ((num.log2 : Int) - den.log2 + 1) * 2 ^ (den.log2 : Int) := by
          rw [← zpow_add₀ two_ne_zero]
          congr 1
          ring
      _ ≤ 2 ^ ((num.log2 : Int) - den.log2 + 1) * den := by gcongr

/-- A quotient is compared with a power of two in whole numbers. -/
lemma zpow_le_div_iff (num : Nat) {den : Nat} (positive : 0 < den) (e : Int) :
    den * Nat.pow 2 e.toNat ≤ num * Nat.pow 2 (-e).toNat ↔ (2 : ℚ) ^ e ≤ num / den := by
  have unit : (0 : ℚ) < 2 ^ e := by positivity
  have scaled_pos : (0 : ℚ) < (den * Nat.pow 2 e.toNat : Nat) := by
    push_cast [Nat.pow_eq]
    positivity
  rw [← one_le_div unit, ← scaled_div, one_le_div scaled_pos, Nat.cast_le]

/-- `floorLog2` is the exponent of the greatest power of two that is not above the quotient. -/
lemma floorLog2_spec {num den : Nat} (positive : 0 < num) (positive' : 0 < den) :
    (2 : ℚ) ^ floorLog2 num den ≤ num / den
      ∧ (num : ℚ) / den < 2 ^ (floorLog2 num den + 1) := by
  obtain ⟨low, high⟩ := log2_div_bounds positive positive'
  unfold floorLog2
  simp only [zpow_le_div_iff num positive']
  split
  · rename_i reached
    exact ⟨reached, high⟩
  · rename_i short
    rw [sub_add_cancel]
    exact ⟨low, not_le.1 short⟩

/-! ## Rounding to a whole number -/

lemma div_eq_floor_add (num : Nat) {den : Nat} (positive : 0 < den) :
    (num : ℚ) / den = (num / den : Nat) + (num % den : Nat) / den := by
  have den_pos : (0 : ℚ) < den := by exact_mod_cast positive
  have parts : (num : ℚ) = den * (num / den : Nat) + (num % den : Nat) := by
    exact_mod_cast (Nat.div_add_mod num den).symm
  rw [parts]
  field_simp

/-- A quotient is rounded by half a unit at most, and a half goes to the even number. -/
lemma roundHalfEven_spec (num : Nat) {den : Nat} (positive : 0 < den) :
    |(roundHalfEven num den : ℚ) - num / den| ≤ 1 / 2
      ∧ (|(roundHalfEven num den : ℚ) - num / den| = 1 / 2 → Even (roundHalfEven num den)) := by
  have den_pos : (0 : ℚ) < den := by exact_mod_cast positive
  have nonneg : (0 : ℚ) ≤ (num % den : Nat) / den := by positivity
  have less_than_one : ((num % den : Nat) : ℚ) / den < 1 := by
    rw [div_lt_one den_pos]
    exact_mod_cast Nat.mod_lt num positive
  have down_iff : 2 * (num % den) < den ↔ ((num % den : Nat) : ℚ) / den < 1 / 2 := by
    rw [div_lt_div_iff₀ den_pos two_pos, one_mul, mul_comm 2]
    exact_mod_cast Iff.rfl
  have up_iff : den < 2 * (num % den) ↔ (1 / 2 : ℚ) < (num % den : Nat) / den := by
    rw [div_lt_div_iff₀ two_pos den_pos, one_mul, mul_comm 2]
    exact_mod_cast Iff.rfl
  rw [div_eq_floor_add num positive]
  unfold roundHalfEven
  simp only [down_iff, up_iff]
  generalize ((num % den : Nat) : ℚ) / den = part at *
  generalize num / den = floor
  split_ifs with down up
  · rw [sub_add_cancel_left, abs_neg, abs_of_nonneg nonneg]
    exact ⟨down.le, fun half => absurd half down.ne⟩
  · rw [Nat.cast_succ, add_sub_add_left_eq_sub, abs_of_pos (by linarith)]
    exact ⟨by linarith, fun half => by linarith⟩
  · obtain rfl : part = 1 / 2 := le_antisymm (not_lt.1 up) (not_lt.1 down)
    obtain even | odd := Nat.mod_two_eq_zero_or_one floor
    · rw [even, Nat.add_zero, sub_add_cancel_left, abs_neg, abs_of_pos (by norm_num)]
      exact ⟨le_rfl, fun _ => Nat.even_iff.2 even⟩
    · rw [odd, Nat.cast_succ, add_sub_add_left_eq_sub, abs_of_pos (by norm_num)]
      exact ⟨by norm_num, fun _ => (Nat.odd_iff.2 odd).add_one⟩

/-- What lies within half a unit is a nearest whole number, and the only one unless it is a half. -/
lemma nearest_of_half {m : Nat} {t : ℚ} (half : |(m : ℚ) - t| ≤ 1 / 2) (k : Nat) :
    |(m : ℚ) - t| ≤ |(k : ℚ) - t|
      ∧ (|(k : ℚ) - t| = |(m : ℚ) - t| → k ≠ m → |(m : ℚ) - t| = 1 / 2) := by
  by_cases same : k = m
  · subst same
    exact ⟨le_rfl, fun _ other => absurd rfl other⟩
  · have apart : (1 : ℚ) ≤ |(k : ℚ) - m| := by
      have whole : (1 : Int) ≤ |(k : Int) - m| := Int.one_le_abs (by omega)
      exact_mod_cast whole
    have triangle : |(k : ℚ) - m| ≤ |(k : ℚ) - t| + |(m : ℚ) - t| := by
      rw [abs_sub_comm (m : ℚ) t]
      exact abs_sub_le _ _ _
    exact ⟨by linarith, fun eq _ => by linarith⟩

/-! ## Numbers in a unit -/

/-- A magnitude in units of `2 ^ e`, rounded to a whole number.  The unit is the least one, or so
large that the number has all its bits. -/
structure Quantized (q : ℚ) (m : Nat) (e : Int) : Prop where
  least : leastExponent ≤ e
  full : leastExponent < e → (significandBound / 2 : Nat) ≤ q / 2 ^ e
  below : q / 2 ^ e < significandBound
  near : |(m : ℚ) - q / 2 ^ e| ≤ 1 / 2
  tie : |(m : ℚ) - q / 2 ^ e| = 1 / 2 → Even m

lemma abs_magnitude_sub (k : Nat) (e : Int) (q : ℚ) :
    |magnitude k e - q| = |(k : ℚ) - q / 2 ^ e| * 2 ^ e := by
  have unit : (0 : ℚ) < 2 ^ e := by positivity
  rw [← abs_of_pos unit, ← abs_mul, abs_of_pos unit, sub_mul, div_mul_cancel₀ _ unit.ne', magnitude]

/-- The form of a rounded significand that may have reached the bound. -/
def carried (significand : Nat) (exponent : Int) : Nat × Int :=
  if significand < significandBound then (significand, exponent)
  else (significand / 2, exponent + 1)

lemma pack_eq (negative : Bool) (m : Nat) (e : Int) : pack negative m e
    = if (carried m e).2 ≤ greatestExponent then .finite negative (carried m e).1 (carried m e).2
      else .infinite negative :=
  rfl

namespace Quantized

variable {q : ℚ} {m : Nat} {e : Int}

lemma nearest (h : Quantized q m e) {m' : Nat} {e' : Int} (below : m' < significandBound)
    (least : leastExponent ≤ e') : |magnitude m e - q| ≤ |magnitude m' e' - q|
      ∧ (|magnitude m' e' - q| = |magnitude m e - q| → magnitude m' e' ≠ magnitude m e →
        Even m) := by
  have unit : (0 : ℚ) < 2 ^ e := by positivity
  obtain larger | smaller := le_or_gt e e'
  · rw [magnitude_scale m' larger, abs_magnitude_sub, abs_magnitude_sub]
    obtain ⟨nearer, only⟩ := nearest_of_half h.near (m' * 2 ^ (e' - e).toNat)
    refine ⟨by gcongr, fun eq other => h.tie (only (mul_right_cancel₀ unit.ne' eq) ?_)⟩
    rintro same
    exact other (by rw [same])
  · -- The number lies below the one whose significand only has the highest bit.
    have under := magnitude_lt_of_exponent_lt below smaller
    have beyond : magnitude (significandBound / 2) e ≤ q :=
      (le_div_iff₀ unit).1 (h.full (least.trans_lt smaller))
    have highest := mul_le_mul_of_nonneg_right (nearest_of_half h.near (significandBound / 2)).1
      unit.le
    rw [← abs_magnitude_sub, ← abs_magnitude_sub, abs_of_nonpos (sub_nonpos.2 beyond)] at highest
    have nearer : |magnitude m e - q| < |magnitude m' e' - q| := by
      rw [abs_of_neg (by linarith : magnitude m' e' - q < 0)]
      linarith
    exact ⟨nearer.le, fun eq => absurd eq nearer.ne'⟩

lemma le_bound (h : Quantized q m e) : m ≤ significandBound := by
  have near := (abs_le.1 h.near).2
  have below := h.below
  have less : (m : ℚ) < (significandBound + 1 : Nat) := by
    push_cast
    linarith
  exact Nat.lt_succ_iff.1 (Nat.cast_lt.1 less)

lemma bound_le (h : Quantized q m e) (normal : leastExponent < e) : significandBound ≤ 2 * m := by
  have near := (abs_le.1 h.near).1
  have full := h.full normal
  have less : ((significandBound / 2 : Nat) : ℚ) < (m + 1 : Nat) := by
    push_cast at full ⊢
    linarith
  have whole := Nat.lt_succ_iff.1 (Nat.cast_lt.1 less)
  simp only [significandBound] at *
  omega

/-- The significand reaches the bound from half a unit below it on. -/
lemma eq_bound_iff (h : Quantized q m e) :
    m = significandBound ↔ (significandBound : ℚ) - 1 / 2 ≤ q / 2 ^ e := by
  obtain ⟨low, high⟩ := abs_le.1 h.near
  constructor
  · rintro rfl
    linarith
  · intro reached
    by_contra other
    have most : m ≤ significandBound - 1 := by
      have le := h.le_bound
      omega
    have most' : (m : ℚ) ≤ significandBound - 1 := by
      have cast := (Nat.cast_le (α := ℚ)).2 most
      rwa [Nat.cast_sub (by decide), Nat.cast_one] at cast
    have half : |(m : ℚ) - q / 2 ^ e| = 1 / 2 := by
      rw [abs_of_nonpos (by linarith)]
      linarith
    have last : (m : ℚ) = (significandBound - 1 : Nat) := by
      rw [Nat.cast_sub (by decide), Nat.cast_one]
      linarith
    obtain rfl := Nat.cast_injective last
    exact absurd (h.tie half) (by decide)

/-! ## Too large for the format -/

lemma lt_overflow (h : Quantized q m e) (small : e < greatestExponent) : q < overflow := by
  have unit : (0 : ℚ) < 2 ^ e := by positivity
  calc q < magnitude significandBound e := (div_lt_iff₀ unit).1 h.below
    _ = magnitude (significandBound / 2) (e + 1) := magnitude_bound e
    _ ≤ magnitude (significandBound / 2) greatestExponent := magnitude_mono (by omega)
    _ < overflow := half_lt_overflow

lemma overflow_le (h : Quantized q m e) (large : greatestExponent < e) : overflow ≤ q := by
  have unit : (0 : ℚ) < 2 ^ e := by positivity
  have normal : leastExponent < e := lt_trans (by decide) large
  calc overflow ≤ magnitude significandBound greatestExponent := overflow_lt_bound.le
    _ = magnitude (significandBound / 2) (greatestExponent + 1) := magnitude_bound _
    _ ≤ magnitude (significandBound / 2) e := magnitude_mono (by omega)
    _ ≤ q := (le_div_iff₀ unit).1 (h.full normal)

lemma overflow_le_iff (h : Quantized q m e) :
    overflow ≤ q ↔ greatestExponent < e ∨ e = greatestExponent ∧ m = significandBound := by
  obtain small | rfl | large := lt_trichotomy e greatestExponent
  · refine iff_of_false (not_le.2 (h.lt_overflow small)) ?_
    omega
  · have unit : (0 : ℚ) < 2 ^ greatestExponent := by positivity
    rw [h.eq_bound_iff, le_div_iff₀ unit, overflow]
    simp
  · exact iff_of_true (h.overflow_le large) (.inl large)

/-! ## The number that is packed -/

/-- A significand that is not below the bound has reached it, and is halved. -/
lemma carried_of_reached (h : Quantized q m e) (reached : ¬ m < significandBound) :
    m = significandBound ∧ carried m e = (significandBound / 2, e + 1) := by
  obtain rfl : m = significandBound := le_antisymm h.le_bound (not_lt.1 reached)
  exact ⟨rfl, if_neg reached⟩

/-- That leaves the number as it is. -/
lemma magnitude_carried (h : Quantized q m e) :
    magnitude (carried m e).1 (carried m e).2 = magnitude m e := by
  by_cases fits : m < significandBound
  · rw [carried, if_pos fits]
  · obtain ⟨reached, carry⟩ := h.carried_of_reached fits
    rw [carry, reached, magnitude_bound]

lemma even_carried (h : Quantized q m e) (even : Even m) : Even (carried m e).1 := by
  by_cases fits : m < significandBound
  · rwa [carried, if_pos fits]
  · rw [(h.carried_of_reached fits).2]
    exact show Even (significandBound / 2) by decide

lemma inFormat_carried (h : Quantized q m e) (small : (carried m e).2 ≤ greatestExponent) :
    InFormat (carried m e).1 (carried m e).2 := by
  by_cases fits : m < significandBound
  · rw [carried, if_pos fits] at small ⊢
    exact ⟨fits, h.least, small, h.bound_le⟩
  · have highest : significandBound / 2 < significandBound
        ∧ significandBound ≤ 2 * (significandBound / 2) := by decide
    rw [(h.carried_of_reached fits).2] at small ⊢
    exact ⟨highest.1, h.least.trans (Int.le_add_one le_rfl), small, fun _ => highest.2⟩

lemma carried_le_iff (h : Quantized q m e) : (carried m e).2 ≤ greatestExponent ↔ q < overflow := by
  rw [← not_le, h.overflow_le_iff]
  by_cases fits : m < significandBound
  · rw [carried, if_pos fits, or_iff_left fun reached => fits.ne reached.2, not_lt]
  · obtain ⟨reached, carry⟩ := h.carried_of_reached fits
    rw [carry, and_iff_left reached]
    omega

/-- `pack` makes the number that `Rounds` allows of a `Quantized` magnitude, infinity included. -/
theorem rounds_pack (h : Quantized q m e) (negative : Bool) :
    Rounds negative q (pack negative m e) := by
  rw [pack_eq]
  split
  · rename_i small
    refine .finite (h.carried_le_iff.1 small) ⟨h.inFormat_carried small, ?_, ?_⟩
    · intro m' e' form
      rw [h.magnitude_carried]
      exact (h.nearest form.below form.least).1
    · intro m' e' form
      rw [h.magnitude_carried]
      exact fun eq other => h.even_carried ((h.nearest form.below form.least).2 eq other)
  · rename_i large
    exact .infinite (not_lt.1 (h.carried_le_iff.not.1 large))

end Quantized

/-! ## Zero -/

/-- What is not nearer to the least number than to zero rounds to zero. -/
lemma rounds_zero {q : ℚ} (nonneg : 0 ≤ q) (small : 2 * q ≤ 2 ^ leastExponent) (negative : Bool) :
    Rounds negative q (zero negative) := by
  have least : magnitude 1 leastExponent = 2 ^ leastExponent := by simp [magnitude]
  have nothing (e : Int) : magnitude 0 e = 0 := by simp [magnitude]
  refine .finite ?_ ⟨⟨by decide, le_rfl, by decide, fun lt => absurd lt (lt_irrefl _)⟩,
    fun m e form => ?_, fun _ _ _ _ _ => Even.zero⟩
  · calc q ≤ magnitude 1 leastExponent := by linarith
      _ ≤ magnitude (significandBound / 2) leastExponent := magnitude_le_iff.2 (by decide)
      _ ≤ magnitude (significandBound / 2) greatestExponent := magnitude_mono (by decide)
      _ < overflow := half_lt_overflow
  · obtain rfl | some := Nat.eq_zero_or_pos m
    · rw [nothing, nothing]
    · have far : 2 ^ leastExponent ≤ magnitude m e :=
        least ▸ (magnitude_mono form.least).trans (magnitude_le_iff.2 some)
      rw [nothing, zero_sub, abs_neg, abs_of_nonneg nonneg, abs_of_nonneg (by linarith)]
      linarith

lemma rounds_nothing (negative : Bool) : Rounds negative 0 (zero negative) := by
  refine rounds_zero le_rfl ?_ negative
  rw [mul_zero]
  positivity

/-! ## Quotients -/

/-- A power of two with all bits of a significand. -/
lemma two_zpow_eq_magnitude (e : Int) :
    (2 : ℚ) ^ e = magnitude (significandBound / 2) (e - 52) := by
  have bits : ((significandBound / 2 : Nat) : ℚ) = 2 ^ (52 : Int) := by norm_num [significandBound]
  rw [magnitude, bits, ← zpow_add₀ two_ne_zero, add_sub_cancel]

/-- `ofRatio` picks the unit and rounds to it as `Quantized` asks. -/
lemma quantized_ofRatio {num den : Nat} (positive : 0 < num) (positive' : 0 < den) :
    let e := max (floorLog2 num den - 52) leastExponent
    Quantized (num / den)
      (roundHalfEven (num * Nat.pow 2 (-e).toNat) (den * Nat.pow 2 e.toNat)) e := by
  intro e
  have unit : (0 : ℚ) < 2 ^ e := by positivity
  have scaled_pos : 0 < den * Nat.pow 2 e.toNat := Nat.mul_pos positive' (Nat.pow_pos two_pos)
  have rounded := roundHalfEven_spec (num * Nat.pow 2 (-e).toNat) scaled_pos
  rw [scaled_div] at rounded
  obtain ⟨low, high⟩ := floorLog2_spec positive positive'
  refine ⟨le_max_right _ _, fun normal => ?_, ?_, rounded.1, rounded.2⟩
  · have exponent : e = floorLog2 num den - 52 := max_eq_left (by omega)
    rw [le_div_iff₀ unit, exponent]
    exact (two_zpow_eq_magnitude _).ge.trans low
  · rw [div_lt_iff₀ unit]
    calc (num : ℚ) / den < 2 ^ (floorLog2 num den + 1) := high
      _ = magnitude (significandBound / 2) (floorLog2 num den + 1 - 52) := two_zpow_eq_magnitude _
      _ ≤ magnitude (significandBound / 2) (e + 1) := magnitude_mono (by omega)
      _ = magnitude significandBound e := (magnitude_bound e).symm

/-- **`ofRatio` rounds a quotient to the nearest number, ties to even.** -/
theorem rounds_ofRatio (negative : Bool) (num : Nat) {den : Nat} (positive : 0 < den) :
    Rounds negative (num / den) (ofRatio negative num den) := by
  unfold ofRatio
  split
  · rename_i nothing
    rw [nothing, Nat.cast_zero, zero_div]
    exact rounds_nothing negative
  · rename_i some
    exact (quantized_ofRatio (Nat.pos_of_ne_zero some) positive).rounds_pack negative

end Binary64

/-! ## Decimals -/

/-- What a decimal denotes, apart from its sign. -/
def Decimal.magnitude (d : Decimal) : ℚ :=
  d.coefficient * 10 ^ d.exponent

namespace Binary64

/-- The number of digits says how large a number is. -/
lemma digits_bounds {c : Nat} (positive : 0 < c) :
    (10 : ℚ) ^ ((Nat.toDigits 10 c).length - 1 : Int) ≤ c
      ∧ (c : ℚ) < 10 ^ ((Nat.toDigits 10 c).length : Int) := by
  have some := Nat.length_toDigits_pos (b := 10) (n := c)
  generalize digits : (Nat.toDigits 10 c).length = length at *
  have high : c < 10 ^ length := (Nat.length_toDigits_le_iff (by decide) some).1 digits.le
  have low : 10 ^ (length - 1) ≤ c := by
    by_contra less
    obtain only | more := Nat.eq_zero_or_pos (length - 1)
    · rw [only, Nat.pow_zero] at less
      omega
    · have shorter := (Nat.length_toDigits_le_iff (by decide) more).2 (not_le.1 less)
      omega
  constructor
  · rw [← Int.natCast_pred_of_pos some, zpow_natCast]
    exact_mod_cast low
  · rw [zpow_natCast]
    exact_mod_cast high

/-- Powers of two and of ten that are close to each other. -/
lemma two_pow_le_ten_pow (k : Nat) : ((2 : ℚ) ^ 93) ^ k ≤ (10 ^ 28) ^ k :=
  pow_le_pow_left₀ (by positivity) (by norm_num) k

lemma overflow_le_decimalCeiling : overflow ≤ 10 ^ decimalCeiling := by
  have bits : ((significandBound : Nat) : ℚ) = 2 ^ 53 := by norm_num [significandBound]
  calc overflow ≤ magnitude significandBound greatestExponent := overflow_lt_bound.le
    _ = 2 ^ 53 * 2 ^ 971 := by
        rw [magnitude, bits]
        exact congrArg _ (zpow_natCast (2 : ℚ) 971)
    _ = (2 ^ 93) ^ 11 * 2 := by rw [← pow_mul, ← pow_add, ← pow_succ]
    _ ≤ (10 ^ 28) ^ 11 * 10 ^ 2 := by
        gcongr
        · exact two_pow_le_ten_pow 11
        · norm_num
    _ = 10 ^ decimalCeiling := by
        rw [← pow_mul, ← pow_add]
        exact (zpow_natCast (10 : ℚ) 310).symm

/-- What lies below the floor is less than half of the least number. -/
lemma decimalFloor_le : 2 * (10 : ℚ) ^ (decimalFloor - 1) ≤ 2 ^ leastExponent := by
  have powers : (2 : ℚ) * 2 ^ 1074 ≤ 10 ^ 331 := by
    calc (2 : ℚ) * 2 ^ 1074 = (2 ^ 93) ^ 11 * 2 ^ 52 := by
          rw [← pow_mul, ← pow_add, ← pow_succ']
      _ ≤ (10 ^ 28) ^ 11 * 10 ^ 23 := by
          gcongr
          · exact two_pow_le_ten_pow 11
          · norm_num
      _ = 10 ^ 331 := by rw [← pow_mul, ← pow_add]
  have floor : (10 : ℚ) ^ (decimalFloor - 1) = (10 ^ 331)⁻¹ := by
    rw [← zpow_natCast, ← zpow_neg]
    rfl
  have least : (2 : ℚ) ^ leastExponent = (2 ^ 1074)⁻¹ := by
    rw [← zpow_natCast, ← zpow_neg]
    rfl
  rw [floor, least, ← div_eq_mul_inv, div_le_iff₀ (by positivity), inv_mul_eq_div,
    le_div_iff₀ (by positivity)]
  exact powers

/-- **`ofDecimal` rounds a decimal to the nearest number, ties to even.** -/
theorem rounds_ofDecimal (d : Decimal) : Rounds d.negative d.magnitude (ofDecimal d) := by
  unfold ofDecimal
  dsimp only
  split_ifs with nothing large small
  · rw [Decimal.magnitude, nothing, Nat.cast_zero, zero_mul]
    exact rounds_nothing d.negative
  · obtain ⟨low, -⟩ := digits_bounds (Nat.pos_of_ne_zero nothing)
    refine .infinite ?_
    calc overflow ≤ 10 ^ decimalCeiling := overflow_le_decimalCeiling
      _ ≤ (10 : ℚ) ^ ((Nat.toDigits 10 d.coefficient).length - 1 + d.exponent : Int) :=
          zpow_le_zpow_right₀ (by norm_num) (by omega)
      _ = 10 ^ ((Nat.toDigits 10 d.coefficient).length - 1 : Int) * 10 ^ d.exponent :=
          zpow_add₀ (by norm_num) _ _
      _ ≤ d.magnitude := mul_le_mul_of_nonneg_right low (by positivity)
  · obtain ⟨-, high⟩ := digits_bounds (Nat.pos_of_ne_zero nothing)
    have tiny : d.magnitude ≤ 10 ^ (decimalFloor - 1) := by
      calc d.magnitude
          ≤ 10 ^ ((Nat.toDigits 10 d.coefficient).length : Int) * 10 ^ d.exponent :=
            mul_le_mul_of_nonneg_right high.le (by positivity)
        _ = 10 ^ ((Nat.toDigits 10 d.coefficient).length + d.exponent : Int) :=
            (zpow_add₀ (by norm_num) _ _).symm
        _ ≤ 10 ^ (decimalFloor - 1) := zpow_le_zpow_right₀ (by norm_num) (by omega)
    have nonneg : 0 ≤ d.magnitude := by
      unfold Decimal.magnitude
      positivity
    have small := decimalFloor_le
    exact rounds_zero nonneg (by linarith) d.negative
  · have ratio : d.magnitude = ((d.coefficient * Nat.pow 10 d.exponent.toNat : Nat) : ℚ)
        / (Nat.pow 10 (-d.exponent).toNat : Nat) := by
      rw [Decimal.magnitude, zpow_eq_div]
      push_cast [Nat.pow_eq]
      ring
    rw [ratio]
    exact rounds_ofRatio d.negative _ (Nat.pow_pos (by decide))

end Binary64

/-! ## Numerals -/

/-- What a numeral denotes, apart from its sign. -/
def Numeral.magnitude (n : Numeral) : ℚ :=
  (digitsValue n.whole + digitsValue n.fraction / 10 ^ n.fraction.length) * 10 ^ n.exponentValue

lemma Numeral.magnitude_value (n : Numeral) : n.value.magnitude = n.magnitude := by
  have ten : (10 : ℚ) ≠ 0 := by norm_num
  rw [Decimal.magnitude, magnitude, value]
  simp only [digitsValue_append, zpow_sub₀ ten, zpow_natCast]
  push_cast
  field_simp

/-- **`ofDecimal` of the value of a numeral is the only number that the numeral rounds to.** -/
theorem Numeral.rounds_iff {n : Numeral} {x : Binary64} :
    Binary64.Rounds n.negative n.magnitude x ↔ x = Binary64.ofDecimal n.value := by
  have correct : Binary64.Rounds n.negative n.magnitude (Binary64.ofDecimal n.value) :=
    n.magnitude_value ▸ Binary64.rounds_ofDecimal n.value
  exact ⟨fun rounds => rounds.unique correct, fun eq => eq ▸ correct⟩

end SaleSearch.Number
