import Mathlib.Algebra.BigOperators.Intervals
import Mathlib.Algebra.BigOperators.Ring.Finset
import SaleSearch.Calendar

/-!
# Time elapsed

A moment is placed by formulas that count leap years by divisions.  This file counts from a table of
the months instead: whole years, then whole months, then whole days are added up, forwards or
backwards from the start of 1970, and the sum is what the formulas give.

* `IsLeap`, `monthLengths` and `yearLength` are the calendar, month by month.
* `Moment.Real` says of a date and a time of day that they exist, and `Moment.isReal_iff` that this
  is what is checked.
* `Moment.elapsed` adds up the lengths, and `Moment.seconds_eq_elapsed` is the agreement.

The years are the only long sum.  `daysBeforeYear` grows by the length of each year
(`daysBeforeYear_succ`), so the sum over any stretch of years telescopes, and the years before 1970
need no argument of their own.
-/

namespace SaleSearch.Calendar

/-! ## Months and years -/

/-- Every fourth year is a leap year, except the hundredth ones that are not four hundredth ones. -/
def IsLeap (year : Nat) : Prop :=
  4 ∣ year ∧ (100 ∣ year → 400 ∣ year)

instance (year : Nat) : Decidable (IsLeap year) :=
  inferInstanceAs (Decidable (_ ∧ _))

/-- The lengths of the twelve months of a year. -/
def monthLengths (year : Nat) : List Nat :=
  [31, if IsLeap year then 29 else 28, 31, 30, 31, 30, 31, 31, 30, 31, 30, 31]

/-- The days of a year. -/
def yearLength (year : Nat) : Nat :=
  (monthLengths year).sum

/-- `isLeapYear` checks `IsLeap`. -/
lemma isLeapYear_iff {year : Nat} : isLeapYear year = true ↔ IsLeap year := by
  simp only [isLeapYear, IsLeap, Bool.and_eq_true, Bool.or_eq_true, decide_eq_true_eq, bne_iff_ne,
    Nat.dvd_iff_mod_eq_zero]
  omega

/-- `daysInYear` is the sum of the table. -/
lemma daysInYear_eq (year : Nat) : daysInYear year = yearLength year := by
  unfold daysInYear yearLength monthLengths
  by_cases leap : IsLeap year
  · simp [isLeapYear_iff.2 leap, leap]
  · simp [mt isLeapYear_iff.1 leap, leap]

/-- `daysInMonth` is the entry of the table, and zero beyond it. -/
lemma daysInMonth_succ (year month : Nat) :
    daysInMonth year (month + 1) = (monthLengths year).getD month 0 := by
  have february : (if isLeapYear year then 29 else 28) = if IsLeap year then 29 else 28 :=
    if_congr isLeapYear_iff rfl rfl
  match month with
  | 0 | 2 | 3 | 4 | 5 | 6 | 7 | 8 | 9 | 10 | 11 => rfl
  | 1 => exact february
  | _ + 12 => rfl

/-- `daysBeforeMonth` adds up the entries of the table. -/
lemma daysBeforeMonth_succ (year month : Nat) :
    daysBeforeMonth year (month + 1) = ((monthLengths year).take month).sum := by
  induction month with
  | zero => rfl
  | succ month ih =>
      rw [daysBeforeMonth, ih, daysInMonth_succ, List.take_add_one, List.sum_append,
        List.getD_eq_getElem?_getD]
      cases (monthLengths year)[month]? <;> simp

/-- `daysBeforeYear` grows over a stretch of years by their lengths. -/
lemma daysBeforeYear_add_sum {first last : Nat} (h : first ≤ last) :
    daysBeforeYear first + ∑ year ∈ Finset.Ico first last, yearLength year
      = daysBeforeYear last := by
  induction last, h using Nat.le_induction with
  | base => simp
  | succ last h ih =>
      rw [Finset.sum_Ico_succ_top h, ← Nat.add_assoc, ih, daysBeforeYear_succ, daysInYear_eq]

namespace Moment

/-! ## Moments that exist -/

/-- The month exists, the day lies in it, and so does the time of day in the day. -/
structure Real (m : Moment) : Prop where
  month : 1 ≤ m.month ∧ m.month ≤ 12
  day : 1 ≤ m.day ∧ m.day ≤ (monthLengths m.year).getD (m.month - 1) 0
  hour : m.hour < 24
  minute : m.minute < 60
  second : m.second < 60

/-- `isReal` checks that a moment exists. -/
theorem isReal_iff {m : Moment} : m.isReal = true ↔ m.Real := by
  simp only [isReal, Bool.and_eq_true, decide_eq_true_eq]
  constructor
  · rintro ⟨⟨⟨⟨first, last⟩, hour⟩, minute⟩, second⟩
    have named : 1 ≤ m.month ∧ m.month ≤ 12 := by
      -- No day fits into a month that does not exist.
      by_contra unnamed
      have none : daysInMonth m.year m.month = 0 := by
        unfold daysInMonth
        split <;> omega
      omega
    obtain ⟨month, same⟩ := Nat.exists_eq_add_of_le' named.1
    rw [same, daysInMonth_succ] at last
    exact ⟨named, ⟨first, by simpa [same] using last⟩, hour, minute, second⟩
  · rintro ⟨named, ⟨first, last⟩, hour, minute, second⟩
    obtain ⟨month, same⟩ := Nat.exists_eq_add_of_le' named.1
    rw [same, Nat.add_sub_cancel, ← daysInMonth_succ] at last
    exact ⟨⟨⟨⟨first, same ▸ last⟩, hour⟩, minute⟩, second⟩

/-! ## Adding up -/

/-- The days of the whole years since 1970, or less those of the years until then. -/
def elapsedYears (year : Nat) : Int :=
  ∑ y ∈ Finset.Ico 1970 year, (yearLength y : Int)
    - ∑ y ∈ Finset.Ico year 1970, (yearLength y : Int)

/-- Seconds from the start of 1970, one whole year, month and day after the other. -/
def elapsed (m : Moment) : Int :=
  86400 * (elapsedYears m.year + ((monthLengths m.year).take (m.month - 1)).sum + (m.day - 1))
    + 3600 * m.hour + 60 * m.minute + m.second

/-- The years since 1970 add up to the difference of two `daysBeforeYear`. -/
lemma elapsedYears_eq (year : Nat) : elapsedYears year = daysBeforeYear year - epochDays := by
  rw [← daysBeforeYear_epoch, elapsedYears, ← Nat.cast_sum, ← Nat.cast_sum]
  rcases Nat.le_total 1970 year with after | before
  · have sum := daysBeforeYear_add_sum after
    rw [Finset.Ico_eq_empty_of_le after, Finset.sum_empty]
    omega
  · have sum := daysBeforeYear_add_sum before
    rw [Finset.Ico_eq_empty_of_le before, Finset.sum_empty]
    omega

/-- **A moment that exists is placed where years, months, days and the time of day add up to.** -/
theorem seconds_eq_elapsed {m : Moment} (real : m.Real) : m.seconds = m.elapsed := by
  obtain ⟨month, same⟩ := Nat.exists_eq_add_of_le' real.month.1
  have months := daysBeforeMonth_succ m.year month
  have first := real.day.1
  rw [seconds, days, elapsed, elapsedYears_eq, same, months, Nat.add_sub_cancel]
  omega

end Moment

end SaleSearch.Calendar
