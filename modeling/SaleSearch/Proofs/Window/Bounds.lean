import Mathlib.Tactic.Common
import SaleSearch.Number.Numeral
import SaleSearch.TimeRange

/-!
# The bounds of a window

Moments and windows are numbers without bounds here, while a store of 64 bits holds them.  This file
says that this makes no difference, for any number of units, and what the bounds are.

* `stepwise?` computes a window in 64 bits, one operation after the other, and gives up where a
  result does not fit.
* `InDay` is a day of UTC, and `startOfDay_unique` characterises its start.
* `window_bounds` : no operation overflows, and the window has the bounds that `Spans` lists.

The longest window is that of `2 ^ 32 - 1` years.  It is shorter than what a moment after
`- 9 * 10 ^ 18` leaves above the least number of 64 bits, so the one subtraction at the end is safe
once the length is bounded (`length_le`).
-/

namespace SaleSearch.Window

open Number

/-! ## Steps of 64 bits -/

/-- A result, if 64 bits hold it. -/
def int64? (n : Int) : Option Int :=
  if fitsInt64 n then some n else none

/-- The window of a range, computed in 64 bits: midnight comes first, also where nothing needs
it. -/
def stepwise? (range : TimeRange) (now : Int) : Option (Option (Int × Int)) := do
  let sinceMidnight ← int64? (now % daySeconds)
  let midnight ← int64? (now - sinceMidnight)
  match range with
  | .all => return none
  | .last count unit =>
      let count ← int64? count.toNat
      let length ← int64? (count * unit.seconds)
      let finish := if unit = .hours then now else midnight
      let start ← int64? (finish - length)
      return some (start, finish)

lemma int64?_of_fits {n : Int} (low : -9223372036854775808 ≤ n) (high : n < 9223372036854775808) :
    int64? n = some n :=
  if_pos (fitsInt64_iff.2 ⟨low, high⟩)

lemma bind_int64? {n : Int} (fits : int64? n = some n) {α : Type} (next : Int → Option α) :
    (int64? n >>= next) = next n := by
  rw [fits]
  rfl

/-- No number of units of 32 bits is longer than `2 ^ 32 - 1` years. -/
lemma length_le (count : UInt32) (unit : TimeUnit) :
    count.toNat * unit.seconds ≤ 4294967295 * (365 * 86400) := by
  have few : count.toNat ≤ 4294967295 := Nat.le_of_lt_succ count.toNat_lt
  have short : unit.seconds ≤ 365 * 86400 := by cases unit <;> decide
  exact Nat.mul_le_mul few short

lemma int64?_count (count : UInt32) : int64? count.toNat = some (count.toNat : Int) := by
  have few : count.toNat < 4294967296 := count.toNat_lt
  exact int64?_of_fits (by omega) (by omega)

lemma int64?_length (count : UInt32) (unit : TimeUnit) :
    int64? (count.toNat * unit.seconds) = some (count.toNat * unit.seconds : Int) := by
  have short := length_le count unit
  rw [← Int.natCast_mul]
  exact int64?_of_fits (by omega) (by omega)

/-! ## Days -/

/-- The seconds of a day, counted from the first one of 1970. -/
def InDay (day second : Int) : Prop :=
  86400 * day ≤ second ∧ second ≤ 86400 * day + 86399

lemma InDay.startOfDay_eq {day second : Int} (h : InDay day second) :
    startOfDay second = 86400 * day := by
  unfold InDay at h
  unfold startOfDay daySeconds
  omega

lemma dvd_startOfDay (now : Int) : 86400 ∣ startOfDay now := by
  unfold startOfDay daySeconds
  omega

/-- `startOfDay` is the only midnight within the last day up to `now`. -/
lemma startOfDay_unique {now midnight : Int} (whole : 86400 ∣ midnight) (le : midnight ≤ now)
    (lt : now < midnight + 86400) : midnight = startOfDay now := by
  unfold startOfDay daySeconds
  omega

lemma ite_eq_finish (unit : TimeUnit) (now : Int) :
    (if unit = .hours then now else startOfDay now) = finish unit now := by
  cases unit <;> rfl

lemma finish_of_ne_hours {unit : TimeUnit} (whole : unit ≠ .hours) (now : Int) :
    finish unit now = startOfDay now := by
  rw [← ite_eq_finish, if_neg whole]

lemma finish_le (unit : TimeUnit) (now : Int) : finish unit now ≤ now := by
  cases unit with
  | hours => exact Int.le_refl now
  | days => exact startOfDay_le now
  | years => exact startOfDay_le now

lemma lt_finish_add (unit : TimeUnit) (now : Int) : now < finish unit now + 86400 := by
  cases unit with
  | hours => exact Int.lt_add_of_pos_right now (by decide)
  | days => exact lt_startOfDay_add now
  | years => exact lt_startOfDay_add now

lemma dvd_length {unit : TimeUnit} (whole : unit ≠ .hours) (count : Nat) :
    86400 ∣ count * unit.seconds := by
  cases unit with
  | hours => exact absurd rfl whole
  | days => exact Nat.dvd_mul_left ..
  | years => exact Nat.dvd_trans (Nat.dvd_mul_left 86400 365) (Nat.dvd_mul_left ..)

/-! ## The window -/

/-- The bounds of a window of so many units: its length, midnights for days and years, and that all
moments of a day have the same one. -/
structure Spans (count : UInt32) (unit : TimeUnit) (now low high : Int) : Prop where
  ordered : low ≤ high ∧ high ≤ now
  hours : unit = .hours → high = now ∧ high - low = count.toNat * 3600
  days : unit = .days → high - low = count.toNat * 86400
  years : unit = .years → high - low = count.toNat * (365 * 86400)
  /-- Days and years begin at a midnight and end at the last one. -/
  midnights : unit ≠ .hours → 86400 ∣ low ∧ 86400 ∣ high ∧ now < high + 86400
  last : unit ≠ .hours → ∀ midnight : Int, 86400 ∣ midnight → midnight ≤ now →
    now < midnight + 86400 → midnight = high
  /-- All moments of a day have the same window. -/
  steady : unit ≠ .hours → ∀ day now', InDay day now → InDay day now' →
    window? (.last count unit) now' = some (low, high)

/-- The window that `window?` computes has the bounds that `Spans` lists. -/
lemma spans (count : UInt32) (unit : TimeUnit) (now : Int) : Spans count unit now
    (finish unit now - (count.toNat * unit.seconds : Nat)) (finish unit now) where
  ordered := ⟨by omega, finish_le unit now⟩
  hours := by
    rintro rfl
    exact ⟨rfl, by simp only [TimeUnit.seconds]; omega⟩
  days := by
    rintro rfl
    simp only [TimeUnit.seconds]
    omega
  years := by
    rintro rfl
    simp only [TimeUnit.seconds]
    omega
  midnights := fun whole => by
    have start := dvd_startOfDay now
    have length := dvd_length whole count.toNat
    have lt := lt_finish_add unit now
    rw [finish_of_ne_hours whole] at lt ⊢
    omega
  last := fun whole midnight multiple le lt => by
    rw [finish_of_ne_hours whole]
    exact startOfDay_unique multiple le lt
  steady := fun whole day now' today today' => by
    rw [window?, finish_of_ne_hours whole, finish_of_ne_hours whole, today.startOfDay_eq,
      today'.startOfDay_eq]

/-- No step overflows, from the longest count and the earliest moment on. -/
lemma stepwise?_eq {now : Int} (fits : fitsInt64 now = true) (late : -9000000000000000000 ≤ now)
    (range : TimeRange) : stepwise? range now = some (window? range now) := by
  obtain ⟨-, high⟩ := fitsInt64_iff.1 fits
  have since : int64? (now % daySeconds) = some (now % daySeconds) :=
    int64?_of_fits (by unfold daySeconds; omega) (by unfold daySeconds; omega)
  have midnight : int64? (now - now % daySeconds) = some (now - now % daySeconds) :=
    int64?_of_fits (by unfold daySeconds; omega) (by unfold daySeconds; omega)
  rw [stepwise?, bind_int64? since, bind_int64? midnight]
  cases range with
  | all => rfl
  | last count unit =>
      have short := length_le count unit
      have before := finish_le unit now
      have after := lt_finish_add unit now
      have start : int64? (finish unit now - count.toNat * unit.seconds)
          = some (finish unit now - count.toNat * unit.seconds) := by
        rw [← Int.natCast_mul]
        exact int64?_of_fits (by omega) (by omega)
      rw [← ite_eq_finish] at start
      dsimp only
      rw [bind_int64? (int64?_count count), bind_int64? (int64?_length count unit)]
      rw [window?, Int.natCast_mul, ← ite_eq_finish]
      exact bind_int64? start _

/-- **No step of `stepwise?` overflows, and its result is `window?`**, which has the bounds that
`Spans` lists. -/
theorem window_bounds {now : Int} (fits : fitsInt64 now = true)
    (late : -9000000000000000000 ≤ now) (range : TimeRange) :
    stepwise? range now = some (window? range now)
      ∧ match range with
        | .all => window? .all now = none
        | .last count unit => ∃ low high, window? (.last count unit) now = some (low, high)
            ∧ Spans count unit now low high := by
  refine ⟨stepwise?_eq fits late range, ?_⟩
  cases range with
  | all => rfl
  | last count unit => exact ⟨_, _, rfl, spans count unit now⟩

/-- The greatest count of years at the earliest moment that is allowed. -/
theorem window_bounds_longest :
    fitsInt64 (-9000000000000000000) = true
      ∧ stepwise? (.last 4294967295 .years) (-9000000000000000000)
        = some (some (-9135446088615148800, -9000000000000028800))
      ∧ Spans 4294967295 .years (-9000000000000000000) (-9135446088615148800)
        (-9000000000000028800) := by
  have fits : fitsInt64 (-9000000000000000000) = true := by decide
  have ends : window? (.last 4294967295 .years) (-9000000000000000000)
      = some (-9135446088615148800, -9000000000000028800) := by decide
  obtain ⟨steps, low, high, window, spans⟩ :=
    window_bounds fits (by decide) (.last 4294967295 .years)
  obtain ⟨rfl, rfl⟩ := Prod.mk.inj (Option.some.inj (ends.symm.trans window))
  exact ⟨fits, steps.trans (congrArg some ends), spans⟩

end SaleSearch.Window
