/-!
# The calendar

Moments of the proleptic Gregorian calendar in UTC, from the year 0 on, and the seconds between them
and the start of 1970.

* `daysInMonth` knows the leap years.
* `daysBeforeYear` and `daysBeforeMonth` count whole days.
* `Moment.isReal` holds if a moment exists, and `Moment.seconds` places it.
-/

namespace SaleSearch.Calendar

/-- The rule of the Gregorian calendar, applied to all years. -/
def isLeapYear (year : Nat) : Bool :=
  year % 4 = 0 && (year % 100 != 0 || year % 400 = 0)

/-- The days of a month; there is none with the number 0 or a number above 12. -/
def daysInMonth (year month : Nat) : Nat :=
  match month with
  | 1 | 3 | 5 | 7 | 8 | 10 | 12 => 31
  | 4 | 6 | 9 | 11 => 30
  | 2 => if isLeapYear year then 29 else 28
  | _ => 0

/-- The days of the twelve months of a year. -/
def daysInYear (year : Nat) : Nat :=
  if isLeapYear year then 366 else 365

/-- The days of the years from 0 up to a year, which is not counted. -/
def daysBeforeYear (year : Nat) : Nat :=
  365 * year + (year + 3) / 4 + (year + 399) / 400 - (year + 99) / 100

/-- The days of the months of a year up to a month, which is not counted. -/
def daysBeforeMonth (year : Nat) : Nat → Nat
  | 0 => 0
  | month + 1 => daysBeforeMonth year month + daysInMonth year month

/-- The days before the first day of 1970. -/
def epochDays : Nat := 719528

/-- A date and a time of day, as numbers that need not belong together. -/
structure Moment where
  year : Nat
  month : Nat := 1
  day : Nat := 1
  hour : Nat := 0
  minute : Nat := 0
  second : Nat := 0
  deriving DecidableEq, Repr

namespace Moment

/-- The day is one of its month, and the time is one of a day without leap seconds. -/
def isReal (m : Moment) : Bool :=
  1 ≤ m.day && m.day ≤ daysInMonth m.year m.month
    && m.hour < 24 && m.minute < 60 && m.second < 60

/-- Days since the start of 1970. -/
def days (m : Moment) : Int :=
  (daysBeforeYear m.year + daysBeforeMonth m.year m.month + (m.day - 1) : Nat) - (epochDays : Int)

/-- Seconds since the start of 1970. -/
def seconds (m : Moment) : Int :=
  m.days * 86400 + (m.hour * 3600 + m.minute * 60 + m.second : Nat)

end Moment

/-- Each multiple of `n` is counted once it has been passed. -/
theorem ceilDiv_succ (year : Nat) {n : Nat} (h : 0 < n) :
    (year + 1 + (n - 1)) / n = (year + (n - 1)) / n + if year % n = 0 then 1 else 0 := by
  have shift : year + 1 + (n - 1) = year + n := by omega
  rw [shift, Nat.add_div_right _ h]
  have split := Nat.div_add_mod year n
  have below := Nat.mod_lt year h
  generalize year % n = r at *
  have decomposed : year + (n - 1) = n * (year / n) + (r + (n - 1)) := by omega
  rw [decomposed, Nat.mul_add_div h]
  by_cases zero : r = 0
  · rw [if_pos zero, zero, Nat.zero_add, Nat.div_eq_of_lt (show n - 1 < n by omega)]
  · have carry : r + (n - 1) = (r - 1) + n := by omega
    rw [if_neg zero, carry, Nat.add_div_right _ h, Nat.div_eq_of_lt (show r - 1 < n by omega)]

/-- `daysBeforeYear` grows by the days of each year. -/
theorem daysBeforeYear_succ (year : Nat) :
    daysBeforeYear (year + 1) = daysBeforeYear year + daysInYear year := by
  have fours := ceilDiv_succ year (show 0 < 4 by decide)
  have hundreds := ceilDiv_succ year (show 0 < 100 by decide)
  have fourHundreds := ceilDiv_succ year (show 0 < 400 by decide)
  simp only [Nat.reduceSub] at fours hundreds fourHundreds
  have enough : (year + 99) / 100 ≤ 365 * year + (year + 3) / 4 + (year + 399) / 400 := by omega
  unfold daysBeforeYear daysInYear isLeapYear
  rw [fours, hundreds, fourHundreds]
  by_cases h4 : year % 4 = 0
  · by_cases h100 : year % 100 = 0
    · by_cases h400 : year % 400 = 0
      · simp [h4, h100, h400]; omega
      · simp [h4, h100, h400]; omega
    · have h400 : ¬ year % 400 = 0 := by omega
      simp [h4, h100, h400]; omega
  · have h100 : ¬ year % 100 = 0 := by omega
    have h400 : ¬ year % 400 = 0 := by omega
    simp [h4, h100, h400]; omega

/-- `epochDays` is where the count of `daysBeforeYear` stands at 1970. -/
theorem daysBeforeYear_epoch : daysBeforeYear 1970 = epochDays := by decide

end SaleSearch.Calendar
