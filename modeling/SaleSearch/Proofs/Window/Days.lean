import SaleSearch.Proofs.Compilation.Frame
import SaleSearch.Proofs.Window.Bounds

/-!
# The days of a history

A history over days or years groups its sales by day, and its window is meant to hold whole days
alone.  It ends at a midnight, though, and the condition that is written includes both ends, so the
second of that midnight is let through, which belongs to the day that has just begun.

* `WholeDays` is what a window is meant for, and `week_has_a_second_more` is a window that fails it.
* `Covers` lists the days of a window: as many whole ones as were asked for, and one second.
* `history_days` : this is what a history over days or years asks of the time of a sale.
-/

namespace SaleSearch

namespace Window

/-- What `BETWEEN` asks of a second. -/
def Between (low high second : Int) : Prop :=
  low ≤ second ∧ second ≤ high

/-- A day of which some second lies in the window lies there as a whole. -/
def WholeDays (low high : Int) : Prop :=
  ∀ day second, InDay day second → Between low high second →
    ∀ second', InDay day second' → Between low high second'

/-- How many days a number of units comes to, for days and years. -/
def daysOf (count : UInt32) (unit : TimeUnit) : Int :=
  count.toNat * if unit = .years then 365 else 1

/-- The window holds so many whole days before today and one second of today, the first. -/
structure Covers (today days low high : Int) : Prop where
  whole : ∀ day, (∀ second, InDay day second → Between low high second)
    ↔ today - days ≤ day ∧ day < today
  rest : ∀ second, Between low high second →
    (∃ day, today - days ≤ day ∧ day < today ∧ InDay day second) ∨ second = 86400 * today
  /-- The first second of today is there. -/
  midnight : Between low high (86400 * today)
  /-- Without it the window would hold whole days alone. -/
  shorter : WholeDays low (high - 1)

lemma length_eq {unit : TimeUnit} (whole : unit ≠ .hours) (count : UInt32) :
    ((count.toNat * unit.seconds : Nat) : Int) = 86400 * daysOf count unit := by
  cases unit with
  | hours => exact absurd rfl whole
  | days => simp [daysOf, TimeUnit.seconds, Int.mul_comm]
  | years =>
      simp only [daysOf, TimeUnit.seconds, if_true]
      omega

/-- The window of a whole number of days covers these days and the first second of today. -/
lemma covers {today days now : Int} (some : 0 ≤ days) (now_in : InDay today now) :
    Covers today days (startOfDay now - 86400 * days) (startOfDay now) := by
  rw [now_in.startOfDay_eq]
  refine ⟨fun day => ⟨fun all => ?_, fun among second second_in => ?_⟩,
    fun second between => ?_, ?_, fun day second second_in between second' second_in' => ?_⟩
  · have first := all (86400 * day) (by unfold InDay; omega)
    have last := all (86400 * day + 86399) (by unfold InDay; omega)
    unfold Between at first last
    omega
  · unfold InDay at second_in
    unfold Between
    omega
  · unfold Between at between
    by_cases last : second = 86400 * today
    · exact .inr last
    · exact .inl ⟨second / 86400, by omega, by omega, by unfold InDay; omega⟩
  · unfold Between
    omega
  · unfold InDay at second_in second_in'
    unfold Between at between ⊢
    omega

/-- A week, asked for in the afternoon: of the day that has begun its first second lies in the
window. -/
theorem week_has_a_second_more :
    window? (.last 7 .days) 1686835800 = some (1686182400, 1686787200)
      ∧ ¬ WholeDays 1686182400 1686787200 := by
  refine ⟨by decide, fun whole => ?_⟩
  have later := whole 19523 1686787200 (by unfold InDay; omega) (by unfold Between; omega)
    1686787201 (by unfold InDay; omega)
  unfold Between at later
  omega

end Window

open Window in
/-- **The window of a history over days or years `Covers` as many whole days as it is asked for, and
the first second of today**, since `BETWEEN` includes its upper end. -/
theorem history_days {request : Request} {settings : Settings} {now today : Int}
    {c : Sql.Compiled} {count : UInt32} {unit : TimeUnit}
    (compiles : Summary.compile request .history settings now = .ok c)
    (ranged : Summary.range request settings = .ok (.last count unit)) (whole : unit ≠ .hours)
    (now_in : InDay today now) :
    ∃ choice filter low high,
      c = (Summary.history choice filter (some (low, high))).compiled settings.passing
        ∧ Covers today (daysOf count unit) low high := by
  obtain ⟨choice, filter, window, -, -, ended, rfl⟩ := Summary.compile_eq_ok.1 compiles
  rw [Summary.ends, ranged] at ended
  obtain rfl := Except.ok.inj ended
  refine ⟨choice, filter, finish unit now - (count.toNat * unit.seconds : Nat), finish unit now,
    rfl, ?_⟩
  have length := length_eq whole count
  rw [length, finish_of_ne_hours whole]
  exact covers (by omega) now_in

/-- A history of seven days. -/
def lastWeek : Request :=
  .ofPairs [("range", "7d")]

open Window in
/-- Seven days, asked for on the fifteenth of June 2023 in the afternoon. -/
theorem history_days_lastWeek :
    ∃ c choice filter low high,
      Summary.compile lastWeek .history {} 1686835800 = .ok c
        ∧ c = (Summary.history choice filter (some (low, high))).compiled .inline
        ∧ Covers 19523 7 low high := by
  have asked : Filter.assemble lastWeek .history = .ok [] := by decide +kernel
  have ranged : Summary.range lastWeek {} = .ok (.last 7 .days) := by decide +kernel
  have ended : Summary.ends lastWeek .history {} 1686835800
      = .ok (some (1686182400, 1686787200)) := by decide +kernel
  obtain ⟨c, compiles⟩ : ∃ c, Summary.compile lastWeek .history {} 1686835800 = .ok c :=
    ⟨_, Summary.compile_eq_ok.2 ⟨_, _, _, rfl, asked, ended, rfl⟩⟩
  obtain ⟨choice, filter, low, high, compiled, covers⟩ :=
    history_days compiles ranged (by decide) (show InDay 19523 1686835800 by unfold InDay; omega)
  exact ⟨c, choice, filter, low, high, compiles, compiled, covers⟩

end SaleSearch
