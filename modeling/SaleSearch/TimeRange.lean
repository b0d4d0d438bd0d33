import SaleSearch.Number.Numeral
import SaleSearch.Token

/-!
# Time ranges

How far a history looks back: a number of hours, days or years, written `24h`, `7d`, `1y`, or
everything, written `all`. The number fits 32 bits; superfluous zeros in front of it do not matter.

* `TimeRange.ofToken?` and `TimeRange.text` read and write a range; `TimeRange.read` also says what
  is wrong with a token.
* `TimeRange.accepted` lists the few tokens that a request may use; settings may use any.
* `Window.window?` is the pair of seconds between which a range lies at a given moment, or nothing
  if all times are meant. Hours are counted back from the moment itself, days and years from the
  last midnight, which is `Window.startOfDay`, also before 1970.
-/

namespace SaleSearch

/-- The units of a time range. -/
inductive TimeUnit where
  | hours
  | days
  | years
  deriving DecidableEq, Repr

namespace TimeUnit

/-- The letter that stands behind the number. -/
def letter : TimeUnit → Char
  | .hours => 'h'
  | .days => 'd'
  | .years => 'y'

/-- The unit of a letter. -/
def ofLetter? : Char → Option TimeUnit
  | 'h' => some .hours
  | 'd' => some .days
  | 'y' => some .years
  | _ => none

/-- A year has 365 days here. -/
def seconds : TimeUnit → Nat
  | .hours => 3600
  | .days => 86400
  | .years => 365 * 86400

/-- `ofLetter?` reads what `letter` writes. -/
theorem ofLetter?_letter (u : TimeUnit) : ofLetter? u.letter = some u := by
  cases u <;> rfl

end TimeUnit

/-- A number of units, or all times. -/
inductive TimeRange where
  | last (count : UInt32) (unit : TimeUnit)
  | all
  deriving DecidableEq, Repr

namespace TimeRange

/-- The token of a range, with the number in its decimal text. -/
def text : TimeRange → String
  | .last count unit => count.toNat.repr ++ String.singleton unit.letter
  | .all => "all"

/-- Digits that denote a number of 32 bits, with or without zeros in front. -/
def readCount? (digits : List Char) : Option UInt32 :=
  if digits ≠ [] ∧ digits.all Text.isAsciiDigit ∧ Number.digitsValue digits < UInt32.size then
    some (UInt32.ofNat (Number.digitsValue digits))
  else none

/-- The range of a token. -/
def ofToken? (token : String) : Option TimeRange :=
  if token = "all" then some .all
  else do
    let unit ← TimeUnit.ofLetter? (← token.toList.getLast?)
    let count ← readCount? token.toList.dropLast
    return .last count unit

/-- The range of a token, or the complaint that it is none. -/
def read : String → Except UnknownToken TimeRange :=
  TokenSet.timeRange.read ofToken?

/-- The tokens that a request may use. -/
def accepted : List String := ["24h", "7d", "30d", "90d", "1y", "all"]

end TimeRange

end SaleSearch

/-! ## Windows -/

namespace SaleSearch.Window

/-- The seconds of a day, which are also the seconds between the values of a history. -/
def daySeconds : Int := 86400

/-- The last midnight at or before a moment. -/
def startOfDay (now : Int) : Int :=
  now - now % daySeconds

/-- Where the window of a unit ends. -/
def finish (unit : TimeUnit) (now : Int) : Int :=
  match unit with
  | .hours => now
  | .days | .years => startOfDay now

/-- The two ends of a range at a moment, or nothing if all times are meant. -/
def window? (range : TimeRange) (now : Int) : Option (Int × Int) :=
  match range with
  | .all => none
  | .last count unit =>
      some (finish unit now - (count.toNat * unit.seconds : Nat), finish unit now)

/-- The last midnight is not after the moment. -/
theorem startOfDay_le (now : Int) : startOfDay now ≤ now := by
  unfold startOfDay daySeconds
  omega

/-- The next midnight is after the moment. -/
theorem lt_startOfDay_add (now : Int) : now < startOfDay now + daySeconds := by
  unfold startOfDay daySeconds
  omega

end SaleSearch.Window
