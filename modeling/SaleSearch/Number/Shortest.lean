import SaleSearch.Number.Binary64

/-!
# The fewest digits that read back

A finite binary number is written with as few decimal digits as still round to it. The reals that
round to `m · 2 ^ e` form an interval, which contains its ends exactly if `m` is even; the search
goes from coarse decimal grids to fine ones and stops at the first grid with a point in it.

* `Interval` is that interval, in quarters of the unit `2 ^ e`.
* `Grid.hit?` looks at the two points of one grid around the number.
* `shortest` runs through the grids.
-/

namespace SaleSearch.Number

/-- Which of two decimals is taken if both are equally near. -/
inductive Tie where
  | up
  | even
  deriving DecidableEq, Repr

/-- Decimal digits `d₁ d₂ …`, the first of which counts `10 ^ exponent`. -/
structure Digits where
  digits : List Char
  exponent : Int
  deriving DecidableEq, Repr

/-- The interval of reals that round to a binary number. Its ends and the number itself are
multiples of `2 ^ scale`. -/
structure Interval where
  low : Nat
  value : Nat
  high : Nat
  closed : Bool
  scale : Int
  deriving DecidableEq, Repr

/-- The interval of `significand · 2 ^ exponent`, in quarters of `2 ^ exponent`. The number below a
power of two is only half as far away as the one above, except at the bottom of the range. -/
def Interval.of (significand : Nat) (exponent : Int) : Interval where
  low :=
    if 2 * significand = Binary64.significandBound ∧ Binary64.leastExponent < exponent then
      4 * significand - 1
    else 4 * significand - 2
  value := 4 * significand
  high := 4 * significand + 2
  closed := significand % 2 = 0
  scale := exponent - 2

/-- The multiples of `10 ^ k` seen from an interval: `value * step` over `unit` counts them. -/
structure Grid where
  step : Nat
  unit : Nat
  deriving DecidableEq, Repr

/-- The grid of `10 ^ k` seen from the interval. -/
def Interval.grid (i : Interval) (k : Int) : Grid where
  step := Nat.pow 2 i.scale.toNat * Nat.pow 10 (-k).toNat
  unit := Nat.pow 2 (-i.scale).toNat * Nat.pow 10 k.toNat

/-- Does the interval contain the grid point `c`? -/
def Grid.contains (g : Grid) (i : Interval) (c : Nat) : Bool :=
  if i.closed then i.low * g.step ≤ c * g.unit && c * g.unit ≤ i.high * g.step
  else i.low * g.step < c * g.unit && c * g.unit < i.high * g.step

/-- The nearer of the grid point at or below the number and the one above. -/
def Grid.nearest (g : Grid) (i : Interval) (tie : Tie) : Nat :=
  let below := i.value * g.step / g.unit
  let rest := i.value * g.step % g.unit
  if 2 * rest < g.unit then below
  else if g.unit < 2 * rest then below + 1
  else match tie with
    | .up => below + 1
    | .even => below + below % 2

/-- A grid point inside the interval, the nearer one if there are two. -/
def Grid.hit? (g : Grid) (i : Interval) (tie : Tie) : Option Nat :=
  let below := i.value * g.step / g.unit
  match g.contains i below, g.contains i (below + 1) with
  | true, true => some (g.nearest i tie)
  | true, false => some below
  | false, true => some (below + 1)
  | false, false => none

/-- The exponent of the power of ten at or below the quotient of two positive numbers. -/
def floorLog10 (num den : Nat) : Int :=
  if den ≤ num then ((Nat.toDigits 10 (num / den)).length : Int) - 1
  else
    let length := (Nat.toDigits 10 (den / num)).length
    if den ≤ num * Nat.pow 10 (length - 1) then -((length : Int) - 1) else -(length : Int)

/-- The first hit among the grids of `10 ^ k` and finer ones; the last grid is not tested, as some
grid of seventeen digits always has a hit. -/
def Interval.search (i : Interval) (tie : Tie) : Nat → Int → Nat × Int
  | 0, k => ((i.grid k).nearest i tie, k)
  | finer + 1, k =>
      match (i.grid k).hit? i tie with
      | some c => (c, k)
      | none => i.search tie finer (k - 1)

/-- A whole multiple of a power of ten as digits without trailing zeros. -/
def Digits.ofScaled (c : Nat) (k : Int) : Digits :=
  let all := Nat.toDigits 10 c
  { digits := (all.reverse.dropWhile (· == '0')).reverse
    exponent := k + all.length - 1 }

/-- The digits of `significand · 2 ^ exponent`, which is not zero. -/
def shortest (tie : Tie) (significand : Nat) (exponent : Int) : Digits :=
  let top := floorLog10 (significand * Nat.pow 2 exponent.toNat) (Nat.pow 2 (-exponent).toNat)
  let found := (Interval.of significand exponent).search tie 16 top
  Digits.ofScaled found.1 found.2

end SaleSearch.Number
