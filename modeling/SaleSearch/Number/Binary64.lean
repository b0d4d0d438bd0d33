import SaleSearch.Number.Numeral

/-!
# Binary numbers of 64 bits

Prices and series values are rounded to the numbers `± m · 2 ^ e` with `m < 2 ^ 53` and
`-1074 ≤ e ≤ 971`, besides two infinities and a value that is no number.

* `Binary64.ofRatio` rounds a quotient to the nearest of them, a tie to the even significand.
* `Binary64.ofDecimal` rounds a decimal. Exponents are unbounded in writing, so what lies far
  outside the range is recognised before any power of ten is formed.
* `Binary64.ofText?` reads a whole text.
-/

namespace SaleSearch.Number

/-- A binary number of 64 bits, `significand · 2 ^ exponent` if it is finite. -/
inductive Binary64 where
  | finite (negative : Bool) (significand : Nat) (exponent : Int)
  | infinite (negative : Bool)
  | nan
  deriving DecidableEq, Repr

namespace Binary64

/-- Significands stay below the fifty-third power of two. -/
def significandBound : Nat := 9007199254740992

/-- The exponent of the subnormal numbers. -/
def leastExponent : Int := -1074

/-- The exponent of the largest numbers. -/
def greatestExponent : Int := 971

/-- The zero of a sign. -/
def zero (negative : Bool) : Binary64 :=
  .finite negative 0 leastExponent

/-- Is it neither an infinity nor the value that is no number? -/
def isFinite : Binary64 → Bool
  | .finite .. => true
  | _ => false

/-- Is it above zero? Neither of the two zeros is. -/
def isPositive : Binary64 → Bool
  | .finite negative significand _ => !negative && significand != 0
  | .infinite negative => !negative
  | .nan => false

/-- A quotient rounded to the nearest whole number, a half to the even one. -/
def roundHalfEven (num den : Nat) : Nat :=
  if 2 * (num % den) < den then num / den
  else if den < 2 * (num % den) then num / den + 1
  else num / den + num / den % 2

/-- The exponent of the power of two at or below the quotient of two positive numbers. -/
def floorLog2 (num den : Nat) : Int :=
  let guess : Int := (num.log2 : Int) - den.log2
  if den * Nat.pow 2 guess.toNat ≤ num * Nat.pow 2 (-guess).toNat then guess else guess - 1

/-- A number by its rounded significand, which may have reached the bound, and its exponent, which
may be too large. From `2 ^ 1024` on it is an infinity. -/
def pack (negative : Bool) (significand : Nat) (exponent : Int) : Binary64 :=
  let (m, e) :=
    if significand < significandBound then (significand, exponent)
    else (significand / 2, exponent + 1)
  if e ≤ greatestExponent then .finite negative m e else .infinite negative

/-- The binary number nearest to `± num / den`, for a positive `den`. -/
def ofRatio (negative : Bool) (num den : Nat) : Binary64 :=
  if num = 0 then zero negative
  else
    let exponent := max (floorLog2 num den - 52) leastExponent
    let significand :=
      roundHalfEven (num * Nat.pow 2 (-exponent).toNat) (den * Nat.pow 2 exponent.toNat)
    pack negative significand exponent

/-- From `10 ^ 310` on every number rounds to an infinity. -/
def decimalCeiling : Int := 310

/-- Below `10 ^ -330` every number rounds to zero. -/
def decimalFloor : Int := -330

/-- The binary number nearest to a decimal. With `n` digits in the coefficient the magnitude is at
least `10 ^ (n - 1 + exponent)` and less than `10 ^ (n + exponent)`. -/
def ofDecimal (d : Decimal) : Binary64 :=
  let magnitude := ((Nat.toDigits 10 d.coefficient).length : Int) + d.exponent
  if d.coefficient = 0 then zero d.negative
  else if decimalCeiling < magnitude then .infinite d.negative
  else if magnitude < decimalFloor then zero d.negative
  else ofRatio d.negative (d.coefficient * Nat.pow 10 d.exponent.toNat)
    (Nat.pow 10 (-d.exponent).toNat)

/-- The binary number nearest to a whole number. -/
def ofInt (n : Int) : Binary64 :=
  ofRatio (n < 0) n.natAbs 1

/-- The names of the values that have no digits, in lower case. -/
def ofName? (negative : Bool) (name : String) : Option Binary64 :=
  if name = "inf" ∨ name = "infinity" then some (.infinite negative)
  else if name = "nan" then some .nan
  else none

/-- A whole text as a number: a numeral in ASCII digits, or a name in any case after an optional
sign. -/
def ofText? (text : List Char) : Option Binary64 :=
  match Numeral.scan Text.isAsciiDigit text with
  | some (numeral, []) => some (ofDecimal numeral.value)
  | some _ => none
  | none =>
      let (negative, name) := takeSign text
      ofName? negative (String.ofList (name.map Char.toLower))

end Binary64

end SaleSearch.Number
