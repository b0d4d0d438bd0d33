import SaleSearch.Number.Shortest

/-!
# Layouts of decimal text

The digits of a number are the same wherever it is written; what differs is where they are set out
positionally, whether a whole number keeps a point, and which of two equally near decimals is taken.
A `Layout` is one such choice.

* `Layout.plain` is how statements and answers show a number: always positional, `100`, `0.1`.
* `Layout.document` is how a JSON document shows it: `100.0`, and an exponent for very small and
  very large numbers, `1e-6`, `1e+16`.
-/

namespace SaleSearch.Number

/-- How the digits of a number are set out. -/
structure Layout where
  /-- The least and the greatest exponent of the first digit that is set out positionally; without
  bounds every number is. -/
  positional : Option (Int × Int)
  /-- Does a whole number end in `.0`? -/
  pointZero : Bool
  tie : Tie
  deriving DecidableEq, Repr

namespace Layout

/-- The layout of statements and answers. -/
def plain : Layout where
  positional := none
  pointZero := false
  tie := .up

/-- The layout of JSON documents. -/
def document : Layout where
  positional := some (-5, 15)
  pointZero := true
  tie := .even

/-- Digits with the point in its place, and as many zeros as that needs. -/
def setOut (pointZero : Bool) (d : Digits) : List Char :=
  if d.exponent < 0 then
    '0' :: '.' :: List.replicate (-d.exponent - 1).toNat '0' ++ d.digits
  else
    let places := d.exponent.toNat + 1
    if d.digits.length ≤ places then
      d.digits ++ List.replicate (places - d.digits.length) '0'
        ++ (if pointZero then ['.', '0'] else [])
    else d.digits.take places ++ '.' :: d.digits.drop places

/-- One digit before the point and an exponent with its sign. -/
def withExponent (d : Digits) : List Char :=
  let mantissa := match d.digits with
    | [] => []
    | [first] => [first]
    | first :: others => first :: '.' :: others
  mantissa ++ 'e' :: (if d.exponent < 0 then '-' else '+') :: Nat.toDigits 10 d.exponent.natAbs

/-- Is a number whose first digit has this exponent set out positionally? -/
def isPositional (l : Layout) (exponent : Int) : Bool :=
  l.positional.all fun bounds => bounds.1 ≤ exponent && exponent ≤ bounds.2

/-- Digits in a layout, without a sign. -/
def digits (l : Layout) (d : Digits) : List Char :=
  if l.isPositional d.exponent then setOut l.pointZero d else withExponent d

/-- The text of a number; an infinity and what is no number have names. -/
def text (l : Layout) : Binary64 → String
  | .finite negative significand exponent =>
      let magnitude := if significand = 0 then { digits := ['0'], exponent := 0 }
        else shortest l.tie significand exponent
      String.ofList ((if negative then ['-'] else []) ++ l.digits magnitude)
  | .infinite negative => if negative then "-inf" else "inf"
  | .nan => "NaN"

end Layout

end SaleSearch.Number
