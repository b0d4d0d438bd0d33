import SaleSearch.Text.Character

/-!
# Written numbers

How whole numbers are written, and what the reader of a decimal finds before giving it a value. A
numeral is a sign, digits before and after the point, and an exponent. Which characters count as
digits is left open, because some grammars take digits of any script and only afterwards insist on
ASCII.

* `decimal` writes a whole number without superfluous zeros, a minus sign in front of a negative
  one, and `signed` is the number that a sign and a magnitude denote.
* `fitsInt64` and `fitsUInt64` are the ranges of 64 bits that bound the numbers a request, a setting
  or a row may hold.
* `Numeral.scan` takes the longest numeral that a text starts with, in the language
  `[+-]? (d+ ('.' d*)? | '.' d+) ([eE] [+-]? d+)?`.
* `Numeral.value` is the number that a numeral in ASCII digits denotes, as a `Decimal`.
-/

namespace SaleSearch.Number

open Text

/-! ## Whole numbers -/

/-- The decimal text of a whole number. -/
def decimal (n : Int) : String :=
  if n < 0 then "-" ++ n.natAbs.repr else n.natAbs.repr

/-- The number with a sign and a magnitude. -/
def signed (negative : Bool) (magnitude : Nat) : Int :=
  if negative then -(magnitude : Int) else magnitude

/-- `2 ^ 63`, below which the numbers of 64 bits with a sign lie. -/
def signedBound : Nat := 9223372036854775808

/-- `2 ^ 64`, below which the numbers of 64 bits without a sign lie. -/
def unsignedBound : Nat := 18446744073709551616

/-- Is it a number of 64 bits with a sign? -/
def fitsInt64 (n : Int) : Bool :=
  -(signedBound : Int) ≤ n && n < (signedBound : Int)

/-- Is it a number of 64 bits without a sign? -/
def fitsUInt64 (n : Nat) : Bool :=
  n < unsignedBound

theorem fitsInt64_iff {n : Int} :
    fitsInt64 n = true ↔ -9223372036854775808 ≤ n ∧ n < 9223372036854775808 := by
  rw [fitsInt64, Bool.and_eq_true, decide_eq_true_eq, decide_eq_true_eq]
  exact Iff.rfl

/-! ## Numerals -/

/-- The number `± coefficient · 10 ^ exponent`. -/
structure Decimal where
  negative : Bool
  coefficient : Nat
  exponent : Int
  deriving DecidableEq, Repr

/-- A decimal as written. The exponent, where there is one, has a sign and digits. -/
structure Numeral where
  negative : Bool
  whole : List Char
  fraction : List Char
  exponent : Option (Bool × List Char)
  deriving DecidableEq, Repr

/-- An optional sign, and the text after it. -/
def takeSign : List Char → Bool × List Char
  | '-' :: rest => (true, rest)
  | '+' :: rest => (false, rest)
  | text => (false, text)

/-- The number that ASCII digits denote. -/
def digitsValue (digits : List Char) : Nat :=
  Nat.ofDigitChars 10 digits 0

namespace Numeral

/-- An exponent that the text starts with; without digits it is none. -/
def scanExponent (isDigit : Char → Bool) : List Char → Option (Bool × List Char) × List Char
  | [] => (none, [])
  | c :: rest =>
      let (negative, digits) := takeSign rest
      if (c = 'e' ∨ c = 'E') ∧ (digits.takeWhile isDigit).isEmpty = false then
        (some (negative, digits.takeWhile isDigit), digits.dropWhile isDigit)
      else (none, c :: rest)

/-- The longest numeral in front, and the text after it. A point needs a digit on one of its
sides. -/
def scan (isDigit : Char → Bool) (text : List Char) : Option (Numeral × List Char) :=
  let (negative, body) := takeSign text
  let whole := body.takeWhile isDigit
  match body.dropWhile isDigit with
  | '.' :: after =>
      let fraction := after.takeWhile isDigit
      if whole.isEmpty && fraction.isEmpty then none
      else
        let (exponent, rest) := scanExponent isDigit (after.dropWhile isDigit)
        some ({ negative, whole, fraction, exponent }, rest)
  | after =>
      if whole.isEmpty then none
      else
        let (exponent, rest) := scanExponent isDigit after
        some ({ negative, whole, fraction := [], exponent }, rest)

/-- Are all digits ASCII digits, so that the numeral has a value? -/
def isAscii (n : Numeral) : Bool :=
  n.whole.all isAsciiDigit && n.fraction.all isAsciiDigit
    && n.exponent.all fun e => e.2.all isAsciiDigit

/-- The exponent as a number; without one it is zero. -/
def exponentValue (n : Numeral) : Int :=
  match n.exponent with
  | none => 0
  | some (negative, digits) => signed negative (digitsValue digits)

/-- The number that the numeral denotes. The digits after the point lower the exponent. -/
def value (n : Numeral) : Decimal where
  negative := n.negative
  coefficient := digitsValue (n.whole ++ n.fraction)
  exponent := n.exponentValue - n.fraction.length

end Numeral

end SaleSearch.Number
