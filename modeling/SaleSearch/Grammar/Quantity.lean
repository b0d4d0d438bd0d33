import SaleSearch.Number.Binary64
import SaleSearch.Text.Character

/-!
# Quantities

Numeric parameters are read from the longest number that the text starts with, so `10abc` is 10.
Three outcomes are kept apart: nothing usable was sent (`absent`, which also covers zero and
negative numbers), what was sent is no number, or a positive value.

* `positiveInteger` and `positiveDecimal` are the two readers.
* `pageSize` is the limit of a listing: at least one, at most the larger of one and the maximum.
-/

namespace SaleSearch.Grammar

open Number Text

/-- What a numeric parameter comes to. Zero and negative numbers are `absent` as well. -/
inductive Quantity (α : Type) where
  | absent
  | notANumber
  | value (a : α)
  deriving DecidableEq, Repr

namespace Quantity

variable {α : Type}

/-- The value, if there is one. -/
def value? : Quantity α → Option α
  | .value a => some a
  | _ => none

def isAbsent : Quantity α → Bool
  | .absent => true
  | _ => false

def isNotANumber : Quantity α → Bool
  | .notANumber => true
  | _ => false

end Quantity

/-- A positive whole number; the others count as absent. -/
def ofInteger (n : Int) : Quantity Nat :=
  if n ≤ 0 then .absent else .value n.toNat

/-- The sign and the digits that a text starts with, after blanks. -/
def integerStart (text : List Char) : Bool × List Char :=
  let (negative, body) := takeSign (skipBlanks text)
  (negative, body.takeWhile isDecimalDigit)

/-- The whole number of 64 bits that a text starts with. Digits of other scripts and numbers out of
range give nothing. -/
def integer? (text : List Char) : Option Int :=
  let (negative, digits) := integerStart text
  if digits.isEmpty || !digits.all isAsciiDigit then none
  else
    let n := signed negative (digitsValue digits)
    if fitsInt64 n then some n else none

/-- A parameter as a positive whole number. One that is missing or empty is absent. -/
def positiveInteger (raw : Option String) : Quantity Nat :=
  match raw with
  | none | some "" => .absent
  | some text =>
      match integer? text.toList with
      | some n => ofInteger n
      | none => .notANumber

/-- The finite number that a text starts with, if all its digits are ASCII. -/
def decimal? (text : List Char) : Option Binary64 :=
  match Numeral.scan isDecimalDigit (skipBlanks text) with
  | none => none
  | some (numeral, _) =>
      if numeral.isAscii then
        let x := Binary64.ofDecimal numeral.value
        if x.isFinite then some x else none
      else none

/-- A parameter as a positive binary number. One that is missing or empty is absent. -/
def positiveDecimal (raw : Option String) : Quantity Binary64 :=
  match raw with
  | none | some "" => .absent
  | some text =>
      match decimal? text.toList with
      | some x => if x.isPositive then .value x else .absent
      | none => .notANumber

/-- The limit of a listing: what is asked for, at least one and at most the larger of one and
`maxLimit`. What is absent or no number counts as one. -/
def pageSize (raw : Option String) (maxLimit : Nat) : Nat :=
  min ((positiveInteger raw).value?.getD 1) (max maxLimit 1)

end SaleSearch.Grammar
