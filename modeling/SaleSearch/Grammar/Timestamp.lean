import SaleSearch.Calendar
import SaleSearch.Number.Numeral

/-!
# Timestamps

A timestamp is given as a number, of ten digits for seconds or thirteen for milliseconds, or as a
date with or without a time of day, in UTC. Both become whole seconds since the start of 1970.

A number of another length is an error, and the only one: any other text that is no date counts as
absent.

* `ofNumber` applies the rule for numbers.
* `moment?` is the grammar of dates.
* `timestamp` reads a parameter.
-/

namespace SaleSearch.Grammar

open Number Text Calendar

/-- A number that is no timestamp, in the form in which it is reported. -/
structure MalformedTimestamp where
  input : String
  deriving DecidableEq, Repr

/-- The message of the rejection. -/
def MalformedTimestamp.message (e : MalformedTimestamp) : String :=
  "Invalid timestamp: " ++ e.input

namespace Timestamp

/-- The rule for numbers: ten characters are seconds, thirteen are milliseconds. What is measured is
the text of the number, so that the sign of a negative one counts. -/
def ofNumber (n : Int) : Except MalformedTimestamp Int :=
  if (decimal n).length = 10 then .ok n
  else if (decimal n).length = 13 then .ok (n / 1000)
  else .error { input := decimal n }

/-- Exactly so many ASCII digits, and the text after them. -/
def fixed? (count : Nat) (text : List Char) : Option (Nat × List Char) :=
  let digits := text.take count
  if digits.length = count ∧ digits.all isAsciiDigit then
    some (digitsValue digits, text.drop count)
  else none

/-- Between one and nine digits of any script. -/
def isFraction (text : List Char) : Bool :=
  !text.isEmpty && text.length ≤ 9 && text.all isDecimalDigit

/-- What may follow the minutes: nothing, or seconds with or without a fraction, which is
dropped. -/
def second? (m : Moment) : List Char → Option Moment
  | [] => some m
  | ':' :: text => do
      let (second, rest) ← fixed? 2 text
      match rest with
      | [] => some { m with second }
      | '.' :: fraction => if isFraction fraction then some { m with second } else none
      | _ => none
  | _ => none

/-- What may follow the day: nothing, or a time of day after `T` or a space. -/
def time? (m : Moment) : List Char → Option Moment
  | [] => some m
  | separator :: text =>
      if separator = 'T' ∨ separator = ' ' then do
        let (hour, rest) ← fixed? 2 text
        match rest with
        | ':' :: rest => do
            let (minute, rest) ← fixed? 2 rest
            second? { m with hour, minute } rest
        | _ => none
      else none

/-- What may follow the month. -/
def day? (m : Moment) : List Char → Option Moment
  | [] => some m
  | '-' :: text => do
      let (day, rest) ← fixed? 2 text
      time? { m with day } rest
  | _ => none

/-- What may follow the year. -/
def month? (m : Moment) : List Char → Option Moment
  | [] => some m
  | '-' :: text => do
      let (month, rest) ← fixed? 2 text
      day? { m with month } rest
  | _ => none

/-- A date, cut off after the year, the month, the day, the minutes, the seconds or their
fraction. -/
def moment? (text : List Char) : Option Moment := do
  let (year, rest) ← fixed? 4 text
  month? { year } rest

/-- A single `Z` at the end says that the time is UTC, which it is anyway. -/
def stripZone (text : List Char) : List Char :=
  if text.getLast? = some 'Z' then text.dropLast else text

/-- The seconds of a date that exists, written with or without a zone. -/
def calendar? (text : List Char) : Option Int := do
  let m ← moment? (stripZone text)
  if m.isReal then some m.seconds else none

/-- Digits as a number; one that does not fit 64 bits is reported as it was sent. -/
def ofDigits (text : String) : Except MalformedTimestamp Int :=
  let n := digitsValue text.toList
  if fitsInt64 n then ofNumber n else .error { input := text }

/-- A timestamp as it is written. Only digits can fail; what is neither digits nor a date is
nothing. -/
def read (text : String) : Except MalformedTimestamp (Option Int) :=
  if text ≠ "" ∧ text.toList.all isAsciiDigit then (ofDigits text).map some
  else .ok (calendar? text.toList)

end Timestamp

/-- The timestamp of a parameter. -/
def timestamp : Option String → Except MalformedTimestamp (Option Int)
  | none => .ok none
  | some text => Timestamp.read text

end SaleSearch.Grammar
