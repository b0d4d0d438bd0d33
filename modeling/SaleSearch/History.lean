import SaleSearch.Json.Value
import SaleSearch.Text.Character

/-!
# Histories

A history query answers with one row for each chain, currency and day; what is handed out is one
series for each chain and currency. Series come in the order in which their pairs first have a
value, and within a series the rows keep their order. Rows without a value are left out.

* `RowValue.number?` is the value of a row: a number, or text that reads as a finite one.
* `Series.push` puts a value and its time into the two lists of a series, one after the other.
* `History.fold` groups rows into series.
* `Row.ofJson?` reads a row, and `Series.toJson` writes a series.
-/

namespace SaleSearch.History

open Number

/-- The value of a row as it stands in the answer. Large whole numbers come as text. -/
inductive RowValue where
  | number (x : Binary64)
  | text (s : String)
  deriving DecidableEq, Repr

/-- The value of a row as a number. Text counts if it reads as a finite one, with or without blanks
around it. -/
def RowValue.number? : RowValue → Option Binary64
  | .number x => some x
  | .text s => (Binary64.ofText? (Text.trimBlanks s.toList)).filter Binary64.isFinite

/-- A row of an answer. -/
structure Row where
  chain : String
  symbolCode : String
  timestamp : Int
  value : RowValue
  deriving DecidableEq, Repr

/-- The values of one chain and currency, in two lists that are filled side by side. -/
structure Series where
  network : String
  symbolCode : String
  values : List Binary64
  timestamps : List Int
  /-- The seconds from one value to the next. -/
  interval : Int
  deriving DecidableEq, Repr

namespace Series

/-- A series that nothing has been put into. -/
def opened (interval : Int) (chain symbolCode : String) : Series :=
  { network := chain, symbolCode, values := [], timestamps := [], interval }

/-- Is it the series of this pair? -/
def isOf (chain symbolCode : String) (s : Series) : Bool :=
  s.network = chain && s.symbolCode = symbolCode

/-- Put a value at the end of the values. -/
def pushValue (value : Binary64) (s : Series) : Series :=
  { s with values := s.values ++ [value] }

/-- Put a time at the end of the times. -/
def pushTimestamp (timestamp : Int) (s : Series) : Series :=
  { s with timestamps := s.timestamps ++ [timestamp] }

/-- The value goes to the end of one list, and then its time to the end of the other. -/
def push (timestamp : Int) (value : Binary64) (s : Series) : Series :=
  (s.pushValue value).pushTimestamp timestamp

end Series

/-- The first series of a pair takes a value and its time. If there is none, a new one is opened at
the end. -/
def place (interval : Int) (chain symbolCode : String) (timestamp : Int) (value : Binary64) :
    List Series → List Series
  | [] => [(Series.opened interval chain symbolCode).push timestamp value]
  | s :: rest =>
      if s.isOf chain symbolCode then s.push timestamp value :: rest
      else s :: place interval chain symbolCode timestamp value rest

/-- A row with a value goes into the series of its pair, and any other row is dropped. -/
def add (interval : Int) (series : List Series) (row : Row) : List Series :=
  match row.value.number? with
  | none => series
  | some value => place interval row.chain row.symbolCode row.timestamp value series

/-- The series of some rows, which are taken one after another. -/
def fold (rows : List Row) (interval : Int) : List Series :=
  rows.foldl (add interval) []

/-! ## Rows and series as JSON -/

/-- A value in JSON: text as it stands, or any finite number. -/
def RowValue.ofJson? (json : Json) : Option RowValue :=
  match json with
  | .string s => some (.text s)
  | _ => json.number?.map .number

namespace Row

/-- A row by its four parts. -/
def ofParts? (chain symbolCode timestamp value : Json) : Option Row := do
  let chain ← chain.string?
  let symbolCode ← symbolCode.string?
  let timestamp ← timestamp.signed?
  let value ← RowValue.ofJson? value
  return { chain, symbolCode, timestamp, value }

/-- A row is an object, in which other members are passed over, or an array of its four parts. -/
def ofJson? : Json → Option Row
  | .array [chain, symbolCode, timestamp, value] => ofParts? chain symbolCode timestamp value
  | .object members => do
      let chain ← Json.member? members "chain"
      let symbolCode ← Json.member? members "symbol_code"
      let timestamp ← Json.member? members "timestamp"
      let value ← Json.member? members "value"
      ofParts? chain symbolCode timestamp value
  | _ => none

end Row

/-- The rows of an array. -/
def rows? (json : Json) : Option (List Row) := do
  (← json.array?).mapM Row.ofJson?

/-- A series as an object. -/
def Series.toJson (s : Series) : Json :=
  .object [
    ("network", .string s.network),
    ("symbol_code", .string s.symbolCode),
    ("values", .array (s.values.map .float)),
    ("timestamps", .array (s.timestamps.map .integer)),
    ("interval", .integer s.interval)]

end SaleSearch.History
